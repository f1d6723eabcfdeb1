import ClassExport.Proofs.Nesting
import Mathlib.Data.List.Induction

/-! A tree of chains is the list of its registries: the answers it gives, and the names it knows. -/
namespace ClassExport

/-- The members of a list in the order in which they first stand in it, each once. -/
structure FirstOccurrences (l occurrences : List String) : Prop where
  mem_iff : ∀ q, q ∈ occurrences ↔ q ∈ l
  order : occurrences.Pairwise fun a b => l.idxOf a < l.idxOf b

section

variable {l l' m m' : List String} {a : String}

theorem eraseDups_concat :
    (l ++ [a]).eraseDups = if a ∈ l then l.eraseDups else l.eraseDups ++ [a] := by
  rw [List.eraseDups_append, List.removeAll]
  by_cases h : a ∈ l <;> simp [h, List.eraseDups_cons]

theorem eraseDups_filter (p : String → Bool) (l : List String) :
    (l.filter p).eraseDups = l.eraseDups.filter p := by
  induction l using List.reverseRecOn with
  | nil => rfl
  | append_singleton l a ih =>
    rw [List.filter_append, eraseDups_concat]
    by_cases hp : p a
    · rw [List.filter_cons_of_pos hp, List.filter_nil, eraseDups_concat, ih]
      by_cases h : a ∈ l <;> simp [h, hp]
    · rw [List.filter_cons_of_neg hp, List.filter_nil, List.append_nil, ih]
      by_cases h : a ∈ l <;> simp [h, hp]

theorem eraseDups_of_nodup (h : l.Nodup) : l.eraseDups = l := by
  induction l using List.reverseRecOn with
  | nil => rfl
  | append_singleton l a ih =>
    obtain ⟨hl, -, ha⟩ := List.nodup_append.mp h
    have hn : a ∉ l := fun hm => ha a hm a (List.mem_singleton_self a) rfl
    rw [eraseDups_concat, if_neg hn, ih hl]

theorem eraseDups_append_congr (h : l.eraseDups = l'.eraseDups) (h' : m.eraseDups = m'.eraseDups) :
    (l ++ m).eraseDups = (l' ++ m').eraseDups := by
  have hmem : ∀ q, q ∈ l ↔ q ∈ l' := by
    intro q
    rw [← List.mem_eraseDups, h, List.mem_eraseDups]
  rw [List.eraseDups_append, List.eraseDups_append, List.removeAll, List.removeAll,
    eraseDups_filter, eraseDups_filter, h, h']
  congr 1
  refine List.filter_congr fun q _ => ?_
  simp [hmem]

theorem firstOccurrences_eraseDups (l : List String) : FirstOccurrences l l.eraseDups := by
  refine ⟨fun q => List.mem_eraseDups, ?_⟩
  induction l using List.reverseRecOn with
  | nil => exact .nil
  | append_singleton l a ih =>
    have hidx : ∀ q ∈ l.eraseDups, (l ++ [a]).idxOf q = l.idxOf q := by
      intro q hq
      rw [List.idxOf_append, if_pos (List.mem_eraseDups.mp hq)]
    have hold : l.eraseDups.Pairwise fun q r => (l ++ [a]).idxOf q < (l ++ [a]).idxOf r := by
      refine ih.imp_of_mem fun hq hr hlt => ?_
      rwa [hidx _ hq, hidx _ hr]
    rw [eraseDups_concat]
    split
    · exact hold
    · rename_i ha
      refine List.pairwise_append.mpr ⟨hold, List.pairwise_singleton _ _, fun q hq r hr => ?_⟩
      rw [List.mem_singleton.mp hr, hidx q hq, List.idxOf_append, if_neg ha]
      exact Nat.lt_add_left _ (List.idxOf_lt_length_of_mem (List.mem_eraseDups.mp hq))

theorem nodup_eraseDups (l : List String) : l.eraseDups.Nodup := by
  refine (firstOccurrences_eraseDups l).order.imp ?_
  rintro a _ hlt rfl
  exact Nat.lt_irrefl _ hlt

end

namespace ClassSource

variable {name : String} {s t e : ClassSource} {sources : List ClassSource}

/-- Whether a registry has no class under a name. -/
def misses (name : String) (r : Registry) : Bool :=
  match r.resolve name with
  | .error (.classNotFound _) => true
  | _ => false

/-- The answer of the first registry that does not miss the class. -/
def firstAnswer (name : String) (rs : List Registry) : Except Failure Class :=
  match rs.find? fun r => !misses name r with
  | some r => r.resolve name
  | none => .error (.classNotFound name)

theorem misses_iff {r : Registry} :
    misses name r ↔ ∃ n, r.resolve name = .error (.classNotFound n) := by
  rw [misses]
  split
  · simp_all
  · rename_i h
    refine iff_of_false Bool.false_ne_true ?_
    rintro ⟨n, hn⟩
    exact h n hn

theorem resolveFirst_eq_firstAnswer (name : String) (rs : List Registry) :
    resolveFirst name (rs.map registry) = firstAnswer name rs := by
  induction rs with
  | nil => rfl
  | cons r rs ih =>
    rw [List.map_cons, firstAnswer]
    by_cases hr : misses name r
    · obtain ⟨n, hn⟩ := misses_iff.mp hr
      rw [resolveFirst_of_missing (n := n) (by rwa [resolve_registry]), ih,
        List.find?_cons_of_neg (by simp [hr]), firstAnswer]
    · have hn : ∀ n, (registry r).resolve name ≠ .error (.classNotFound n) := by
        intro n hn
        rw [resolve_registry] at hn
        exact hr (misses_iff.mpr ⟨n, hn⟩)
      rw [resolveFirst_of_not_missing hn, List.find?_cons_of_pos (by simp [hr]), resolve_registry]

theorem resolve_eq_firstAnswer (s : ClassSource) (name : String) :
    s.resolve name = firstAnswer name s.registries := by
  rw [resolve_eq_resolveFirst_registries, resolveFirst_eq_firstAnswer]

mutual

theorem known_eq_eraseDups :
    ∀ s : ClassSource, s.known = (s.registries.flatMap Registry.known).eraseDups
  | .registry r => by
    rw [known, registries, List.flatMap_singleton, eraseDups_of_nodup r.known_nodup]
  | .chain sources => by
    rw [known, registries]
    exact eraseDups_knownAll sources

theorem eraseDups_knownAll : ∀ sources : List ClassSource,
    (knownAll sources).eraseDups = ((registriesOf sources).flatMap Registry.known).eraseDups
  | [] => rfl
  | s :: rest => by
    rw [knownAll, registriesOf, List.flatMap_append]
    refine eraseDups_append_congr ?_ (eraseDups_knownAll rest)
    rw [known_eq_eraseDups s, eraseDups_of_nodup (nodup_eraseDups _)]

end

theorem registriesOf_append (sources rest : List ClassSource) :
    registriesOf (sources ++ rest) = registriesOf sources ++ registriesOf rest := by
  induction sources with
  | nil => rfl
  | cons s sources ih => rw [List.cons_append, registriesOf, registriesOf, ih, List.append_assoc]

theorem known_chain_concat (sources : List ClassSource) (e : ClassSource) :
    (chain (sources ++ [e])).known =
      (chain sources).known ++ e.known.filter (· ∉ (chain sources).known) := by
  rw [known_eq_eraseDups, known_eq_eraseDups (chain sources), known_eq_eraseDups e,
    registries, registries, registriesOf_append, registriesOf, registriesOf, List.append_nil,
      List.flatMap_append, List.eraseDups_append,
    List.removeAll, eraseDups_filter]
  congr 1
  refine List.filter_congr fun q _ => ?_
  simp only [List.elem_eq_mem, List.mem_eraseDups, decide_not]

theorem resolve_chain_concat (sources : List ClassSource) (e : ClassSource) (name : String) :
    (chain (sources ++ [e])).resolve name = match (chain sources).resolve name with
      | .error (.classNotFound _) => e.resolve name
      | answer => answer := by
  have happend : resolveFirst name (sources ++ [e]) = _ := resolveFirst_append
  rw [resolveFirst_singleton] at happend
  rw [resolve, resolve]
  exact happend

/-- A tree of chains answers each name as the first of its registries that does not miss it, and
knows the names of all its registries, each where it first stands. Trees with the same registries
are not told apart, and a source that is put behind a chain answers only what the chain misses and
adds only names that the chain does not know. -/
theorem answers_as_registries (s : ClassSource) :
    (∀ name, s.resolve name = firstAnswer name s.registries) ∧
    FirstOccurrences (s.registries.flatMap Registry.known) s.known ∧
    (∀ t : ClassSource, t.registries = s.registries → t.known = s.known ∧
      ∀ name, t.resolve name = s.resolve name) ∧
    ∀ sources e, s = chain sources →
      (chain (sources ++ [e])).known = s.known ++ e.known.filter (· ∉ s.known) ∧
      ∀ name, (chain (sources ++ [e])).resolve name = match s.resolve name with
        | .error (.classNotFound _) => e.resolve name
        | answer => answer := by
  refine ⟨resolve_eq_firstAnswer s, ?_, ?_, ?_⟩
  · rw [known_eq_eraseDups]
    exact firstOccurrences_eraseDups _
  · intro t ht
    refine ⟨?_, fun name => ?_⟩
    · rw [known_eq_eraseDups, known_eq_eraseDups, ht]
    · rw [resolve_eq_firstAnswer, resolve_eq_firstAnswer, ht]
  · rintro sources e rfl
    exact ⟨known_chain_concat sources e, resolve_chain_concat sources e⟩

end ClassSource
end ClassExport
