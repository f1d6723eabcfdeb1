import ClassExport.Proofs.Qualifying
import Mathlib.Data.List.DropRight

/-!
The spelling of the separators in a name: what the normal form of a name is, and that answers depend
on it alone.
-/
namespace ClassExport

open ClassName

variable {n name a b : String} {cs ds : List Char} {segments : List String}

/-- The failure that a name meets where another one met this failure: the name that was asked for is
told anew. -/
def Failure.askedAs (name : String) : Failure → Failure
  | .classNotFound _ => .classNotFound name
  | .ambiguousClass _ candidates => .ambiguousClass name candidates
  | failure => failure

namespace ClassName

/-- A name with no white space at its ends and without two colons in a row. -/
structure Normal (n : String) : Prop where
  begins : ∀ c ∈ n.toList.head?, ¬ Text.isBlank c
  ends : ∀ c ∈ n.toList.getLast?, ¬ Text.isBlank c
  colons : ¬ [':', ':'] <:+: n.toList

/-- A text that can stand between two separators. -/
def Segment (s : String) : Prop := ∀ c ∈ s.toList, c ≠ ':' ∧ ¬ Text.isBlank c

/-! White space at the ends. -/

theorem trimChars_eq_rdropWhile (cs : List Char) :
    Text.trimChars cs = (cs.dropWhile Text.isBlank).rdropWhile Text.isBlank := rfl

theorem not_isBlank_head?_trimChars (c : Char) (h : (Text.trimChars cs).head? = some c) :
    ¬ Text.isBlank c := by
  rw [trimChars_eq_rdropWhile] at h
  obtain ⟨rest, hr⟩ := List.rdropWhile_prefix Text.isBlank (cs.dropWhile Text.isBlank)
  have hn := List.head?_dropWhile_not Text.isBlank cs
  rw [← hr, List.head?_append, h] at hn
  simpa using hn

theorem not_isBlank_getLast?_trimChars (c : Char) (h : (Text.trimChars cs).getLast? = some c) :
    ¬ Text.isBlank c := by
  rw [trimChars_eq_rdropWhile] at h
  have hne : (cs.dropWhile Text.isBlank).rdropWhile Text.isBlank ≠ [] := by
    intro he
    rw [he] at h
    cases h
  obtain rfl := Option.some.inj ((List.getLast?_eq_some_getLast hne).symm.trans h)
  exact List.rdropWhile_last_not _ _ hne

theorem trimChars_of_ends (hb : ∀ c ∈ cs.head?, ¬ Text.isBlank c)
    (he : ∀ c ∈ cs.getLast?, ¬ Text.isBlank c) :
    Text.trimChars cs = cs := by
  have hd : cs.dropWhile Text.isBlank = cs := by
    cases cs with
    | nil => rfl
    | cons c cs => exact List.dropWhile_cons_of_neg (hb c rfl)
  rw [trimChars_eq_rdropWhile, hd, List.rdropWhile_eq_self_iff]
  intro hne
  exact he _ (List.getLast?_eq_some_getLast hne)

/-! Pairs of colons. -/

theorem dotted_pair (cs : List Char) : dotted (':' :: ':' :: cs) = '.' :: dotted cs := by
  rw [dotted]

theorem dotted_cons {c : Char} (h : ¬ [':', ':'] <+: c :: cs) :
    dotted (c :: cs) = c :: dotted cs := by
  rw [dotted.eq_def]
  split
  · rename_i rest he
    exact (h ⟨rest, he.symm⟩).elim
  · rename_i he
    cases he
    rfl
  · rename_i he
    cases he

theorem dotted_append (h : ':' ∉ cs) (ds : List Char) : dotted (cs ++ ds) = cs ++ dotted ds := by
  induction cs with
  | nil => rfl
  | cons c cs ih =>
    rw [List.mem_cons, not_or] at h
    have hc : ¬ [':', ':'] <+: c :: (cs ++ ds) := by
      intro hp
      exact h.1 (List.cons_prefix_cons.mp hp).1
    rw [List.cons_append, dotted_cons hc, ih h.2]
    rfl

theorem head?_dotted {c : Char} (h : (dotted cs).head? = some c) :
    c = '.' ∨ cs.head? = some c := by
  rw [dotted.eq_def] at h
  split at h
  · exact Or.inl (Option.some.inj h).symm
  · exact Or.inr h
  · cases h

theorem getLast?_dotted {c : Char} (h : (dotted cs).getLast? = some c) :
    c = '.' ∨ cs.getLast? = some c := by
  fun_induction dotted cs with
  | case1 cs ih =>
    rw [List.getLast?_cons] at h
    cases hd : (dotted cs).getLast? with
    | none => exact Or.inl (by simpa [hd] using h.symm)
    | some d =>
      rw [hd] at h
      refine (ih (hd.trans h)).imp_right fun hc => ?_
      rw [List.getLast?_cons, List.getLast?_cons, hc]
      rfl
  | case2 e cs hn ih =>
    rw [List.getLast?_cons] at h ⊢
    cases hd : (dotted cs).getLast? with
    | none =>
      have hnil : cs = [] := by
        cases cs with
        | nil => rfl
        | cons d cs =>
          rw [List.getLast?_eq_none_iff, dotted.eq_def] at hd
          split at hd <;> simp_all
      rw [hd] at h
      exact Or.inr (by rw [hnil]; exact h)
    | some d =>
      rw [hd] at h
      refine (ih (hd.trans h)).imp_right fun hc => ?_
      rw [hc]
      rfl
  | case3 => cases h

/-- Colons are paired from the left, so of a run of them at most the last one is left. -/
theorem not_colons_dotted (cs : List Char) : ¬ [':', ':'] <:+: dotted cs := by
  fun_induction dotted cs with
  | case1 cs ih =>
    intro hi
    rcases List.infix_cons_iff.mp hi with hp | hi
    · exact absurd (List.cons_prefix_cons.mp hp).1 (by decide)
    · exact ih hi
  | case2 c cs hn ih =>
    intro hi
    rcases List.infix_cons_iff.mp hi with hp | hi
    · -- the colon after `c` would be the first of the rest, and then of the rest as it was written
      obtain ⟨rfl, rest, hr⟩ := List.cons_prefix_cons.mp hp
      have hhead : (dotted cs).head? = some ':' := by rw [← hr]; rfl
      rcases head?_dotted hhead with hd | hd
      · exact absurd hd (by decide)
      · obtain ⟨tail, ht⟩ := List.head?_eq_some_iff.mp hd
        exact hn tail rfl ht
    · exact ih hi
  | case3 => simp

/-! Normal forms. -/

theorem normal_normalize (name : String) : Normal (normalize name) := by
  have hchars : (normalize name).toList = dotted (Text.trimChars name.toList) :=
    String.toList_ofList
  have hdot : ¬ Text.isBlank '.' := by decide
  refine ⟨fun c hc => ?_, fun c hc => ?_, ?_⟩
  · rw [hchars] at hc
    rcases head?_dotted hc with rfl | hc
    · exact hdot
    · exact not_isBlank_head?_trimChars c hc
  · rw [hchars] at hc
    rcases getLast?_dotted hc with rfl | hc
    · exact hdot
    · exact not_isBlank_getLast?_trimChars c hc
  · rw [hchars]
    exact not_colons_dotted _

theorem normalize_eq_self_iff : normalize n = n ↔ Normal n := by
  constructor
  · intro h
    rw [← h]
    exact normal_normalize n
  · intro h
    rw [normalize, trimChars_of_ends h.begins h.ends, dotted_eq_self h.colons, String.ofList_toList]

/-! Names that are joined from segments. -/

theorem dotted_intercalate (h : ∀ s ∈ segments, Segment s) :
    dotted ("::".intercalate segments).toList = (".".intercalate segments).toList := by
  induction segments with
  | nil => rfl
  | cons s segments ih =>
    rw [List.forall_mem_cons] at h
    have hs : ':' ∉ s.toList := fun hm => (h.1 ':' hm).1 rfl
    cases segments with
    | nil =>
      have hd := dotted_append hs []
      rw [List.append_nil] at hd
      rw [String.intercalate_singleton, String.intercalate_singleton, hd]
      exact List.append_nil _
    | cons r segments =>
      rw [String.intercalate_cons_cons, String.intercalate_cons_cons, String.toList_append,
        String.toList_append, List.append_assoc, dotted_append hs, String.toList_append,
          String.toList_append, ← ih h.2, List.append_assoc]
      exact congrArg (s.toList ++ ·) (dotted_pair _)

theorem not_isBlank_of_mem_intercalate (h : ∀ s ∈ segments, Segment s) (c : Char)
    (hc : c ∈ ("::".intercalate segments).toList) : ¬ Text.isBlank c := by
  induction segments with
  | nil => cases hc
  | cons s segments ih =>
    rw [List.forall_mem_cons] at h
    cases segments with
    | nil =>
      rw [String.intercalate_singleton] at hc
      exact (h.1 c hc).2
    | cons r segments =>
      rw [String.intercalate_cons_cons, String.toList_append, String.toList_append, List.mem_append,
        List.mem_append] at hc
      rcases hc with (hc | hc) | hc
      · exact (h.1 c hc).2
      · have hcolon : c = ':' := by simpa using hc
        rw [hcolon]
        decide
      · exact ih h.2 hc

/-- Segments are told apart alike whether two colons or a dot stand between them. -/
theorem normalize_intercalate (h : ∀ s ∈ segments, Segment s) :
    normalize ("::".intercalate segments) = ".".intercalate segments := by
  rw [normalize, trimChars_eq_self (not_isBlank_of_mem_intercalate h), dotted_intercalate h,
    String.ofList_toList]

end ClassName

/-! Answers. -/

theorem Registry.resolve_askedAs (h : normalize a = normalize b) (r : Registry) :
    r.resolve b = (r.resolve a).mapError (·.askedAs b) := by
  rw [resolve, resolve, lookup, lookup, h]
  dsimp only
  cases r.find? (normalize b) with
  | some c => rfl
  | none =>
    dsimp only
    split
    · rfl
    · rcases r.endingWith (tail (normalize b)) with _ | ⟨c, _ | ⟨d, cs⟩⟩ <;> rfl

namespace ClassSource

theorem resolveFirst_askedAs (h : normalize a = normalize b) (rs : List Registry) :
    resolveFirst b (rs.map registry) =
      (resolveFirst a (rs.map registry)).mapError (·.askedAs b) := by
  induction rs with
  | nil => rfl
  | cons r rs ih =>
    have hr := r.resolve_askedAs h
    rw [List.map_cons, resolveFirst_cons, resolveFirst_cons, resolve_registry, resolve_registry, hr]
    cases ha : r.resolve a with
    | ok c => rfl
    | error failure =>
      -- the registry after this one is asked under both names or under neither
      rcases Registry.isLookup_of_resolve ha with rfl | ⟨candidates, rfl⟩
      · exact ih
      · rfl

/-- The normal form of a name is the form of the names that are their own: none has white space at
an end or two colons in a row, and segments joined by colons have the form of those joined by dots.
Two names of one normal form are answered alike by every registry and chain: by the same class, or
by a failure of the same kind with the same candidates, which tells the name that was asked for. -/
theorem resolve_of_spelling :
    (∀ name, Normal (normalize name) ∧ normalize (normalize name) = normalize name) ∧
    (∀ name, normalize name = name ↔ Normal name) ∧
    (∀ segments, (∀ s ∈ segments, Segment s) →
      normalize ("::".intercalate segments) = ".".intercalate segments) ∧
    ∀ (s : ClassSource) (a b : String), normalize a = normalize b →
      s.resolve b = (s.resolve a).mapError (·.askedAs b) ∧
      ∀ failure, s.resolve a = .error failure → failure.IsLookup a := by
  refine ⟨fun name => ⟨normal_normalize name, ?_⟩, fun name => normalize_eq_self_iff,
    fun segments hs => ?_, fun s a b h => ⟨?_, fun failure hf => ?_⟩⟩
  · exact normalize_eq_self_iff.mpr (normal_normalize name)
  · exact normalize_intercalate hs
  · rw [resolve_eq_resolveFirst_registries, resolve_eq_resolveFirst_registries a]
    exact resolveFirst_askedAs h s.registries
  · exact isLookup_of_resolve s hf

/-- An ambiguous name in two spellings, asked for in a chain inside a chain. -/
theorem resolve_of_spelling_of_homonyms :
    normalize " p::A" = normalize "p.A\u00a0" ∧ (∀ s ∈ ["p", "A"], Segment s) ∧
      normalize ("::".intercalate ["p", "A"]) = ".".intercalate ["p", "A"] ∧
      (chain [chain [registry (.ofList
        [⟨"A", "x.p", []⟩, ⟨"A", "y.p", []⟩])]]).resolve " p::A" =
          .error (.ambiguousClass " p::A" ["x.p.A", "y.p.A"]) ∧
      (chain [chain [registry (.ofList
        [⟨"A", "x.p", []⟩, ⟨"A", "y.p", []⟩])]]).resolve "p.A\u00a0" =
          .error (.ambiguousClass "p.A\u00a0" ["x.p.A", "y.p.A"]) ∧
      Failure.IsLookup " p::A" (.ambiguousClass " p::A" ["x.p.A", "y.p.A"]) := by
  have hn : normalize " p::A" = normalize "p.A\u00a0" := by decide
  have hs : ∀ s ∈ ["p", "A"], Segment s := by
    simp [Segment, Text.isBlank]
  have ha : (chain [chain [registry (.ofList
      [⟨"A", "x.p", []⟩, ⟨"A", "y.p", []⟩])]]).resolve " p::A" =
        .error (.ambiguousClass " p::A" ["x.p.A", "y.p.A"]) := by rfl
  obtain ⟨hb, hl⟩ := resolve_of_spelling.2.2.2
    (chain [chain [registry (.ofList [⟨"A", "x.p", []⟩, ⟨"A", "y.p", []⟩])]])
    " p::A" "p.A\u00a0" hn
  exact ⟨hn, hs, resolve_of_spelling.2.2.1 _ hs, ha, hb.trans (by rw [ha]; rfl), hl _ ha⟩

end ClassSource
end ClassExport
