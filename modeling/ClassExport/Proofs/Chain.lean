import ClassExport.ClassSource
import ClassExport.Proofs.Lookup

/-! Which source of a chain answers to a qualified name. -/
namespace ClassExport

open ClassName

variable {r : Registry} {c : Class} {q name : String}

namespace Registry

/-- A class whose qualified name is the name less one leading `crate` segment, or ends in that after
a dot. -/
def Captures (r : Registry) (name : String) : Prop :=
  ∃ t, Shortened name t ∧ t ≠ "" ∧ ∃ c ∈ r.toList, IsTail t c.qualifiedName

theorem namedBy_eq_nil_iff {t : String} {classes : List Class} :
    namedBy t classes = [] ↔ ∀ c ∈ classes, ¬ IsTail t c.qualifiedName := by
  simp [namedBy]

theorem mem_of_resolve_eq_ok (h : r.resolve name = .ok c) : c ∈ r.toList := by
  cases resolve_eq_iff.mp h with
  | exact hc => exact hc
  | @only t _ hx ht he hm =>
    have hc : c ∈ namedBy t r.toList := by rw [hm]; exact List.mem_singleton_self c
    exact (List.mem_filter.mp hc).1

theorem resolve_of_not_captures (hk : normalize name ∉ r.known)
    (h : ¬ r.Captures (normalize name)) :
    r.resolve name = .error (.classNotFound name) := by
  rw [resolve_eq_iff]
  obtain ⟨t, ht⟩ : ∃ t, Shortened (normalize name) t := ⟨_, shortened_iff.mpr rfl⟩
  refine .missing (fun c hc hq => hk (mem_known.mpr ⟨c, hc, hq⟩)) ht ?_
  by_cases he : t = ""
  · exact Or.inl he
  · refine Or.inr (namedBy_eq_nil_iff.mpr fun c hc hq => h ?_)
    exact ⟨t, ht, he, c, hc, hq⟩

theorem resolve_of_captures (h : r.Captures (normalize name)) (n : String) :
    r.resolve name ≠ .error (.classNotFound n) := by
  intro hr
  cases resolve_eq_iff.mp hr with
  | missing hx ht hm =>
    obtain ⟨u, hu, he, c, hc, hq⟩ := h
    obtain rfl := (shortened_iff.mp ht).trans (shortened_iff.mp hu).symm
    exact namedBy_eq_nil_iff.mp (hm.resolve_left he) c hc hq

end Registry

namespace ClassSource

variable {s : ClassSource} {rest : List ClassSource}

theorem resolveFirst_of_missing {n : String} (h : s.resolve name = .error (.classNotFound n)) :
    resolveFirst name (s :: rest) = resolveFirst name rest := by
  rw [resolveFirst_cons, h]

theorem resolveFirst_of_not_missing (h : ∀ n, s.resolve name ≠ .error (.classNotFound n)) :
    resolveFirst name (s :: rest) = s.resolve name := by
  rw [resolveFirst_cons]
  split
  · rename_i n hn
    exact (h n hn).elim
  · rfl

theorem mem_knownAll {rs : List Registry} :
    q ∈ knownAll (rs.map registry) ↔ ∃ r ∈ rs, q ∈ r.known := by
  induction rs with
  | nil => simp [knownAll]
  | cons r rs ih => simp [knownAll, known, ih]

theorem mem_known_chain {rs : List Registry} :
    q ∈ (chain (rs.map registry)).known ↔ ∃ r ∈ rs, q ∈ r.known := by
  rw [known, List.mem_eraseDups, mem_knownAll]

/-- The sources before the first one that holds a name decide whether it is reached. -/
theorem resolveFirst_eq_ok_iff {before after : List Registry} (hq : normalize q = q)
    (hb : ∀ s ∈ before, q ∉ s.known) (hc : r.find? q = some c) :
    resolveFirst q ((before ++ r :: after).map registry) = .ok c ↔ ∀ s ∈ before,
      ¬ s.Captures q := by
  induction before with
  | nil =>
    have hr : (registry r).resolve q = .ok c := by
      rw [resolve_registry]
      exact Registry.resolve_of_find?_eq_some (hq.symm ▸ hc)
    have hn : ∀ n, (registry r).resolve q ≠ .error (.classNotFound n) := by simp [hr]
    simp only [List.nil_append, List.map_cons, resolveFirst_of_not_missing hn, hr]
    simp
  | cons s before ih =>
    have hs : q ∉ s.known := hb s List.mem_cons_self
    have ih := ih fun s hs => hb s (List.mem_cons_of_mem _ hs)
    simp only [List.cons_append, List.map_cons, List.forall_mem_cons]
    by_cases hp : s.Captures q
    · have hn : ∀ n, (registry s).resolve q ≠ .error (.classNotFound n) := by
        rw [resolve_registry]
        exact Registry.resolve_of_captures (hq.symm ▸ hp)
      rw [resolveFirst_of_not_missing hn, resolve_registry]
      refine iff_of_false (fun hr => hs ?_) fun h => h.1 hp
      exact Registry.mem_known.mpr ⟨c, Registry.mem_of_resolve_eq_ok hr,
        (Registry.find?_eq_some_iff.mp hc).2⟩
    · have hm : (registry s).resolve q = .error (.classNotFound q) := by
        rw [resolve_registry]
        exact Registry.resolve_of_not_captures (hq.symm ▸ hs) (hq.symm ▸ hp)
      rw [resolveFirst_of_missing hm]
      exact ih.trans (by simp [hp])

theorem exists_first_holder {rs : List Registry} (h : ∃ r ∈ rs, q ∈ r.known) :
    ∃ before r after c, rs = before ++ r :: after ∧ (∀ s ∈ before, q ∉ s.known) ∧
      r.find? q = some c := by
  obtain ⟨r, hr⟩ := Option.isSome_iff_exists.mp (List.find?_isSome.mpr (by simpa using h) :
    (rs.find? fun r => decide (q ∈ r.known)).isSome)
  obtain ⟨hq, before, after, rfl, hb⟩ := List.find?_eq_some_iff_append.mp hr
  obtain ⟨c, hc⟩ := Registry.mem_known.mp (of_decide_eq_true hq)
  exact ⟨before, r, after, c, rfl, by simpa using hb, Registry.find?_eq_some_iff.mpr hc⟩

/-- A known qualified name is answered with the class of the first source that holds it exactly when
no source before that one captures the name by a tail. -/
theorem resolve_qualified_iff {rs : List Registry} (hk : q ∈ (chain (rs.map registry)).known)
    (hq : normalize q = q) :
    ∃ before r after c, rs = before ++ r :: after ∧ (∀ s ∈ before, q ∉ s.known) ∧
      r.find? q = some c ∧
      ((chain (rs.map registry)).resolve q = .ok c ↔ ∀ s ∈ before, ¬ s.Captures q) := by
  obtain ⟨before, r, after, c, rfl, hb, hc⟩ := exists_first_holder (mem_known_chain.mp hk)
  refine ⟨before, r, after, c, rfl, hb, hc, ?_⟩
  rw [resolve_chain]
  exact resolveFirst_eq_ok_iff hq hb hc

/-- The first source has no `p.A`, and the second one has a longer name that ends in it. -/
theorem resolve_qualified_beside_longer :
    "p.A" ∈ (chain ([Registry.ofList [⟨"B", "com.p", []⟩],
        Registry.ofList [⟨"A", "com.p", []⟩, ⟨"A", "p", []⟩]].map registry)).known ∧
      normalize "p.A" = "p.A" ∧
      ∃ before r after c, [Registry.ofList [⟨"B", "com.p", []⟩],
          Registry.ofList [⟨"A", "com.p", []⟩, ⟨"A", "p", []⟩]] = before ++ r :: after ∧
        (∀ s ∈ before, "p.A" ∉ s.known) ∧ r.find? "p.A" = some c ∧
        ((chain ([Registry.ofList [⟨"B", "com.p", []⟩],
          Registry.ofList [⟨"A", "com.p", []⟩, ⟨"A", "p", []⟩]].map registry)).resolve "p.A" =
            .ok c ↔ ∀ s ∈ before, ¬ s.Captures "p.A") :=
  ⟨by decide, by decide, resolve_qualified_iff (by decide) (by decide)⟩

/-- A longer name in an earlier source replaces the class that was named. -/
theorem resolve_qualified_captured :
    "p.A" ∈ (chain [registry (.ofList [⟨"A", "com.p", []⟩]),
      registry (.ofList [⟨"A", "p", []⟩])]).known ∧
      normalize "p.A" = "p.A" ∧
      (Registry.ofList [⟨"A", "p", []⟩]).find? "p.A" = some ⟨"A", "p", []⟩ ∧
      (chain [registry (.ofList [⟨"A", "com.p", []⟩]),
        registry (.ofList [⟨"A", "p", []⟩])]).resolve "p.A" = .ok ⟨"A", "com.p", []⟩ :=
  ⟨by decide, by decide, by decide, by rfl⟩

end ClassSource
end ClassExport
