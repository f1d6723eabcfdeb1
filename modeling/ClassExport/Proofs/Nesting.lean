import ClassExport.Proofs.Chain

/-!
Chains of chains answer as the list of their registries does, and no source fails but for want of
one class.
-/
namespace ClassExport

variable {name : String} {failure : Failure}

/-- The failures of a name that was not resolved. -/
def Failure.IsLookup (name : String) (failure : Failure) : Prop :=
  failure = .classNotFound name ∨ ∃ candidates, failure = .ambiguousClass name candidates

theorem Registry.isLookup_of_resolve {r : Registry} (h : r.resolve name = .error failure) :
    failure.IsLookup name := by
  cases Registry.resolve_eq_iff.mp h with
  | missing => exact Or.inl rfl
  | several => exact Or.inr ⟨_, rfl⟩

namespace ClassSource

variable {sources rest : List ClassSource} {rs : List Registry} {a : Except Failure Class}

mutual

theorem isLookup_of_resolve :
    ∀ source : ClassSource, source.resolve name = .error failure → failure.IsLookup name
  | .registry r, h => Registry.isLookup_of_resolve (by rwa [resolve_registry] at h)
  | .chain sources, h => isLookup_of_resolveFirst sources (by rwa [resolve_chain] at h)

theorem isLookup_of_resolveFirst : ∀ sources : List ClassSource,
    resolveFirst name sources = .error failure → failure.IsLookup name
  | [], h => Or.inl (Except.error.inj h).symm
  | s :: rest, h => by
    rw [resolveFirst_cons] at h
    split at h
    · exact isLookup_of_resolveFirst rest h
    · exact isLookup_of_resolve s h

end

mutual

/-- The registries of a source in the order in which they are asked. -/
def registries : ClassSource → List Registry
  | .registry r => [r]
  | .chain sources => registriesOf sources

def registriesOf : List ClassSource → List Registry
  | [] => []
  | s :: rest => s.registries ++ registriesOf rest

end

/-- A source is missing a class only under the name that was asked for. -/
theorem eq_of_resolve_missing {s : ClassSource} {n : String}
    (h : s.resolve name = .error (.classNotFound n)) :
    n = name := by
  rcases isLookup_of_resolve s h with he | ⟨candidates, he⟩
  · exact Failure.classNotFound.inj he
  · cases he

theorem resolveFirst_append :
    resolveFirst name (sources ++ rest) = match resolveFirst name sources with
    | .error (.classNotFound _) => resolveFirst name rest
    | answer => answer := by
  induction sources with
  | nil => rfl
  | cons s sources ih =>
    by_cases hs : ∃ n, s.resolve name = .error (.classNotFound n)
    · obtain ⟨n, hn⟩ := hs
      rw [List.cons_append, resolveFirst_of_missing hn, resolveFirst_of_missing hn]
      exact ih
    · have hn : ∀ n, s.resolve name ≠ .error (.classNotFound n) := fun n he => hs ⟨n, he⟩
      rw [List.cons_append, resolveFirst_of_not_missing hn, resolveFirst_of_not_missing hn]
      split
      · rename_i n he
        exact (hn n he).elim
      · rfl

theorem resolveFirst_singleton (s : ClassSource) : resolveFirst name [s] = s.resolve name := by
  by_cases hs : ∃ n, s.resolve name = .error (.classNotFound n)
  · obtain ⟨n, hn⟩ := hs
    rw [resolveFirst_of_missing hn, hn, eq_of_resolve_missing hn]
    rfl
  · exact resolveFirst_of_not_missing fun n he => hs ⟨n, he⟩

mutual

theorem resolve_eq_resolveFirst_registries (name : String) :
    ∀ s : ClassSource, s.resolve name = resolveFirst name (s.registries.map registry)
  | .registry r => (resolveFirst_singleton (registry r)).symm
  | .chain sources => by
    rw [resolve_chain, registries]
    exact resolveFirst_eq_resolveFirst_registries name sources

theorem resolveFirst_eq_resolveFirst_registries (name : String) : ∀ sources : List ClassSource,
    resolveFirst name sources = resolveFirst name ((registriesOf sources).map registry)
  | [] => rfl
  | s :: rest => by
    have hs := resolve_eq_resolveFirst_registries name s
    have hrest := resolveFirst_eq_resolveFirst_registries name rest
    rw [registriesOf, List.map_append, resolveFirst_append, ← hs, ← hrest]
    exact resolveFirst_cons name s rest

end

theorem resolveFirst_eq_iff (ha : ∀ n, a ≠ .error (.classNotFound n)) :
    resolveFirst name (rs.map registry) = a ↔ ∃ before r after, rs = before ++ r :: after ∧
      (∀ b ∈ before, b.resolve name = .error (.classNotFound name)) ∧ r.resolve name = a := by
  constructor
  · intro h
    induction rs with
    | nil => exact (ha name h.symm).elim
    | cons r rs ih =>
      by_cases hr : ∃ n, r.resolve name = .error (.classNotFound n)
      · obtain ⟨n, hn⟩ := hr
        have hs : (registry r).resolve name = .error (.classNotFound n) := by rwa [resolve_registry]
        obtain rfl : n = name := eq_of_resolve_missing hs
        rw [List.map_cons, resolveFirst_of_missing hs] at h
        obtain ⟨before, r', after, rfl, hb, hr'⟩ := ih h
        exact ⟨r :: before, r', after, rfl, List.forall_mem_cons.mpr ⟨hn, hb⟩, hr'⟩
      · have hs : ∀ n, (registry r).resolve name ≠ .error (.classNotFound n) := by
          intro n hn
          rw [resolve_registry] at hn
          exact hr ⟨n, hn⟩
        rw [List.map_cons, resolveFirst_of_not_missing hs, resolve_registry] at h
        exact ⟨[], r, rs, rfl, by simp, h⟩
  · rintro ⟨before, r, after, rfl, hb, hr⟩
    induction before with
    | nil =>
      have hs : (registry r).resolve name = a := by rwa [resolve_registry]
      have hn : ∀ n, (registry r).resolve name ≠ .error (.classNotFound n) :=
        fun n => hs ▸ ha n
      rw [List.nil_append, List.map_cons, resolveFirst_of_not_missing hn, hs]
    | cons b before ih =>
      rw [List.forall_mem_cons] at hb
      have hs : (registry b).resolve name = .error (.classNotFound name) := by
        rw [resolve_registry, hb.1]
      rw [List.cons_append, List.map_cons, resolveFirst_of_missing hs]
      exact ih hb.2

/-- An answer other than "not found" is that of the first registry that does not answer so. -/
theorem resolve_eq_iff (s : ClassSource) (ha : ∀ n, a ≠ .error (.classNotFound n)) :
    s.resolve name = a ↔ ∃ before r after, s.registries = before ++ r :: after ∧
      (∀ b ∈ before, b.resolve name = .error (.classNotFound name)) ∧ r.resolve name = a := by
  rw [resolve_eq_resolveFirst_registries]
  exact resolveFirst_eq_iff ha

end ClassSource
end ClassExport
