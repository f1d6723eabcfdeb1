import ClassExport.Proofs.Nesting

/-!
Asking for a class again under a longer name: under a candidate of an ambiguous answer, or a longer
tail.
-/
namespace ClassExport

open ClassName

variable {name n q t t' u v : String} {r : Registry} {c : Class} {candidates : List String}

namespace ClassName

/-- A name without white space and without two colons in a row. -/
structure Plain (n : String) : Prop where
  blank : ∀ c ∈ n.toList, ¬ Text.isBlank c
  colons : ¬ [':', ':'] <:+: n.toList

theorem Plain.of_isTail (h : Plain q) (ht : IsTail t q) : Plain t := by
  have hs : t.toList <:+ q.toList := by
    rcases ht with rfl | ⟨front, rfl⟩
    · exact List.suffix_rfl
    · exact ⟨(front ++ ".").toList, by simp⟩
  exact ⟨fun c hc => h.blank c (hs.subset hc), fun hc => h.colons (hc.trans hs.isInfix)⟩

theorem dotted_eq_self {cs : List Char} (h : ¬ [':', ':'] <:+: cs) : dotted cs = cs := by
  induction cs with
  | nil => rfl
  | cons c cs ih =>
    have hcs : ¬ [':', ':'] <:+: cs := fun hi => h (hi.trans (List.suffix_cons c cs).isInfix)
    rw [dotted.eq_def]
    split
    · rename_i rest he
      exact (h (he ▸ ⟨[], rest, rfl⟩)).elim
    · rename_i c' cs' _ he
      cases he
      rw [ih hcs]
    · rename_i he
      cases he

theorem trimChars_eq_self {cs : List Char} (h : ∀ c ∈ cs, ¬ Text.isBlank c) :
    Text.trimChars cs = cs := by
  have hd : ∀ ds : List Char, (∀ c ∈ ds, ¬ Text.isBlank c) →
      ds.dropWhile Text.isBlank = ds := by
    intro ds hds
    cases ds with
    | nil => rfl
    | cons d ds => exact List.dropWhile_cons_of_neg (hds d List.mem_cons_self)
  rw [Text.trimChars, hd cs h, hd cs.reverse (by simpa using h), List.reverse_reverse]

theorem Plain.normalize_eq (h : Plain n) : normalize n = n := by
  rw [normalize, trimChars_eq_self h.blank, dotted_eq_self h.colons, String.ofList_toList]

end ClassName

namespace Registry

/-- A registry without the class of a name has nothing that ends in the name less one `crate`
segment. -/
theorem not_isTail_of_missing (h : r.resolve name = .error (.classNotFound n))
    (hu : Shortened (normalize name) u) (he : u ≠ "") :
    ∀ d ∈ r.toList, ¬ IsTail u d.qualifiedName := by
  cases resolve_eq_iff.mp h with
  | missing hx ht hm =>
    obtain rfl := (shortened_iff.mp hu).trans (shortened_iff.mp ht).symm
    exact namedBy_eq_nil_iff.mp (hm.resolve_left he)

/-- Nor is it asked with success for a longer name. -/
theorem not_captures_of_not_isTail (h : ∀ d ∈ r.toList, ¬ IsTail u d.qualifiedName)
    (hu : ∀ v, Shortened q v → IsTail u v) : ¬ r.Captures q := by
  rintro ⟨v, hv, -, d, hd, ht⟩
  exact h d hd ((hu v hv).trans ht)

theorem not_mem_known_of_not_isTail (h : ∀ d ∈ r.toList, ¬ IsTail u d.qualifiedName)
    (hq : IsTail u q) :
    q ∉ r.known := by
  intro hk
  obtain ⟨d, hd, rfl⟩ := mem_known.mp hk
  exact h d hd hq

theorem resolve_of_not_isTail (h : ∀ d ∈ r.toList, ¬ IsTail u d.qualifiedName)
    (hn : normalize q = q) (hu : ∀ v, Shortened q v → IsTail u v) :
    r.resolve q = .error (.classNotFound q) := by
  obtain ⟨v, hv⟩ : ∃ v, Shortened q v := ⟨_, shortened_iff.mpr rfl⟩
  have hq : IsTail u q := (hu v hv).trans hv.isTail
  apply resolve_of_not_captures
  · rw [hn]
    exact not_mem_known_of_not_isTail h hq
  · rw [hn]
    exact not_captures_of_not_isTail h hu

theorem namedBy_of_isTail (h : IsTail u v) (classes : List Class) :
    namedBy v classes = (namedBy u classes).filter (IsTail v ·.qualifiedName) := by
  rw [namedBy, namedBy, List.filter_filter]
  refine List.filter_congr fun d _ => ?_
  have hd : IsTail v d.qualifiedName → IsTail u d.qualifiedName := h.trans
  simpa using hd

/-- The only class of a tail is found under each longer tail of its name. -/
theorem resolve_of_namedBy_eq (h : namedBy u r.toList = [c]) (he : u ≠ "") (hn : normalize q = q)
    (hu : ∀ v, Shortened q v → IsTail u v) (hc : IsTail q c.qualifiedName) :
    r.resolve q = .ok c := by
  have hmem : ∀ d ∈ r.toList, IsTail u d.qualifiedName → d = c := by
    intro d hd ht
    have hd : d ∈ namedBy u r.toList := List.mem_filter.mpr ⟨hd, decide_eq_true ht⟩
    rwa [h, List.mem_singleton] at hd
  obtain ⟨v, hv⟩ : ∃ v, Shortened q v := ⟨_, shortened_iff.mpr rfl⟩
  have ht : IsTail u v := hu v hv
  rw [resolve_eq_iff]
  by_cases hx : ∃ d ∈ r.toList, d.qualifiedName = q
  · obtain ⟨d, hd, hq⟩ := hx
    obtain rfl : d = c := hmem d hd (hq ▸ ht.trans hv.isTail)
    exact .exact hd (hq.trans hn.symm)
  · have hv' : v ≠ "" := by
      rintro rfl
      have hl := ht.length_le
      exact he (String.length_eq_zero_iff.mp (Nat.le_zero.mp hl))
    have hone : namedBy v r.toList = [c] := by
      have hcv : IsTail v c.qualifiedName := hv.isTail.trans hc
      rw [namedBy_of_isTail ht, h]
      simp [hcv]
    refine .only (fun d hd hq => hx ⟨d, hd, hq.trans hn⟩) (hn.symm ▸ hv) hv' hone

end Registry

namespace ClassSource

variable {s : ClassSource}

/-- The candidates of an ambiguous name are different names of one registry, in its order. Each
names its class for the whole source, except one that begins with `crate`, was asked for behind one
more `crate`, and is captured by a registry that is asked earlier. -/
theorem resolve_candidate_iff (h : s.resolve name = .error (.ambiguousClass n candidates)) :
    2 ≤ candidates.length ∧ candidates.Nodup ∧
    ∃ before r after, s.registries = before ++ r :: after ∧ candidates.Sublist r.known ∧
      ∀ q ∈ candidates, normalize q = q → ∃ c ∈ r.toList, c.qualifiedName = q ∧
        (s.resolve q = .ok c ↔
          ¬ ((∃ rest, q = "crate." ++ rest) ∧ normalize name = "crate." ++ q ∧
          ∃ b ∈ before, b.Captures q)) := by
  obtain ⟨before, r, after, hs, hb, hr⟩ := (resolve_eq_iff s (by simp)).mp h
  cases Registry.resolve_eq_iff.mp hr with
  | @several u hx hu he hm =>
    have hsub : ((namedBy u r.toList).map Class.qualifiedName).Sublist r.known :=
      List.filter_sublist.map _
    refine ⟨by simpa using hm, r.known_nodup.sublist hsub, before, r, after, hs, hsub, ?_⟩
    intro q hq hn
    obtain ⟨c, hc, rfl⟩ := List.mem_map.mp hq
    obtain ⟨hc, ht⟩ := List.mem_filter.mp hc
    have ht : IsTail u c.qualifiedName := of_decide_eq_true ht
    have hfind : r.find? c.qualifiedName = some c := Registry.find?_eq_some_iff.mpr ⟨hc, rfl⟩
    have hnone : ∀ b ∈ before, ∀ d ∈ b.toList, ¬ IsTail u d.qualifiedName :=
      fun b hm => Registry.not_isTail_of_missing (hb b hm) hu he
    have hunknown : ∀ b ∈ before, c.qualifiedName ∉ b.known :=
      fun b hm => Registry.not_mem_known_of_not_isTail (hnone b hm) ht
    refine ⟨c, hc, rfl, ?_⟩
    rw [resolve_eq_resolveFirst_registries, hs, resolveFirst_eq_ok_iff hn hunknown hfind]
    constructor
    · rintro hcap ⟨-, -, b, hm, hq⟩
      exact hcap b hm hq
    · intro hcrate b hm hq
      apply Registry.not_captures_of_not_isTail (hnone b hm) _ hq
      intro v hv
      by_cases hne : c.qualifiedName = u
      · -- the candidate is the shortened name itself, which may lose a second segment
        rcases hu.eq_or_twice (hne ▸ hv) with rfl | ⟨hcu, hcn⟩
        · exact .refl v
        · exact absurd ⟨⟨v, hne.trans hcu⟩, hne ▸ hcn, b, hm, hq⟩ hcrate
      · exact ht.of_shortened hne hv

/-- Two packages whose names end in `crate`, in a chain inside a chain; `first` is asked before
them. -/
def afterCrates (first : Class) : ClassSource :=
  chain [registry (.ofList [first]),
    chain [registry (.ofList [⟨"A", "crate", []⟩, ⟨"A", "x.crate", []⟩])]]

theorem resolve_candidate_in_nested_chain :
    (afterCrates ⟨"B", "a", []⟩).resolve "crate::crate::A" =
        .error (.ambiguousClass "crate::crate::A" ["crate.A", "x.crate.A"]) ∧
      2 ≤ ["crate.A", "x.crate.A"].length ∧ ["crate.A", "x.crate.A"].Nodup ∧
      ∃ before r after, (afterCrates ⟨"B", "a", []⟩).registries = before ++ r :: after ∧
        ["crate.A", "x.crate.A"].Sublist r.known ∧
        ∀ q ∈ ["crate.A", "x.crate.A"], normalize q = q → ∃ c ∈ r.toList,
          c.qualifiedName = q ∧
          ((afterCrates ⟨"B", "a", []⟩).resolve q = .ok c ↔
            ¬ ((∃ rest, q = "crate." ++ rest) ∧
            normalize "crate::crate::A" = "crate." ++ q ∧ ∃ b ∈ before, b.Captures q)) :=
  ⟨by rfl, resolve_candidate_iff (by rfl)⟩

/-- A candidate that begins with `crate` can be captured by an earlier registry that did not know
the name. -/
theorem candidate_captured_by_earlier_registry :
    (afterCrates ⟨"A", "a", []⟩).resolve "crate.crate.A" =
        .error (.ambiguousClass "crate.crate.A" ["crate.A", "x.crate.A"]) ∧
      normalize "crate.A" = "crate.A" ∧ (afterCrates ⟨"A", "a", []⟩).resolve "crate.A" =
        .ok ⟨"A", "a", []⟩ :=
  ⟨by rfl, by decide, by rfl⟩

/-- A class that is found under a tail of its qualified name is found under every longer tail, up to
the whole name. -/
theorem resolve_longer_tail (hp : Plain c.qualifiedName) (ht : IsTail t t')
    (hc : IsTail t' c.qualifiedName) (h : s.resolve t = .ok c) : s.resolve t' = .ok c := by
  by_cases hne : t' = t
  · rwa [hne]
  have hn : normalize t = t := (hp.of_isTail (ht.trans hc)).normalize_eq
  have hn' : normalize t' = t' := (hp.of_isTail hc).normalize_eq
  obtain ⟨before, r, after, hs, hb, hr⟩ := (resolve_eq_iff s (by simp)).mp h
  cases Registry.resolve_eq_iff.mp hr with
  | exact _ hq =>
    have hq : c.qualifiedName = t := hq.trans hn
    exact absurd ((hq ▸ hc).antisymm ht) hne
  | @only u _ hx hu he hm =>
    have hlong : ∀ v, Shortened t' v → IsTail u v := by
      intro v hv
      exact (hn ▸ hu.isTail).trans (ht.of_shortened hne hv)
    rw [resolve_eq_iff s (by simp)]
    refine ⟨before, r, after, hs, ?_, Registry.resolve_of_namedBy_eq hm he hn' hlong hc⟩
    intro b hm
    have hnone := Registry.not_isTail_of_missing (hb b hm) hu he
    exact Registry.resolve_of_not_isTail hnone hn' hlong

/-- The longer tail begins with `crate`, and the first source holds neither name. -/
theorem resolve_longer_tail_of_crate :
    Plain (Class.qualifiedName ⟨"A", "x.crate", []⟩) ∧ IsTail "A" "crate.A" ∧
      IsTail "crate.A" (Class.qualifiedName ⟨"A", "x.crate", []⟩) ∧
      (chain [registry (.ofList [⟨"B", "a", []⟩]),
        chain [registry (.ofList [⟨"A", "x.crate", []⟩])]]).resolve "A" =
          .ok ⟨"A", "x.crate", []⟩ ∧
      (chain [registry (.ofList [⟨"B", "a", []⟩]),
        chain [registry (.ofList [⟨"A", "x.crate", []⟩])]]).resolve "crate.A" =
          .ok ⟨"A", "x.crate", []⟩ :=
  have hb : ((Class.qualifiedName ⟨"A", "x.crate", []⟩).toList.all fun c => !Text.isBlank c) =
      true := by decide
  have hp : Plain (Class.qualifiedName ⟨"A", "x.crate", []⟩) :=
    ⟨by simpa using hb, fun h => absurd (h.subset List.mem_cons_self) (by decide)⟩
  have ht : IsTail "A" "crate.A" := Or.inr ⟨"crate", by decide⟩
  have hc : IsTail "crate.A" (Class.qualifiedName ⟨"A", "x.crate", []⟩) :=
    Or.inr ⟨"x", by decide⟩
  ⟨hp, ht, hc, by rfl, resolve_longer_tail hp ht hc (by rfl)⟩

end ClassSource
end ClassExport
