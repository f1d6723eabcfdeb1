import ClassExport.Proofs.Lookup

/-!
The order in which classes were inserted shows in no answer but in the order of the candidates.
-/
namespace ClassExport

variable {cs ds : List Class} {name : String} {a : Except Failure Class}

/-- The same class, no class, or the same candidates in some order. -/
inductive SameAnswer (name : String) : Except Failure Class → Except Failure Class → Prop where
  | found (c : Class) : SameAnswer name (.ok c) (.ok c)
  | missing : SameAnswer name (.error (.classNotFound name)) (.error (.classNotFound name))
  | several {candidates candidates' : List String} (h : candidates.Perm candidates') :
      SameAnswer name (.error (.ambiguousClass name candidates))
        (.error (.ambiguousClass name candidates'))

theorem namedBy_perm (hp : cs.Perm ds) (t : String) :
    (namedBy t cs).Perm (namedBy t ds) := hp.filter _

theorem Answers.perm (hp : cs.Perm ds) (h : Answers cs name a) :
    ∃ b, Answers ds name b ∧ SameAnswer name a b := by
  have absent : (∀ c ∈ cs, c.qualifiedName ≠ ClassName.normalize name) →
      ∀ d ∈ ds, d.qualifiedName ≠ ClassName.normalize name :=
        fun hx d hd => hx d (hp.mem_iff.mpr hd)
  cases h with
  | @exact c hc hq => exact ⟨.ok c, .exact (hp.mem_iff.mp hc) hq, .found c⟩
  | @missing t hx ht hm =>
    have hm' : t = "" ∨ namedBy t ds = [] :=
      hm.imp_right fun hn => (hn ▸ namedBy_perm hp t).symm.eq_nil
    exact ⟨_, .missing (absent hx) ht hm', .missing⟩
  | @only t c hx ht he hm =>
    have hm' : namedBy t ds = [c] := (hm ▸ namedBy_perm hp t).symm.eq_singleton
    exact ⟨.ok c, .only (absent hx) ht he hm', .found c⟩
  | @several t hx ht he hm =>
    have hm' : 2 ≤ (namedBy t ds).length := (namedBy_perm hp t).length_eq ▸ hm
    exact ⟨_, .several (absent hx) ht he hm', .several ((namedBy_perm hp t).map _)⟩

theorem firstDefinitions_of_nodup (hn : (cs.map Class.qualifiedName).Nodup) :
    firstDefinitions cs = cs := by
  induction cs with
  | nil => rfl
  | cons c cs ih =>
    rw [List.map_cons, List.nodup_cons] at hn
    rw [firstDefinitions, ih hn.2]
    refine congrArg (c :: ·) (List.filter_eq_self.mpr fun d hd => decide_eq_true ?_)
    intro he
    exact hn.1 (he ▸ List.mem_map_of_mem hd)

namespace Registry

theorem sameAnswer_of_perm {r s : Registry} (hp : r.toList.Perm s.toList) (name : String) :
    SameAnswer name (r.resolve name) (s.resolve name) := by
  obtain ⟨b, hb, hs⟩ := (answers_resolve r name).perm hp
  rwa [resolve_eq_iff.mpr hb]

/-- Classes of different names may be inserted in any order: every name is answered with the same
class, with none, or with the same candidates. -/
theorem resolve_perm (hn : (cs.map Class.qualifiedName).Nodup) (hp : cs.Perm ds) (name : String) :
    SameAnswer name ((ofList cs).resolve name) ((ofList ds).resolve name) := by
  have hn' : (ds.map Class.qualifiedName).Nodup := (hp.map _).nodup_iff.mp hn
  refine sameAnswer_of_perm ?_ name
  rwa [toList_ofList, toList_ofList, firstDefinitions_of_nodup hn, firstDefinitions_of_nodup hn']

/-- Two classes of one simple name, and another class. -/
def homonymsAndOther : List Class := [⟨"A", "p", []⟩, ⟨"A", "q", []⟩, ⟨"B", "", []⟩]

/-- The candidates come in the order of insertion. -/
theorem resolve_perm_of_homonyms :
    (homonymsAndOther.map Class.qualifiedName).Nodup ∧
      homonymsAndOther.Perm homonymsAndOther.reverse ∧
    SameAnswer "A" ((ofList homonymsAndOther).resolve "A")
      ((ofList homonymsAndOther.reverse).resolve "A") ∧
    (ofList homonymsAndOther).resolve "A" = .error (.ambiguousClass "A" ["p.A", "q.A"]) ∧
    (ofList homonymsAndOther.reverse).resolve "A" =
      .error (.ambiguousClass "A" ["q.A", "p.A"]) := by
  have hn : (homonymsAndOther.map Class.qualifiedName).Nodup := by decide
  have hp : homonymsAndOther.Perm homonymsAndOther.reverse := by decide
  exact ⟨hn, hp, resolve_perm hn hp "A", by rfl, by rfl⟩

end Registry
end ClassExport
