import ClassExport.Proofs.Session
import ClassExport.Proofs.Tail
import ClassExport.Scan

/-! A registry answers as a plain list of its classes does. -/
namespace ClassExport

/-- The first class of each qualified name, in order. -/
def firstDefinitions : List Class → List Class
  | [] => []
  | c :: cs => c :: (firstDefinitions cs).filter (·.qualifiedName ≠ c.qualifiedName)

/-- The classes that a tail names. -/
def namedBy (t : String) (classes : List Class) : List Class :=
  classes.filter (ClassName.IsTail t ·.qualifiedName)

open ClassName in
/-- What a name is answered with, read off the classes alone. -/
inductive Answers (classes : List Class) (name : String) : Except Failure Class → Prop where
  | exact {c : Class} (hc : c ∈ classes) (hq : c.qualifiedName = normalize name) :
      Answers classes name (.ok c)
  | missing {t : String} (hx : ∀ c ∈ classes, c.qualifiedName ≠ normalize name)
      (ht : Shortened (normalize name) t) (hm : t = "" ∨ namedBy t classes = []) :
      Answers classes name (.error (.classNotFound name))
  | only {t : String} {c : Class} (hx : ∀ c ∈ classes, c.qualifiedName ≠ normalize name)
      (ht : Shortened (normalize name) t) (he : t ≠ "") (hm : namedBy t classes = [c]) :
      Answers classes name (.ok c)
  | several {t : String} (hx : ∀ c ∈ classes, c.qualifiedName ≠ normalize name)
      (ht : Shortened (normalize name) t) (he : t ≠ "") (hm : 2 ≤ (namedBy t classes).length) :
      Answers classes name
        (.error (.ambiguousClass name ((namedBy t classes).map Class.qualifiedName)))

namespace Registry

open ClassName

variable {r : Registry} {c : Class} {cs : List Class} {q t name : String}
  {a b : Except Failure Class}

theorem index_eq_some_iff {i : Nat} :
    r.index[q]? = some i ↔ r.toList[i]?.map Class.qualifiedName = some q := by
  rw [r.indexed, toList, Array.getElem?_toList]

theorem find?_eq_some_iff : r.find? q = some c ↔ c ∈ r.toList ∧ c.qualifiedName = q := by
  unfold find?
  constructor
  · intro h
    obtain ⟨i, hi, hc⟩ := Option.bind_eq_some_iff.mp h
    have hq := (r.indexed q i).1 hi
    refine ⟨?_, by simpa [hc] using hq⟩
    exact Array.mem_toList_iff.mpr (Array.mem_of_getElem? hc)
  · rintro ⟨hc, rfl⟩
    obtain ⟨i, hi⟩ := List.mem_iff_getElem?.mp hc
    rw [toList, Array.getElem?_toList] at hi
    have hx := (r.indexed c.qualifiedName i).2 (by simp [hi])
    exact Option.bind_eq_some_iff.mpr ⟨i, hx, hi⟩

theorem find?_eq_none_iff : r.find? q = none ↔ ∀ c ∈ r.toList, c.qualifiedName ≠ q := by
  rw [Option.eq_none_iff_forall_ne_some]
  constructor
  · intro h c hc he
    exact h c (find?_eq_some_iff.mpr ⟨hc, he⟩)
  · intro h c hc
    exact h c (find?_eq_some_iff.mp hc).1 (find?_eq_some_iff.mp hc).2

/-- Two positions with one name would be one entry of the index. -/
theorem known_nodup (r : Registry) : r.known.Nodup := by
  refine List.pairwise_iff_getElem.mpr fun i j hi hj hij he => ?_
  have position : ∀ k (hk : k < r.known.length), r.index[r.known[k]]? = some k := by
    intro k hk
    rw [index_eq_some_iff, ← List.getElem?_map]
    exact List.getElem?_eq_getElem hk
  have h := position j hj
  rw [← he, position i hi] at h
  exact Nat.ne_of_lt hij (Option.some.inj h)

theorem mem_known : q ∈ r.known ↔ ∃ c ∈ r.toList, c.qualifiedName = q := by
  simp [known]

theorem contains_index_iff : r.index.contains q = true ↔ q ∈ r.known := by
  rw [Std.TreeMap.contains_eq_isSome_getElem?, Option.isSome_iff_exists, mem_known]
  constructor
  · rintro ⟨i, hi⟩
    obtain ⟨c, hc, hq⟩ := Option.map_eq_some_iff.mp (index_eq_some_iff.mp hi)
    exact ⟨c, List.mem_of_getElem? hc, hq⟩
  · rintro ⟨c, hc, hq⟩
    obtain ⟨i, hi⟩ := List.mem_iff_getElem?.mp hc
    exact ⟨i, index_eq_some_iff.mpr (by simp [hi, hq])⟩

theorem insert_of_mem (h : c.qualifiedName ∈ r.known) : r.insert c = (false, r) := by
  rw [insert, dif_pos (contains_index_iff.mpr h)]

theorem insert_of_notMem (h : c.qualifiedName ∉ r.known) :
    (r.insert c).1 = true ∧ (r.insert c).2.toList = r.toList ++ [c] := by
  rw [insert, dif_neg (mt contains_index_iff.mp h)]
  simp [toList]

/-! Sequences of insertions. -/

theorem insertAll_append {ds : List Class} :
    r.insertAll (cs ++ ds) = (r.insertAll cs).insertAll ds :=
  List.foldl_append

theorem toList_insertAll (r : Registry) (cs : List Class) :
    (r.insertAll cs).toList = r.toList ++
      (firstDefinitions cs).filter (·.qualifiedName ∉ r.known) := by
  induction cs generalizing r with
  | nil => simp [insertAll, firstDefinitions]
  | cons c cs ih =>
    change ((r.insert c).2.insertAll cs).toList = _
    rw [ih]
    by_cases h : c.qualifiedName ∈ r.known
    · rw [insert_of_mem h, firstDefinitions, List.filter_cons_of_neg (by simpa using h),
        List.filter_filter]
      congr 1
      refine List.filter_congr fun d _ => ?_
      by_cases hd : d.qualifiedName = c.qualifiedName <;> simp [hd, h]
    · have hk : (r.insert c).2.known = r.known ++ [c.qualifiedName] := by
        simp [known, (insert_of_notMem h).2]
      rw [(insert_of_notMem h).2, hk, firstDefinitions, List.filter_cons_of_pos (by simpa using h),
        List.filter_filter, List.append_assoc, List.singleton_append]
      congr 2
      refine List.filter_congr fun d _ => ?_
      simp

theorem toList_ofList (cs : List Class) : (ofList cs).toList = firstDefinitions cs := by
  have h : empty.toList = [] := rfl
  rw [ofList, toList_insertAll, known, h]
  simp

/-! Answers to names. -/

theorem endingWith_eq (r : Registry) (t : String) : r.endingWith t = namedBy t r.toList := by
  refine List.filter_congr fun c _ => ?_
  rw [Bool.eq_iff_iff, endsWithTail_iff, decide_eq_true_iff]

theorem pick_of_two_le (h : 2 ≤ cs.length) :
    (pick name cs).answer = .error (.ambiguousClass name (cs.map Class.qualifiedName)) := by
  match cs, h with
  | _ :: _ :: _, _ => rfl

theorem resolve_of_find?_eq_some (h : r.find? (normalize name) = some c) :
    r.resolve name = .ok c := by
  simp only [resolve, lookup, h, Lookup.found]

theorem resolve_of_shortened_empty (hx : ∀ c ∈ r.toList, c.qualifiedName ≠ normalize name)
    (ht : Shortened (normalize name) "") : r.resolve name = .error (.classNotFound name) := by
  simp only [resolve, lookup, find?_eq_none_iff.mpr hx, ← shortened_iff.mp ht,
    if_true, Lookup.missing]

theorem resolve_of_shortened (hx : ∀ c ∈ r.toList, c.qualifiedName ≠ normalize name)
    (ht : Shortened (normalize name) t) (he : t ≠ "") :
    r.resolve name = (pick name (namedBy t r.toList)).answer := by
  simp only [resolve, lookup, find?_eq_none_iff.mpr hx, ← shortened_iff.mp ht, he,
    if_false, endingWith_eq]

theorem answers_resolve (r : Registry) (name : String) :
    Answers r.toList name (r.resolve name) := by
  by_cases hx : ∀ c ∈ r.toList, c.qualifiedName ≠ normalize name
  · obtain ⟨t, ht⟩ : ∃ t, Shortened (normalize name) t := ⟨_, shortened_iff.mpr rfl⟩
    by_cases he : t = ""
    · rw [resolve_of_shortened_empty hx (he ▸ ht)]
      exact .missing hx ht (Or.inl he)
    · rw [resolve_of_shortened hx ht he]
      rcases hm : namedBy t r.toList with _ | ⟨c, _ | ⟨d, cs⟩⟩
      · exact .missing hx ht (Or.inr hm)
      · exact .only hx ht he hm
      · have hl : 2 ≤ (namedBy t r.toList).length := by simp [hm]
        rw [← hm, pick_of_two_le hl]
        exact .several hx ht he hl
  · obtain ⟨c, hc, hq⟩ : ∃ c ∈ r.toList, c.qualifiedName = normalize name := by
      simpa using hx
    rw [resolve_of_find?_eq_some (find?_eq_some_iff.mpr ⟨hc, hq⟩)]
    exact .exact hc hq

theorem resolve_eq_iff : r.resolve name = a ↔ Answers r.toList name a := by
  refine ⟨fun h => h ▸ answers_resolve r name, fun h => ?_⟩
  cases h with
  | exact hc hq => exact resolve_of_find?_eq_some (find?_eq_some_iff.mpr ⟨hc, hq⟩)
  | @missing t hx ht hm =>
    by_cases he : t = ""
    · exact resolve_of_shortened_empty hx (he ▸ ht)
    · rw [resolve_of_shortened hx ht he, hm.resolve_left he]
      rfl
  | only hx ht he hm =>
    rw [resolve_of_shortened hx ht he, hm]
    rfl
  | several hx ht he hm => rw [resolve_of_shortened hx ht he, pick_of_two_le hm]

/-! Registries that were read or scanned. -/

theorem exists_ofList_of_ofJsonText {text : String} (h : ofJsonText text = .ok r) :
    ∃ cs, r = ofList cs := by
  unfold ofJsonText at h
  split at h
  · exact ⟨_, (Except.ok.inj h).symm⟩
  · cases h

theorem run_addFile (root : Path) (found : Scan.Progress) (way : List String) (w : Workspace) :
    ∃ names cs w', (Scan.addFile (m := Session) root found way).run w =
      (⟨names, found.registry.insertAll cs⟩, w') := by
  unfold Scan.addFile
  rw [Session.run_bind, Session.run_bind]
  generalize StateT.run (ExceptT.run _) _ = read
  obtain ⟨cs | _, w'⟩ := read
  · exact ⟨_, [], w', rfl⟩
  · exact ⟨_, _, w', rfl⟩

theorem run_addFiles (root : Path) (found : Scan.Progress)
    (ways : List (List String)) (w : Workspace) :
    ∃ names cs w', (ways.foldlM (Scan.addFile (m := Session) root) found).run w =
      (⟨names, found.registry.insertAll cs⟩, w') := by
  induction ways generalizing found w with
  | nil => exact ⟨found.names, [], w, rfl⟩
  | cons way ways ih =>
    obtain ⟨names, cs, w1, h1⟩ := run_addFile root found way w
    obtain ⟨names', ds, w2, h2⟩ := ih ⟨names, found.registry.insertAll cs⟩ w1
    refine ⟨names', cs ++ ds, w2, ?_⟩
    rw [List.foldlM_cons, Session.run_bind, h1, h2, insertAll_append]

theorem exists_ofList_of_scan {root : Path} {w w' : Workspace}
    (h : (Scan.scan (m := Session) root).run.run w = (.ok r, w')) : ∃ cs, r = ofList cs := by
  unfold Scan.scan at h
  rw [Session.run_except_bind, Session.run_lift] at h
  dsimp only at h
  split at h
  · rw [Session.run_except_bind] at h
    cases h
  · rw [Session.run_except_bind, Session.run_lift] at h
    dsimp only at h
    generalize (Disk.filesBelow (m := Session) Scan.isEntered root).run _ = files at h
    obtain ⟨names, cs, w2, hr⟩ := run_addFiles root {} (Scan.sourceFiles files.1) files.2
    have hl : (ExceptT.lift ((Scan.sourceFiles files.1).foldlM (Scan.addFile root) {}) :
        ExceptT Failure Session Scan.Progress).run.run files.2 = (.ok ⟨names, ofList cs⟩, w2) :=
      (Session.run_lift _ _).trans (by rw [hr]; rfl)
    rw [Session.run_except_bind, hl] at h
    cases h
    exact ⟨cs, rfl⟩

/-- A registry as seen through a plain list of its classes. -/
structure AgreesWith (r : Registry) (classes : List Class) : Prop where
  order : r.toList = classes
  unique : (classes.map Class.qualifiedName).Nodup
  index : ∀ q i, r.index[q]? = some i ↔ ∃ c : Class, classes[i]? = some c ∧
    c.qualifiedName = q
  present : ∀ c : Class, c.qualifiedName ∈ classes.map Class.qualifiedName →
    r.insert c = (false, r)
  absent : ∀ c : Class, c.qualifiedName ∉ classes.map Class.qualifiedName →
    (r.insert c).1 = true ∧ (r.insert c).2.toList = classes ++ [c]
  answer : ∀ name a, r.resolve name = a ↔ Answers classes name a

theorem agreesWith_toList (r : Registry) : r.AgreesWith r.toList where
  order := rfl
  unique := known_nodup r
  index q i := by rw [index_eq_some_iff, Option.map_eq_some_iff]
  present _ hc := insert_of_mem hc
  absent _ hc := insert_of_notMem hc
  answer _ _ := resolve_eq_iff

/-- However classes are added, directly, from a document or by a scan, the registry agrees with the
list of the first class of each name, in order. -/
theorem ofList_agrees_with_firstDefinitions :
    (∀ cs, (ofList cs).AgreesWith (firstDefinitions cs)) ∧
    (∀ cs (c : Class), ((ofList cs).insert c).2 = ofList (cs ++ [c])) ∧
    (∀ text r, ofJsonText text = .ok r → ∃ cs, r = ofList cs) ∧
    (∀ root r (w w' : Workspace), (Scan.scan (m := Session) root).run.run w = (.ok r, w') →
      ∃ cs, r = ofList cs) := by
  refine ⟨?_, ?_, ?_, ?_⟩
  · intro cs
    rw [← toList_ofList]
    exact agreesWith_toList _
  · intro cs c
    have ha : ofList (cs ++ [c]) = ((ofList cs).insert c).2 := insertAll_append
    exact ha.symm
  · intro text r h
    exact exists_ofList_of_ofJsonText h
  · intro root r w w' h
    exact exists_ofList_of_scan h

end Registry
end ClassExport
