import ClassExport.Proofs.JsonText
import ClassExport.Proofs.Lookup

/-! Classes that are written to a descriptor document are read back as they were. -/
namespace ClassExport

/-! Modifiers. -/

namespace Modifier

variable {m : Modifier} {ms : List Modifier}

/-- The bits of some modifiers. -/
def bitsOf (ms : List Modifier) : UInt16 := ms.foldr (fun m bits => m.mask ||| bits) 0

theorem ofKeyword?_keyword (m : Modifier) : ofKeyword? (Text.trim m.keyword) = some m := by
  cases m <;> decide

/-- A modifier is one bit. -/
theorem and_mask (bits : UInt16) (m : Modifier) :
    bits &&& m.mask = m.mask ∨ bits &&& m.mask = 0 := by
  obtain ⟨i, hi⟩ : ∃ i, m.mask.toBitVec = BitVec.twoPow 16 i := by
    cases m with
    | publicAccess => exact ⟨0, rfl⟩
    | privateAccess => exact ⟨1, rfl⟩
    | protectedAccess => exact ⟨2, rfl⟩
    | static => exact ⟨3, rfl⟩
    | final => exact ⟨4, rfl⟩
    | volatile => exact ⟨6, rfl⟩
    | transient => exact ⟨7, rfl⟩
  have hb := BitVec.and_twoPow bits.toBitVec i
  rw [← hi] at hb
  split at hb
  · exact Or.inl (UInt16.toBitVec_inj.mp hb)
  · exact Or.inr (UInt16.toBitVec_inj.mp hb)

theorem mask_ne_zero (m : Modifier) : m.mask ≠ 0 := by
  cases m <;> decide

theorem and_bitsOf_cons (bits : UInt16) :
    bits &&& bitsOf (m :: ms) = (bits &&& m.mask) ||| (bits &&& bitsOf ms) :=
  UInt16.toBitVec_inj.mp BitVec.and_or_distrib_left

end Modifier

namespace Modifiers

variable {m acc : Modifiers} {ms : List Modifier}

/-- No bit is set but those that keywords name. -/
def IsNamed (m : Modifiers) : Prop := m.bits &&& Modifier.bitsOf Modifier.all = m.bits

instance : DecidablePred IsNamed := fun m => inferInstanceAs (Decidable (_ = m.bits))

theorem foldl_union_filter (m : Modifiers) (ms : List Modifier) (acc : Modifiers) :
    (ms.filter fun k => m.contains (single k)).foldl (fun acc k => acc.union (single k)) acc =
      ⟨acc.bits ||| (m.bits &&& Modifier.bitsOf ms)⟩ := by
  induction ms generalizing acc with
  | nil => simp [Modifier.bitsOf]
  | cons k ms ih =>
    rw [Modifier.and_bitsOf_cons]
    obtain hk | hk := Modifier.and_mask m.bits k
    · rw [List.filter_cons_of_pos (by simp [contains, single, hk]), List.foldl_cons, ih, hk]
      simp [union, single, UInt16.or_assoc]
    · have hn := Ne.symm (Modifier.mask_ne_zero k)
      rw [List.filter_cons_of_neg (by simp [contains, single, hk, hn]), ih, hk, UInt16.zero_or]

theorem foldlM_keywords {add : Modifiers → String → Except Failure Modifiers}
    (h : ∀ acc k, add acc (Modifier.keyword k) = .ok (acc.union (single k))) (ms : List Modifier)
    (acc : Modifiers) :
    (ms.map Modifier.keyword).foldlM add acc =
      .ok (ms.foldl (fun acc k => acc.union (single k)) acc) := by
  induction ms generalizing acc with
  | nil => rfl
  | cons k ms ih =>
    rw [List.map_cons, List.foldlM_cons, h]
    exact ih _

theorem ofKeywords_keywords (h : m.IsNamed) : ofKeywords m.keywords = .ok m := by
  have hf := foldl_union_filter m Modifier.all empty
  rw [h] at hf
  rw [ofKeywords, keywords,
    foldlM_keywords (fun acc k => by rw [Modifier.ofKeyword?_keyword]), toList, hf]
  simp [empty]

end Modifiers

/-! Records. -/

namespace Json

variable {α σ : Type} {slots : List (Slot σ)} {slot : Slot σ} {s : σ} {seen : List String}
  {key : String} {v : Json} {ms : List (Json × Json)}

theorem asList_map {read : Json → Except Fault α} {write : α → Json} {xs : List α}
    (h : ∀ x ∈ xs, read (write x) = .ok x) :
    asList read (.array (xs.map write) none) = .ok xs := by
  have hm : (xs.map write).mapM read = .ok xs := by
    induction xs with
    | nil => rfl
    | cons x xs ih =>
      rw [List.forall_mem_cons] at h
      rw [List.map_cons, List.mapM_cons, h.1, ih h.2]
      rfl
  rw [asList, hm]
  rfl

/-- One member of a record is read into its slot. -/
theorem foldlM_readMember (s' : σ) (hs : slots.find? (·.key = key) = some slot)
    (hn : key ∉ seen) (hr : slot.read v s = .ok s') :
    ((.string key, v) :: ms).foldlM (readMember slots) (s, seen) =
      ms.foldlM (readMember slots) (s', key :: seen) := by
  have hm : readMember slots (s, seen) (.string key, v) = .ok (s', key :: seen) := by
    simp only [readMember, asString, hs, hn, if_false, hr, bind, Except.bind, pure, Except.pure]
  rw [List.foldlM_cons, hm]
  rfl

theorem asRecord_object {surplus : Fault} {record : σ}
    (hf : ms.foldlM (readMember slots) (s, []) = .ok (record, seen))
    (hr : slots.any (fun slot => slot.required && !seen.contains slot.key) = false) :
    asRecord surplus slots s (.object ms) = .ok record := by
  simp only [asRecord, hf, hr, bind, Except.bind, pure, Except.pure, Bool.false_eq_true, if_false]

end Json

open Json (foldlM_readMember asRecord_object asList_map)

variable {f : Field} {c : Class} {m : Modifiers} {surplus : Json.Fault}

theorem Modifiers.ofJson_toJson (h : m.IsNamed) : Modifiers.ofJson m.toJson = .ok m := by
  have hk : m.toJson.asList Json.asString = .ok m.keywords := asList_map fun _ _ => rfl
  rw [Modifiers.ofJson, hk]
  simp only [bind, Except.bind, Modifiers.ofKeywords_keywords h]
  rfl

theorem Field.ofJson_toJson (h : f.modifiers.IsNamed) : Field.ofJson surplus f.toJson = .ok f := by
  obtain ⟨name, typeName, qualified, isArray, modifiers⟩ := f
  have hm := Modifiers.ofJson_toJson h
  cases qualified with
  | none =>
    have hf : [(Json.string "name", Json.string name), (.string "type", .string typeName),
        (.string "array", .bool isArray), (.string "modifiers", modifiers.toJson)].foldlM
          (Json.readMember Field.slots) (⟨"", "", none, false, .single .publicAccess⟩, []) =
        .ok (⟨name, typeName, none, isArray, modifiers⟩,
          ["modifiers", "array", "type", "name"]) := by
      rw [foldlM_readMember ⟨name, "", none, false, .single .publicAccess⟩ rfl (by decide) rfl,
        foldlM_readMember ⟨name, typeName, none, false, .single .publicAccess⟩
          rfl (by decide) rfl,
        foldlM_readMember ⟨name, typeName, none, isArray, .single .publicAccess⟩
          rfl (by decide) rfl,
        foldlM_readMember ⟨name, typeName, none, isArray, modifiers⟩ rfl (by decide)
          (by simp only [hm]; rfl)]
      rfl
    exact asRecord_object hf rfl
  | some q =>
    have hf : [(Json.string "name", Json.string name), (.string "type", .string typeName),
        (.string "qualified_type", .string q), (.string "array", .bool isArray),
        (.string "modifiers", modifiers.toJson)].foldlM
          (Json.readMember Field.slots) (⟨"", "", none, false, .single .publicAccess⟩, []) =
        .ok (⟨name, typeName, some q, isArray, modifiers⟩,
          ["modifiers", "array", "qualified_type", "type", "name"]) := by
      rw [foldlM_readMember ⟨name, "", none, false, .single .publicAccess⟩ rfl (by decide) rfl,
        foldlM_readMember ⟨name, typeName, none, false, .single .publicAccess⟩
          rfl (by decide) rfl,
        foldlM_readMember ⟨name, typeName, some q, false, .single .publicAccess⟩
          rfl (by decide) rfl,
        foldlM_readMember ⟨name, typeName, some q, isArray, .single .publicAccess⟩
          rfl (by decide) rfl,
        foldlM_readMember ⟨name, typeName, some q, isArray, modifiers⟩ rfl (by decide)
          (by simp only [hm]; rfl)]
      rfl
    exact asRecord_object hf rfl

/-- A class whose modifiers have names, all of them. -/
def Class.IsNamed (c : Class) : Prop := ∀ f ∈ c.fields, f.modifiers.IsNamed

instance : DecidablePred Class.IsNamed :=
  fun c => inferInstanceAs (Decidable (∀ f ∈ c.fields, f.modifiers.IsNamed))

theorem Class.ofJson_toJson (h : c.IsNamed) : Class.ofJson surplus c.toJson = .ok c := by
  obtain ⟨name, package, fields⟩ := c
  have hl : (Json.array (fields.map Field.toJson) none).asList (Field.ofJson surplus) =
      .ok fields :=
    asList_map fun f hf => Field.ofJson_toJson (h f hf)
  have hf : [(Json.string "name", Json.string name), (.string "package", .string package),
      (.string "fields", .array (fields.map Field.toJson) none)].foldlM
        (Json.readMember (Class.slots surplus)) (⟨"", "", []⟩, []) =
      .ok (⟨name, package, fields⟩, ["fields", "package", "name"]) := by
    rw [foldlM_readMember ⟨name, "", []⟩ rfl (by decide) rfl,
      foldlM_readMember ⟨name, package, []⟩ rfl (by decide) rfl,
      foldlM_readMember ⟨name, package, fields⟩ rfl (by decide) (by simp only [hl]; rfl)]
    rfl
  exact asRecord_object hf rfl

open Json (Printable)

theorem Modifiers.printable_toJson (m : Modifiers) : Printable m.toJson := by
  refine .array fun j hj => ?_
  obtain ⟨word, -, rfl⟩ := List.mem_map.mp hj
  exact .string word

theorem Field.printable_toJson (f : Field) : Printable f.toJson := by
  refine .object ?_ ?_
  · cases f.qualifiedTypeName <;> simp
  · cases f.qualifiedTypeName <;> simp [Printable.string, Printable.bool,
      Modifiers.printable_toJson]

theorem Class.printable_toJson (c : Class) : Printable c.toJson := by
  have hl : Printable (.array (c.fields.map Field.toJson) none) := by
    refine .array fun j hj => ?_
    obtain ⟨f, -, rfl⟩ := List.mem_map.mp hj
    exact f.printable_toJson
  refine .object ?_ ?_
  · simp
  · simp [Printable.string, hl]

theorem Document.ofText_toText {classes : List Class} (h : ∀ c ∈ classes, c.IsNamed) :
    Document.ofText (Document.toText classes) = .ok classes := by
  have hl : Printable (.array (classes.map Class.toJson) none) := by
    refine .array fun j hj => ?_
    obtain ⟨c, -, rfl⟩ := List.mem_map.mp hj
    exact c.printable_toJson
  have hp : Printable (.object [(.string "classes", .array (classes.map Class.toJson) none)]) :=
    .object (by simp) (by simpa using hl)
  have hr : (Json.array (classes.map Class.toJson) none).asList (Class.ofJson .malformed) =
      .ok classes :=
    asList_map fun c hc => Class.ofJson_toJson (h c hc)
  have hf : [(Json.string "classes", Json.array (classes.map Class.toJson) none)].foldlM
      (Json.readMember (Document.slots .malformed)) ([], []) = .ok (classes, ["classes"]) := by
    rw [foldlM_readMember classes rfl (by decide) hr]
    rfl
  rw [Document.ofText, Document.toText, Json.ofText_text _ hp]
  exact asRecord_object hf rfl

namespace Registry

/-- The classes that come in make the same registry when they alone are inserted. -/
theorem exists_insertAll_eq (r : Registry) (cs : List Class) :
    ∃ ds, (∀ d ∈ ds, d ∈ cs) ∧ (r.insertAll cs).toList = r.toList ++ ds ∧
      r.insertAll cs = r.insertAll ds := by
  induction cs generalizing r with
  | nil => exact ⟨[], by simp, by simp [insertAll], rfl⟩
  | cons c cs ih =>
    obtain ⟨ds, hm, hl, he⟩ := ih (r.insert c).2
    change ∃ ds, _ ∧ ((r.insert c).2.insertAll cs).toList = _ ∧
      (r.insert c).2.insertAll cs = _
    by_cases hk : c.qualifiedName ∈ r.known
    · rw [insert_of_mem hk] at hl he ⊢
      exact ⟨ds, fun d hd => List.mem_cons_of_mem c (hm d hd), hl, he⟩
    · refine ⟨c :: ds, ?_, ?_, he⟩
      · rw [List.forall_mem_cons]
        exact ⟨List.mem_cons_self, fun d hd => List.mem_cons_of_mem c (hm d hd)⟩
      · rw [hl, (insert_of_notMem hk).2, List.append_assoc, List.singleton_append]

/-- A registry is made again by inserting its own classes. -/
theorem ofList_toList (cs : List Class) : ofList (ofList cs).toList = ofList cs := by
  obtain ⟨ds, -, hl, he⟩ := exists_insertAll_eq empty cs
  have hd : (ofList cs).toList = ds := hl
  rw [hd]
  exact he.symm

theorem mem_of_mem_toList {cs : List Class} (h : c ∈ (ofList cs).toList) : c ∈ cs := by
  obtain ⟨ds, hm, hl, -⟩ := exists_insertAll_eq empty cs
  have hd : (ofList cs).toList = ds := hl
  exact hm c (hd ▸ h)

/-- Writing a registry as a document and reading the document gives the registry again, its index
included. -/
theorem ofJsonText_toJsonText {cs : List Class} (h : ∀ c ∈ cs, c.IsNamed) :
    ofJsonText (ofList cs).toJsonText = .ok (ofList cs) := by
  rw [ofJsonText, toJsonText, Document.ofText_toText fun c hc => h c (mem_of_mem_toList hc)]
  dsimp only
  rw [ofList_toList]

theorem ofJsonText_toJsonText_of_quoted :
    (∀ c ∈ [⟨"A\"\\", "p\n", [⟨"x\x01", "é", some "", true, .empty⟩,
        ⟨"y", "", none, false, .single .static⟩]⟩,
      ⟨"B", "", []⟩, ⟨"B", "", [⟨"z", "int", none, false, .single .publicAccess⟩]⟩],
      Class.IsNamed c) ∧
    ofJsonText (ofList [⟨"A\"\\", "p\n", [⟨"x\x01", "é", some "", true, .empty⟩,
        ⟨"y", "", none, false, .single .static⟩]⟩,
      ⟨"B", "", []⟩, ⟨"B", "", [⟨"z", "int", none, false,
        .single .publicAccess⟩]⟩]).toJsonText =
    .ok (ofList [⟨"A\"\\", "p\n", [⟨"x\x01", "é", some "", true, .empty⟩,
        ⟨"y", "", none, false, .single .static⟩]⟩,
      ⟨"B", "", []⟩, ⟨"B", "", [⟨"z", "int", none, false, .single .publicAccess⟩]⟩]) :=
  ⟨by decide, ofJsonText_toJsonText (by decide)⟩

end Registry
end ClassExport
