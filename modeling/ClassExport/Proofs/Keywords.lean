import ClassExport.Proofs.Documents
import Mathlib.Data.List.Basic
import Mathlib.Data.Set.List

/-!
Lists of modifier keywords: which are read, what a list amounts to, and how a set of modifiers is
written back.
-/
namespace ClassExport

variable {words words' : List String} {word s : String} {k j : Modifier} {ks : List Modifier}
  {m m' acc : Modifiers} {failure : Failure}

namespace Modifier

/-- The words that are modifiers, in the order in which they are written. -/
def keywordOrder : List String :=
  ["public", "private", "protected", "static", "final", "volatile", "transient"]

theorem mem_all (k : Modifier) : k ∈ all := by
  cases k <;> decide

theorem mem_keywordOrder_iff : s ∈ keywordOrder ↔ ∃ k, s = keyword k := by
  have hall : keywordOrder = all.map keyword := rfl
  rw [hall, List.mem_map]
  constructor
  · rintro ⟨k, -, rfl⟩
    exact ⟨k, rfl⟩
  · rintro ⟨k, rfl⟩
    exact ⟨k, mem_all k, rfl⟩

theorem ofKeyword?_eq_some_iff : ofKeyword? s = some k ↔ s = k.keyword := by
  constructor
  · intro h
    have hk := List.find?_some h
    exact (of_decide_eq_true hk).symm
  · rintro rfl
    cases k <;> rfl

theorem ofKeyword?_eq_none_iff : ofKeyword? s = none ↔ s ∉ keywordOrder := by
  rw [Option.eq_none_iff_forall_ne_some, mem_keywordOrder_iff, not_exists]
  exact forall_congr' fun k => not_congr ofKeyword?_eq_some_iff

theorem keyword_injective : Function.Injective keyword := by
  intro k j h
  have hk := ofKeyword?_eq_some_iff.mpr (Eq.refl k.keyword)
  exact Option.some.inj (hk.symm.trans (ofKeyword?_eq_some_iff.mpr h))

/-- No two modifiers share a bit. -/
theorem mask_and_mask_iff (k j : Modifier) : k.mask &&& j.mask = j.mask ↔ k = j := by
  cases k <;> cases j <;> decide

theorem mask_and_bitsOf_all (k : Modifier) : k.mask &&& bitsOf all = k.mask := by
  cases k <;> decide

end Modifier

namespace Modifiers

open Modifier (keywordOrder keyword_injective mem_keywordOrder_iff)

/-! What a set has. -/

theorem bits_or_and (a b c : UInt16) : (a ||| b) &&& c = (a &&& c) ||| (b &&& c) :=
  UInt16.toBitVec_inj.mp BitVec.and_or_distrib_right

theorem not_contains_empty (k : Modifier) : ¬ empty.contains (single k) := by
  cases k <;> decide

theorem contains_union_single :
    (acc.union (single k)).contains (single j) ↔ acc.contains (single j) ∨ k = j := by
  have hj := Modifier.mask_ne_zero j
  simp only [contains, union, single, beq_iff_eq, bits_or_and, ← Modifier.mask_and_mask_iff k j]
  rcases Modifier.and_mask acc.bits j with ha | ha
  · rcases Modifier.and_mask k.mask j with hk | hk <;> simp [ha, hk]
  · simp [ha, hj.symm]

theorem isNamed_empty : empty.IsNamed := by decide

theorem IsNamed.union_single (h : acc.IsNamed) (k : Modifier) : (acc.union (single k)).IsNamed := by
  rw [IsNamed, union, single, bits_or_and, Modifier.mask_and_bitsOf_all]
  exact congrArg (· ||| k.mask) h

/-- A set is told by the modifiers that it has, when no other bits are set. -/
theorem IsNamed.ext (h : m.IsNamed) (h' : m'.IsNamed)
    (hc : ∀ k, m.contains (single k) ↔ m'.contains (single k)) :
    m = m' := by
  have hk : m.keywords = m'.keywords := by
    rw [keywords, keywords, toList, toList]
    exact congrArg _ (List.filter_congr fun k _ => Bool.eq_iff_iff.mpr (hc k))
  have hm := ofKeywords_keywords h
  rw [hk, ofKeywords_keywords h'] at hm
  exact (Except.ok.inj hm).symm

/-! One word more. -/

/-- A set with the modifier that a word stands for. -/
def withWord (acc : Modifiers) (word : String) : Except Failure Modifiers :=
  match Modifier.ofKeyword? (Text.trim word) with
  | some k => .ok (acc.union (single k))
  | none => .error (.invalidModifier word)

theorem ofKeywords_eq (words : List String) : ofKeywords words = words.foldlM withWord empty := rfl

theorem withWord_of_keyword (acc : Modifiers) (h : Text.trim word = k.keyword) :
    withWord acc word = .ok (acc.union (single k)) := by
  rw [withWord, Modifier.ofKeyword?_eq_some_iff.mpr h]

theorem withWord_of_not_keyword (acc : Modifiers) (h : Text.trim word ∉ keywordOrder) :
    withWord acc word = .error (.invalidModifier word) := by
  rw [withWord, Modifier.ofKeyword?_eq_none_iff.mpr h]

/-! A list of words. -/

/-- The modifiers of a list are put into a set one by one. -/
def addAll (acc : Modifiers) (ks : List Modifier) : Modifiers :=
  ks.foldl (fun acc k => acc.union (single k)) acc

theorem addAll_cons (acc : Modifiers) (k : Modifier) (ks : List Modifier) :
    addAll acc (k :: ks) = addAll (acc.union (single k)) ks := rfl

theorem contains_addAll :
    (addAll acc ks).contains (single j) ↔ acc.contains (single j) ∨ j ∈ ks := by
  induction ks generalizing acc with
  | nil => simp [addAll]
  | cons k ks ih =>
    rw [addAll_cons, ih, contains_union_single, List.mem_cons, or_assoc, eq_comm (a := j)]

theorem IsNamed.addAll (h : acc.IsNamed) (ks : List Modifier) : (acc.addAll ks).IsNamed := by
  induction ks generalizing acc with
  | nil => exact h
  | cons k ks ih => exact ih (h.union_single k)

theorem foldlM_withWord (h : words.map Text.trim = ks.map Modifier.keyword) (acc : Modifiers) :
    words.foldlM withWord acc = .ok (acc.addAll ks) := by
  induction words generalizing ks acc with
  | nil =>
    obtain rfl := List.map_eq_nil_iff.mp h.symm
    rfl
  | cons word words ih =>
    cases ks with
    | nil => cases h
    | cons k ks =>
      obtain ⟨hw, hs⟩ := List.cons_eq_cons.mp h
      rw [List.foldlM_cons, withWord_of_keyword acc hw]
      exact ih hs _

/-- The first word of a list that is no keyword once it is trimmed. -/
def FirstOffending (words : List String) (word : String) : Prop :=
  ∃ before after, words = before ++ word :: after ∧
    (∀ w ∈ before, Text.trim w ∈ keywordOrder) ∧
    Text.trim word ∉ keywordOrder

theorem FirstOffending.cons (h : FirstOffending words word) (hs : Text.trim s ∈ keywordOrder) :
    FirstOffending (s :: words) word := by
  obtain ⟨before, after, rfl, hb, hw⟩ := h
  exact ⟨s :: before, after, rfl, List.forall_mem_cons.mpr ⟨hs, hb⟩, hw⟩

theorem keywords_or_firstOffending (words : List String) :
    (∀ w ∈ words, Text.trim w ∈ keywordOrder) ∨ ∃ word, FirstOffending words word := by
  induction words with
  | nil => exact Or.inl (List.forall_mem_nil _)
  | cons s words ih =>
    by_cases hs : Text.trim s ∈ keywordOrder
    · rcases ih with hall | ⟨word, hw⟩
      · exact Or.inl (List.forall_mem_cons.mpr ⟨hs, hall⟩)
      · exact Or.inr ⟨word, hw.cons hs⟩
    · exact Or.inr ⟨s, [], words, rfl, List.forall_mem_nil _, hs⟩

theorem FirstOffending.ofKeywords_eq (h : FirstOffending words word) :
    ofKeywords words = .error (.invalidModifier word) := by
  obtain ⟨before, after, rfl, hb, hw⟩ := h
  rw [Modifiers.ofKeywords_eq]
  generalize empty = acc
  induction before generalizing acc with
  | nil =>
    rw [List.nil_append, List.foldlM_cons, withWord_of_not_keyword acc hw]
    rfl
  | cons s before ih =>
    obtain ⟨hs, hb⟩ := List.forall_mem_cons.mp hb
    obtain ⟨k, hk⟩ := mem_keywordOrder_iff.mp hs
    rw [List.cons_append, List.foldlM_cons, withWord_of_keyword acc hk]
    exact ih hb _

theorem exists_spelled (h : ∀ w ∈ words, Text.trim w ∈ keywordOrder) :
    ∃ ks : List Modifier, words.map Text.trim = ks.map Modifier.keyword := by
  have hr : words.map Text.trim ∈ Set.range (List.map Modifier.keyword) := by
    rw [Set.range_list_map]
    intro s hs
    obtain ⟨w, hw, rfl⟩ := List.mem_map.mp hs
    obtain ⟨k, hk⟩ := mem_keywordOrder_iff.mp (h w hw)
    exact ⟨k, hk.symm⟩
  obtain ⟨ks, hks⟩ := hr
  exact ⟨ks, hks.symm⟩

theorem ofKeywords_of_keywords (h : ∀ w ∈ words, Text.trim w ∈ keywordOrder) :
    ∃ m, ofKeywords words = .ok m ∧ m.IsNamed ∧ ∀ k, m.contains (single k) ↔
      k.keyword ∈ words.map Text.trim := by
  obtain ⟨ks, hks⟩ := exists_spelled h
  refine ⟨empty.addAll ks, foldlM_withWord hks empty, isNamed_empty.addAll ks, fun k => ?_⟩
  rw [contains_addAll, hks, List.mem_map_of_injective keyword_injective]
  exact or_iff_right (not_contains_empty k)

/-- A list gives a set when it has only keywords, and then the set of these and nothing else. -/
theorem ofKeywords_eq_ok_iff :
    ofKeywords words = .ok m ↔ (∀ w ∈ words, Text.trim w ∈ keywordOrder) ∧ m.IsNamed ∧
    ∀ k, m.contains (single k) ↔ k.keyword ∈ words.map Text.trim := by
  constructor
  · intro h
    rcases keywords_or_firstOffending words with hall | ⟨word, hw⟩
    · obtain ⟨m', hm, hn, hc⟩ := ofKeywords_of_keywords hall
      obtain rfl := Except.ok.inj (h.symm.trans hm)
      exact ⟨hall, hn, hc⟩
    · rw [hw.ofKeywords_eq] at h
      cases h
  · rintro ⟨hall, hn, hc⟩
    obtain ⟨m', hm, hn', hc'⟩ := ofKeywords_of_keywords hall
    obtain rfl : m = m' := hn.ext hn' fun k => (hc k).trans (hc' k).symm
    exact hm

theorem ofKeywords_eq_error_iff :
    ofKeywords words = .error failure ↔ ∃ word, FirstOffending words word ∧
      failure = .invalidModifier word := by
  constructor
  · intro h
    rcases keywords_or_firstOffending words with hall | ⟨word, hw⟩
    · obtain ⟨m, hm, -⟩ := ofKeywords_of_keywords hall
      cases h.symm.trans hm
    · exact ⟨word, hw, Except.error.inj (h.symm.trans hw.ofKeywords_eq)⟩
  · rintro ⟨word, hw, rfl⟩
    exact hw.ofKeywords_eq

theorem mem_trimmed_iff (h : ofKeywords words = .ok m) :
    s ∈ words.map Text.trim ↔ ∃ k, s = Modifier.keyword k ∧ m.contains (single k) := by
  obtain ⟨hall, -, hc⟩ := ofKeywords_eq_ok_iff.mp h
  constructor
  · intro hs
    obtain ⟨w, hw, rfl⟩ := List.mem_map.mp hs
    obtain ⟨k, hk⟩ := mem_keywordOrder_iff.mp (hall w hw)
    exact ⟨k, hk, (hc k).mpr (hk ▸ hs)⟩
  · rintro ⟨k, rfl, hk⟩
    exact (hc k).mp hk

theorem keywords_eq_filter (h : ∀ k, m.contains (single k) ↔ k.keyword ∈ words) :
    m.keywords = keywordOrder.filter (· ∈ words) := by
  have hall : keywordOrder = Modifier.all.map Modifier.keyword := rfl
  rw [hall, List.filter_map, keywords, toList]
  refine congrArg _ (List.filter_congr fun k _ => Bool.eq_iff_iff.mpr ?_)
  rw [h k, Function.comp_apply, decide_eq_true_iff]

/-- A list of words is a set of modifiers just when each word is a keyword once it is trimmed. Two
such lists give the same set just when they have the same keywords. The set is written as these
keywords in their fixed order, each once, which is read as the same set again. Any other list fails
with its first word that is no keyword, as it is written. -/
theorem ofKeywords_canonical (words : List String) :
    ((∃ m, ofKeywords words = .ok m) ↔ ∀ w ∈ words, Text.trim w ∈ keywordOrder) ∧
    (∀ m, ofKeywords words = .ok m →
      m.keywords = keywordOrder.filter (· ∈ words.map Text.trim) ∧ m.keywords.Nodup ∧
        ofKeywords m.keywords = .ok m ∧
      ∀ words', ofKeywords words' = .ok m ↔ ∀ s, s ∈ words'.map Text.trim ↔
        s ∈ words.map Text.trim) ∧
    ∀ failure, ofKeywords words = .error failure ↔
      ∃ word, FirstOffending words word ∧ failure = .invalidModifier word := by
  refine ⟨⟨?_, ?_⟩, ?_, fun failure => ofKeywords_eq_error_iff⟩
  · rintro ⟨m, hm⟩
    exact (ofKeywords_eq_ok_iff.mp hm).1
  · intro hall
    obtain ⟨m, hm, -⟩ := ofKeywords_of_keywords hall
    exact ⟨m, hm⟩
  · intro m hm
    obtain ⟨hall, hn, hc⟩ := ofKeywords_eq_ok_iff.mp hm
    have hkeywords := keywords_eq_filter hc
    have hnodup : keywordOrder.Nodup := by decide
    refine ⟨hkeywords, hkeywords ▸ hnodup.filter _, ofKeywords_keywords hn, fun words' =>
      ⟨fun hm' s => ?_, ?_⟩⟩
    · rw [mem_trimmed_iff hm, mem_trimmed_iff hm']
    · intro hs
      refine ofKeywords_eq_ok_iff.mpr ⟨fun w hw => ?_, hn, fun k =>
        (hc k).trans (hs k.keyword).symm⟩
      obtain ⟨k, hk, -⟩ := (mem_trimmed_iff hm).mp ((hs _).mp (List.mem_map_of_mem hw))
      exact mem_keywordOrder_iff.mpr ⟨k, hk⟩

theorem ofKeywords_canonical_of_padded :
    ofKeywords [" static", "public\u00a0", "static"] = .ok ⟨9⟩ ∧
    (⟨9⟩ : Modifiers).keywords = ["public", "static"] ∧
      ofKeywords ["public", "static"] = .ok ⟨9⟩ ∧
    ∀ words', ofKeywords words' = .ok ⟨9⟩ ↔
      ∀ s, s ∈ words'.map Text.trim ↔
        s ∈ [" static", "public\u00a0", "static"].map Text.trim := by
  have h : ofKeywords [" static", "public\u00a0", "static"] = .ok ⟨9⟩ := by decide
  obtain ⟨hk, -, hback, hsame⟩ :=
    (ofKeywords_canonical [" static", "public\u00a0", "static"]).2.1 ⟨9⟩ h
  have hwritten : (⟨9⟩ : Modifiers).keywords = ["public", "static"] := by decide
  exact ⟨h, hwritten, hwritten ▸ hback, hsame⟩

example : ofKeywords ["public", " sealed ", "open"] = .error (.invalidModifier " sealed ") := by
  decide

end Modifiers
end ClassExport
