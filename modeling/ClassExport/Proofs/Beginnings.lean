import ClassExport.TypeMapping
import Mathlib.Data.List.Infix

/-!
The mapping of type names, told by the first characters of the name as if only the letters of ASCII
had a case.
-/
namespace ClassExport

open Text TypeMapping

variable {name more text : String} {q q' : Option String} {a a' : Bool} {ks cs before : List Char}

/-! Lower case in Unicode and in ASCII. -/

namespace Text

theorem lowerChar_ascii {c : Char} (h : c.toNat < 0x80) : lowerChar c = [c.toLower] := if_pos h

theorem toLower_of_not_ascii {c : Char} (h : ¬ c.toNat < 0x80) : c.toLower = c := by
  refine dif_neg fun hu => ?_
  have hz : c.val.toNat ≤ 'Z'.val.toNat := UInt32.le_iff_toNat_le.mp hu.2
  have hz' : 'Z'.val.toNat = 90 := rfl
  exact h (by change c.val.toNat < 0x80; omega)

/-- Of the runs only that of the Kelvin sign leads into ASCII. -/
theorem ascii_of_mem_lowerRuns {r : CaseRun} (h : r ∈ lowerRuns) :
    (0x80 : Int) ≤ r.first + r.shift ∨ r.first = 0x212a ∧ r.last = 0x212a ∧
      r.shift = -8383 := by
  have hall : ∀ r ∈ lowerRuns.toList,
      (0x80 : Int) ≤ r.first + r.shift ∨ r.first = 0x212a ∧ r.last = 0x212a ∧
        r.shift = -8383 := by
    decide +kernel
  exact hall r (Array.mem_toList_iff.mpr h)

theorem toNat_ofNat_or (n : Nat) : (Char.ofNat n).toNat = n ∨ Char.ofNat n = '\x00' := by
  by_cases h : n.isValidChar
  · refine Or.inl ?_
    rw [Char.ofNat, dif_pos h]
    exact UInt32.toNat_ofNatLT
  · exact Or.inr (by rw [Char.ofNat, dif_neg h]; rfl)

/-- A character outside ASCII becomes one outside ASCII, save the dotted capital `İ` and the Kelvin
sign. -/
theorem lowerChar_not_ascii {c : Char} (h : ¬ c.toNat < 0x80) :
    lowerChar c = ['i', '\u0307'] ∨ ∃ d, lowerChar c = [d] ∧
      (d = 'k' ∨ d = '\x00' ∨ ¬ d.toNat < 0x80) := by
  by_cases hi : c = 'İ'
  · exact Or.inl (by rw [lowerChar, if_neg h, if_pos hi])
  · refine Or.inr ?_
    rw [lowerChar, if_neg h, if_neg hi]
    cases hr : lowerRuns.find? (·.covers c.toNat) with
    | none => exact ⟨c, rfl, Or.inr (Or.inr h)⟩
    | some r =>
      refine ⟨_, rfl, ?_⟩
      have hc := Array.find?_some hr
      rw [CaseRun.covers, Bool.and_eq_true, Bool.and_eq_true, decide_eq_true_eq,
        decide_eq_true_eq] at hc
      rcases ascii_of_mem_lowerRuns (Array.mem_of_find?_eq_some hr) with hlow |
        ⟨hfirst, hlast, hshift⟩
      · rcases toNat_ofNat_or ((c.toNat : Int) + r.shift).toNat with hn | hn
        · exact Or.inr (Or.inr (by omega))
        · exact Or.inr (Or.inl hn)
      · have hn : ((c.toNat : Int) + r.shift).toNat = 'k'.toNat := by
          have hk : 'k'.toNat = 107 := rfl
          omega
        exact Or.inl (by rw [hn]; rfl)

/-- A word that lower-casing makes from nothing but the letters of ASCII: it holds no `k`, which the
Kelvin sign becomes as well, and does not end in `i`, with which the lower-case form of `İ`
begins. -/
structure Keyword (ks : List Char) : Prop where
  ascii : ∀ k ∈ ks, k.toNat < 0x80 ∧ k ≠ 'k' ∧ k ≠ '\x00'
  ends : ks.getLast? ≠ some 'i'

theorem Keyword.tail {k : Char} (h : Keyword (k :: ks)) : Keyword ks where
  ascii := fun d hd => h.ascii d (List.mem_cons_of_mem k hd)
  ends := by
    intro hl
    exact h.ends (by rw [List.getLast?_cons, hl]; rfl)

/-- What the context does to a capital sigma does not matter, since no form of it is in ASCII. -/
theorem prefix_lowerFrom_iff (h : Keyword ks) (before cs : List Char) :
    ks <+: lowerFrom before cs ↔ ks <+: cs.map Char.toLower := by
  induction ks generalizing before cs with
  | nil => exact ⟨fun _ => List.nil_prefix, fun _ => List.nil_prefix⟩
  | cons k ks ih =>
    obtain ⟨hk, hkelvin, hzero⟩ := h.ascii k List.mem_cons_self
    cases cs with
    | nil => rfl
    | cons c cs =>
      rw [lowerFrom, List.map_cons]
      by_cases hc : c.toNat < 0x80
      · have hs : c ≠ 'Σ' := by
          rintro rfl
          exact absurd hc (by decide)
        rw [decide_eq_false hs, lowerChar_ascii hc]
        exact List.cons_prefix_cons.trans
          ((and_congr_right fun _ => ih h.tail _ _).trans List.cons_prefix_cons.symm)
      · rw [toLower_of_not_ascii hc, List.cons_prefix_cons]
        refine ⟨fun hp => False.elim ?_, fun hp => absurd (hp.1 ▸ hk) hc⟩
        split at hp
        · obtain ⟨rfl, -⟩ := List.cons_prefix_cons.mp hp
          exact absurd hk (by decide)
        · rcases lowerChar_not_ascii hc with hi | ⟨d, hd, hcase⟩
          · -- `İ` begins like an `i`, but a mark comes after it and not a letter
            rw [hi] at hp
            obtain ⟨rfl, hmark⟩ := List.cons_prefix_cons.mp hp
            cases ks with
            | nil => exact h.ends rfl
            | cons l ks =>
              have hl : l = '\u0307' := (List.cons_prefix_cons.mp hmark).1
              exact absurd (hl ▸ (h.tail.ascii l List.mem_cons_self).1) (by decide)
          · rw [hd] at hp
            obtain ⟨rfl, -⟩ := List.cons_prefix_cons.mp hp
            rcases hcase with hcase | hcase | hcase
            · exact hkelvin hcase
            · exact hzero hcase
            · exact hcase hk

end Text

namespace TypeMapping

/-- Whether a name begins with a text, the letters of ASCII in either case. -/
def BeginsLike (text name : String) : Prop := text.toList <+: name.toList.map Char.toLower

/-! The patterns. -/

/-- What a pattern asks of a name. -/
def Pattern.Asks (name : String) : Pattern → Prop
  | .begins text => text.toList <+: name.toList
  | .beginsInAnyCase texts => ∃ text ∈ texts, BeginsLike text name

/-- The texts of a pattern in lower case. -/
def Pattern.keywords : Pattern → List (List Char)
  | .begins text => [text.toList.map Char.toLower]
  | .beginsInAnyCase texts => texts.map String.toList

instance {ks : List Char} : Decidable (Keyword ks) :=
  decidable_of_iff ((ks.all fun k => k.toNat < 0x80 ∧ k ≠ 'k' ∧ k ≠ '\x00') ∧
    ks.getLast? ≠ some 'i')
    ⟨fun ⟨ha, he⟩ => ⟨by simpa using ha, he⟩, fun h =>
      ⟨by simpa using h.ascii, h.ends⟩⟩

variable {p : Pattern} {r s : Rule}

theorem Pattern.accepts_iff (h : ∀ ks ∈ p.keywords, Keyword ks) :
    p.accepts name ↔ p.Asks name := by
  cases p with
  | begins text => exact List.isPrefixOf_iff_prefix
  | beginsInAnyCase texts =>
    rw [accepts, List.any_eq_true, Asks]
    refine exists_congr fun text => and_congr_right fun ht => ?_
    exact List.isPrefixOf_iff_prefix.trans
      (prefix_lowerFrom_iff (h _ (List.mem_map_of_mem ht)) [] _)

theorem Pattern.Asks.exists_keyword (h : p.Asks name) :
    ∃ ks ∈ p.keywords, ks <+: name.toList.map Char.toLower := by
  cases p with
  | begins text => exact ⟨_, List.mem_singleton_self _, List.IsPrefix.map Char.toLower h⟩
  | beginsInAnyCase texts =>
    obtain ⟨text, ht, hp⟩ := h
    exact ⟨text.toList, List.mem_map_of_mem ht, hp⟩

theorem Pattern.Asks.append (h : p.Asks name) (more : String) : p.Asks (name ++ more) := by
  cases p with
  | begins text =>
    rw [Asks, String.toList_append]
    exact List.IsPrefix.trans h (List.prefix_append _ _)
  | beginsInAnyCase texts =>
    obtain ⟨text, ht, hp⟩ := h
    refine ⟨text, ht, ?_⟩
    rw [BeginsLike, String.toList_append, List.map_append]
    exact List.IsPrefix.trans hp (List.prefix_append _ _)

/-! The table. -/

theorem keyword_of_mem_rules (h : r ∈ rules) : ∀ ks ∈ r.pattern.keywords, Keyword ks := by
  have hall : ∀ r ∈ rules, ∀ ks ∈ r.pattern.keywords, Keyword ks := by decide
  exact hall r h

theorem accepts_iff_asks (h : r ∈ rules) : r.pattern.accepts name ↔ r.pattern.Asks name :=
  Pattern.accepts_iff (keyword_of_mem_rules h)

/-- No keyword of one rule begins one of another rule. -/
theorem pairwise_keywords :
    rules.Pairwise fun r s => ∀ ks ∈ r.pattern.keywords, ∀ ls ∈ s.pattern.keywords,
      ¬ ks <+: ls ∧ ¬ ls <+: ks := by
  decide

theorem pairwise_accepts (name : String) :
    rules.Pairwise fun r s => ¬ (r.pattern.accepts name ∧ s.pattern.accepts name) := by
  refine pairwise_keywords.imp_of_mem fun {r s} hr hs hk => ?_
  rintro ⟨har, has⟩
  obtain ⟨ks, hks, hp⟩ := ((accepts_iff_asks hr).mp har).exists_keyword
  obtain ⟨ls, hls, hp'⟩ := ((accepts_iff_asks hs).mp has).exists_keyword
  obtain ⟨hn, hn'⟩ := hk ks hks ls hls
  rcases List.prefix_or_prefix_of_prefix hp hp' with h | h
  · exact hn h
  · exact hn' h

theorem countP_le_one_of_pairwise {α : Type} {p : α → Bool} {xs : List α}
    (h : xs.Pairwise fun x y => ¬ (p x ∧ p y)) :
    xs.countP p ≤ 1 := by
  induction h with
  | nil => exact Nat.zero_le 1
  | @cons x xs hx _ ih =>
    rw [List.countP_cons]
    split
    · rename_i hpx
      have hnone : xs.countP p = 0 := List.countP_eq_zero.mpr fun y hy hpy => hx y hy ⟨hpx, hpy⟩
      omega
    · exact ih

theorem find?_of_countP_le_one {α : Type} {p : α → Bool} {xs ys : List α}
    (hc : xs.countP p ≤ 1) (hp : ys.Perm xs) :
    ys.find? p = xs.find? p := by
  rw [List.countP_eq_length_filter] at hc
  rw [← List.head?_filter, ← List.head?_filter]
  have hf := hp.filter p
  match hx : xs.filter p, hc with
  | [], _ => rw [hx] at hf; rw [hf.eq_nil]
  | [x], _ => rw [hx] at hf; rw [List.perm_singleton.mp hf]

theorem countP_accepts_le_one (name : String) : rules.countP (·.pattern.accepts name) ≤ 1 :=
  countP_le_one_of_pairwise (pairwise_accepts name)

/-- The mapping by a table of rules. -/
def mapBy (table : List Rule) (name : String) (qualified : Option String) (isArray : Bool) :
    MappedType :=
  match table.find? (·.pattern.accepts name) with
  | some rule => ⟨rule.category, isArray, rule.note.text name qualified isArray⟩
  | none => ⟨.any, isArray, ""⟩

theorem mapBy_of_perm {table : List Rule} (h : table.Perm rules) :
    mapBy table name q a = mapType name q a := by
  rw [mapBy, find?_of_countP_le_one (countP_accepts_le_one name) h]
  rfl

/-! What the one rule that accepts a name makes of it. -/

theorem find?_rules_eq_some_iff :
    rules.find? (·.pattern.accepts name) = some r ↔ r ∈ rules ∧ r.pattern.Asks name := by
  constructor
  · intro h
    have hr := List.mem_of_find?_eq_some h
    have ha := List.find?_some h
    exact ⟨hr, (accepts_iff_asks hr).mp ha⟩
  · rintro ⟨hr, ha⟩
    -- brought to the front of the table, the rule is the first that accepts the name
    obtain ⟨front, back, hb⟩ := List.append_of_mem hr
    have hp : (r :: (front ++ back)).Perm rules := hb ▸ List.perm_middle.symm
    rw [← find?_of_countP_le_one (countP_accepts_le_one name) hp]
    exact List.find?_cons_of_pos ((accepts_iff_asks hr).mpr ha)

theorem mapType_of_mem (hr : r ∈ rules) (ha : r.pattern.Asks name) :
    mapType name q a = ⟨r.category, a, r.note.text name q a⟩ := by
  rw [mapType, find?_rules_eq_some_iff.mpr ⟨hr, ha⟩]

theorem mapType_of_not_asks (h : ∀ r ∈ rules, ¬ r.pattern.Asks name) :
    mapType name q a = ⟨.any, a, ""⟩ := by
  have hn : rules.find? (·.pattern.accepts name) = none := by
    rw [Option.eq_none_iff_forall_ne_some]
    intro r hr
    obtain ⟨hm, ha⟩ := find?_rules_eq_some_iff.mp hr
    exact h r hm ha
  rw [mapType, hn]

/-- A name is accepted by one rule or by none. -/
theorem asks_or (name : String) :
    (∃ r ∈ rules, r.pattern.Asks name) ∨ ∀ r ∈ rules, ¬ r.pattern.Asks name := by
  by_cases h : ∃ r ∈ rules, r.pattern.Asks name
  · exact Or.inl h
  · exact Or.inr fun r hr ha => h ⟨r, hr, ha⟩

theorem category_ne_any (h : r ∈ rules) : r.category ≠ .any := by
  have hall : ∀ r ∈ rules, r.category ≠ .any := by decide
  exact hall r h

theorem category_eq_iff {category : Category} (hc : category ≠ .any) :
    (mapType name q a).category = category ↔ ∃ r ∈ rules, r.pattern.Asks name ∧
      r.category = category := by
  constructor
  · intro h
    rcases asks_or name with ⟨r, hr, ha⟩ | hn
    · rw [mapType_of_mem hr ha] at h
      exact ⟨r, hr, ha, h⟩
    · rw [mapType_of_not_asks hn] at h
      exact absurd h.symm hc
  · rintro ⟨r, hr, ha, h⟩
    rw [mapType_of_mem hr ha, h]

theorem category_eq_any_iff :
    (mapType name q a).category = .any ↔ ∀ r ∈ rules, ¬ r.pattern.Asks name := by
  constructor
  · intro h r hr ha
    rw [mapType_of_mem hr ha] at h
    exact category_ne_any hr h
  · intro h
    rw [mapType_of_not_asks h]

theorem eq_of_asks (hr : r ∈ rules) (hs : s ∈ rules) (ha : r.pattern.Asks name)
    (hb : s.pattern.Asks name) : r = s :=
  Option.some.inj
    ((find?_rules_eq_some_iff.mpr ⟨hr, ha⟩).symm.trans
      (find?_rules_eq_some_iff.mpr ⟨hs, hb⟩))

theorem category_eq_of_asks (hr : r ∈ rules) (ha : r.pattern.Asks name) :
    (mapType name q a).category = r.category := by
  rw [mapType_of_mem hr ha]

theorem category_independent (name : String) (q q' : Option String) (a a' : Bool) :
    (mapType name q' a').category = (mapType name q a).category := by
  rcases asks_or name with ⟨r, hr, ha⟩ | hn
  · rw [category_eq_of_asks hr ha, category_eq_of_asks hr ha]
  · rw [mapType_of_not_asks hn, mapType_of_not_asks hn]

theorem category_append (h : (mapType name q a).category ≠ .any) :
    (mapType (name ++ more) q' a').category = (mapType name q a).category := by
  rcases asks_or name with ⟨r, hr, ha⟩ | hn
  · rw [category_eq_of_asks hr ha, category_eq_of_asks hr (ha.append more)]
  · rw [mapType_of_not_asks hn] at h
    exact absurd rfl h

/-! Comments. -/

/-- The name that a date is noted by. -/
def shownName (name : String) : Option String → String
  | some qualified => if Text.isBlankText qualified then name else qualified
  | none => name

theorem getD_nonBlank? : (q.bind Text.nonBlank?).getD name = shownName name q := by
  cases q with
  | none => rfl
  | some qualified =>
    rw [Option.bind_some, Text.nonBlank?, shownName]
    split <;> rfl

theorem shownName_ne_empty (h : name ≠ "") : shownName name q ≠ "" := by
  cases q with
  | none => exact h
  | some qualified =>
    rw [shownName]
    split
    · exact h
    · rename_i hb
      rintro rfl
      exact hb rfl

theorem ne_empty_of_asks (hr : r ∈ rules) (ha : r.pattern.Asks name) : name ≠ "" := by
  have hall : ∀ r ∈ rules, ∀ ks ∈ r.pattern.keywords, ks ≠ [] := by decide
  rintro rfl
  obtain ⟨ks, hks, hp⟩ := ha.exists_keyword
  exact hall r hr ks hks (List.prefix_nil.mp hp)

theorem text_of_counted (name : String) (q : Option String) :
    Note.simpleName.text name q false = name := by
  rw [Note.text]
  exact String.append_empty

theorem text_of_dated (name : String) (q : Option String) :
    Note.qualifiedName.text name q false = shownName name q := by
  rw [← getD_nonBlank?, Note.text]
  exact String.append_empty

theorem text_bracketed {note : Note} (h : note ≠ .nothing) :
    note.text name q true = note.text name q false ++ "[]" := by
  cases note with
  | nothing => exact absurd rfl h
  | qualifiedName => rw [text_of_dated, ← getD_nonBlank?]; rfl
  | simpleName => rw [text_of_counted]; rfl

theorem text_ne_empty {note : Note} (hn : name ≠ "") (h : note ≠ .nothing) :
    note.text name q a ≠ "" := by
  have hf : note.text name q false ≠ "" := by
    cases note with
    | nothing => exact absurd rfl h
    | qualifiedName => rw [text_of_dated]; exact shownName_ne_empty hn
    | simpleName => rw [text_of_counted]; exact hn
  cases a with
  | false => exact hf
  | true =>
    rw [text_bracketed h]
    intro he
    exact hf (String.append_eq_empty_iff.mp he).1

def dateRule : Rule := ⟨.begins "Date", .string, .qualifiedName⟩

def numberRule : Rule :=
  ⟨.beginsInAnyCase ["byte", "short", "int", "long", "float", "double"], .number, .simpleName⟩

theorem dateRule_mem : dateRule ∈ rules := by simp [rules, dateRule]

theorem eq_numberRule (hr : r ∈ rules) (hc : r.category = .number) : r = numberRule := by
  simp only [rules, List.mem_cons, List.not_mem_nil, or_false] at hr
  rcases hr with rfl | rfl | rfl | rfl
  · cases hc
  · cases hc
  · cases hc
  · rfl

theorem note_eq_nothing_or (hr : r ∈ rules) :
    r.note = .nothing ∨ r = dateRule ∨ r = numberRule := by
  simp only [rules, List.mem_cons, List.not_mem_nil, or_false] at hr
  rcases hr with rfl | rfl | rfl | rfl
  · exact Or.inl rfl
  · exact Or.inr (Or.inl rfl)
  · exact Or.inl rfl
  · exact Or.inr (Or.inr rfl)

/-- The rules that note something are those of the dates and of the numbers. -/
theorem note_ne_nothing_iff (hr : r ∈ rules) (ha : r.pattern.Asks name) :
    r.note ≠ .nothing ↔ "Date".toList <+: name.toList ∨ r.category = .number := by
  constructor
  · intro hn
    rcases note_eq_nothing_or hr with h | rfl | rfl
    · exact absurd h hn
    · exact Or.inl ha
    · exact Or.inr rfl
  · rintro (hd | hc)
    · rw [eq_of_asks hr dateRule_mem ha hd]
      exact Note.noConfusion
    · rw [eq_numberRule hr hc]
      exact Note.noConfusion

theorem comment_of_date (h : "Date".toList <+: name.toList) :
    (mapType name q false).comment = shownName name q := by
  rw [mapType_of_mem dateRule_mem h]
  exact text_of_dated name q

theorem comment_of_number (h : (mapType name q a).category = .number) :
    (mapType name q false).comment = name := by
  obtain ⟨r, hr, ha, hc⟩ := (category_eq_iff Category.noConfusion).mp h
  obtain rfl := eq_numberRule hr hc
  rw [mapType_of_mem hr ha]
  exact text_of_counted name q

theorem comment_of_array (h : (mapType name q a).comment ≠ "") :
    (mapType name q true).comment = (mapType name q false).comment ++ "[]" := by
  rcases asks_or name with ⟨r, hr, ha⟩ | hn
  · rw [mapType_of_mem hr ha] at h
    have hnote : r.note ≠ .nothing := by
      intro he
      refine h ?_
      change r.note.text name q a = ""
      rw [he]
      rfl
    rw [mapType_of_mem hr ha, mapType_of_mem hr ha]
    exact text_bracketed hnote
  · rw [mapType_of_not_asks hn] at h
    exact absurd rfl h

theorem comment_eq_empty_iff :
    (mapType name q a).comment = "" ↔ ¬ "Date".toList <+: name.toList ∧
      (mapType name q a).category ≠ .number := by
  rcases asks_or name with ⟨r, hr, ha⟩ | hn
  · rw [mapType_of_mem hr ha, ← not_or, ← note_ne_nothing_iff hr ha, not_not]
    refine ⟨fun he => ?_, fun he => ?_⟩
    · by_contra hn
      exact text_ne_empty (ne_empty_of_asks hr ha) hn he
    · change r.note.text name q a = ""
      rw [he]
      rfl
  · rw [mapType_of_not_asks hn]
    exact iff_of_true rfl ⟨hn dateRule dateRule_mem, Category.noConfusion⟩

end TypeMapping

theorem isArray_mapType (name : String) (q : Option String) (a : Bool) :
    (mapType name q a).isArray = a := by
  rcases asks_or name with ⟨r, hr, ha⟩ | hn
  · rw [mapType_of_mem hr ha]
  · rw [mapType_of_not_asks hn]

theorem targetType_of_array (name : String) (q q' : Option String) :
    (mapType name q' true).targetType = "Array<" ++ (mapType name q false).targetType ++ ">" := by
  rw [MappedType.targetType, MappedType.targetType, isArray_mapType, isArray_mapType,
    category_independent name q q' false true]
  rfl

/-- What a name is mapped to, read off its first characters. The qualified names and the array flags
are free, so that what does not depend on them says so. -/
structure MapsByBeginning (name : String) (q q' : Option String) (a a' : Bool) : Prop where
  string : (mapType name q a).category = .string ↔ "String".toList <+: name.toList ∨
    "Date".toList <+: name.toList
  boolean : (mapType name q a).category = .boolean ↔ BeginsLike "boolean" name
  number : (mapType name q a).category = .number ↔
    ∃ text ∈ ["byte", "short", "int", "long", "float", "double"], BeginsLike text name
  other : (mapType name q a).category = .any ↔
    ¬ ("String".toList <+: name.toList ∨ "Date".toList <+: name.toList) ∧
      ¬ BeginsLike "boolean" name ∧
      ¬ ∃ text ∈ ["byte", "short", "int", "long", "float", "double"], BeginsLike text name
  independent : (mapType name q' a').category = (mapType name q a).category
  alone : rules.countP (·.pattern.accepts name) ≤ 1
  reordered : ∀ table, table.Perm rules → mapBy table name q a = mapType name q a
  longer : ∀ more, (mapType name q a).category ≠ .any →
    (mapType (name ++ more) q' a').category = (mapType name q a).category
  wrapped : (mapType name q' true).targetType = "Array<" ++ (mapType name q false).targetType ++ ">"
  silent : (mapType name q a).comment = "" ↔
    ¬ "Date".toList <+: name.toList ∧ (mapType name q a).category ≠ .number
  dated : "Date".toList <+: name.toList → (mapType name q false).comment = shownName name q
  counted : (mapType name q a).category = .number → (mapType name q false).comment = name
  bracketed : (mapType name q a).comment ≠ "" →
    (mapType name q true).comment = (mapType name q false).comment ++ "[]"

/-- Although the name is lower-cased as a whole by the rules of Unicode, it is told by its first
characters, with both cases of the letters of ASCII and no others. -/
theorem mapType_by_beginning (name : String) (q q' : Option String) (a a' : Bool) :
    MapsByBeginning name q q' a a' where
  string := by
    rw [category_eq_iff Category.noConfusion]
    simp [rules, Pattern.Asks]
  boolean := by
    rw [category_eq_iff Category.noConfusion]
    simp [rules, Pattern.Asks]
  number := by
    rw [category_eq_iff Category.noConfusion]
    simp [rules, Pattern.Asks]
  other := by
    rw [category_eq_any_iff, not_or]
    simp [rules, Pattern.Asks, and_assoc]
  independent := category_independent name q q' a a'
  alone := countP_accepts_le_one name
  reordered := fun _ hp => mapBy_of_perm hp
  longer := fun _ h => category_append h
  wrapped := targetType_of_array name q q'
  silent := comment_eq_empty_iff
  dated := comment_of_date
  counted := comment_of_number
  bracketed := comment_of_array

example : (mapType "INTeger" none true).targetType = "Array<number>" ∧
    mapType "\u0130nt" (some "x.\u0130nt") true = ⟨.any, true, ""⟩ := by decide +kernel

end ClassExport
