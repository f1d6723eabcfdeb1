import ClassExport.Proofs.Words
import ClassExport.Text.SnakeCase
import Mathlib.Data.List.Chain

/-!
What snake case makes of names in lower case: it joins words by underscores, and finds them between
letters and digits as well.
-/
namespace ClassExport.Text

variable {n : String} {c d : Char} {cs : List Char} {after : Option Glyph}

/-- A letter or number that is no capital and no mark of the character before it. -/
structure LowerLetter (c : Char) : Prop where
  alphanumeric : isAlphanumeric c
  lowered : ¬ isLowered c
  alone : ¬ isExtending c

def IsHyphen (c : Char) : Prop := c = '-' ∨ c = '_'

instance : Decidable (LowerLetter c) :=
  decidable_of_iff (isAlphanumeric c ∧ ¬ isLowered c ∧ ¬ isExtending c)
    ⟨fun ⟨ha, hl, he⟩ => ⟨ha, hl, he⟩, fun ⟨ha, hl, he⟩ => ⟨ha, hl, he⟩⟩

instance : Decidable (IsHyphen c) := inferInstanceAs (Decidable (_ ∨ _))

/-- Letters and numbers in lower case, hyphens and underscores. -/
structure LowerName (n : String) : Prop where
  nonempty : n ≠ ""
  chars : ∀ c ∈ n.toList, IsHyphen c ∨ LowerLetter c

instance : Decidable (LowerName n) :=
  decidable_of_iff (n ≠ "" ∧ n.toList.all fun c => IsHyphen c ∨ LowerLetter c)
    ⟨fun ⟨hn, hc⟩ => ⟨hn, by simpa using hc⟩, fun ⟨hn, hc⟩ =>
      ⟨hn, by simpa using hc⟩⟩

/-- A letter that has a capital, and a digit of ASCII beside it. -/
def Meets (c d : Char) : Prop := isRaised c ∧ d.isDigit ∨ c.isDigit ∧ isRaised d

instance : Decidable (Meets c d) := inferInstanceAs (Decidable (_ ∨ _))

/-- No digit stands beside a letter. -/
def Unsplit (n : String) : Prop := n.toList.IsChain fun c d => ¬ Meets c d

instance : Decidable (Unsplit n) := inferInstanceAs (Decidable (List.IsChain _ _))

/-- The name with underscores in the place of hyphens. -/
def underscored (n : String) : String := n.map fun c => if c = '-' then '_' else c

/-! Lower case. -/

theorem lowerChar_of_not_isLowered (h : ¬ isLowered c) : lowerChar c = [c] := by
  rwa [isLowered, bne_iff_ne, ne_eq, not_not] at h

theorem lowerFrom_eq_self (h : ∀ c ∈ cs, ¬ isLowered c) (before : List Char) :
    lowerFrom before cs = cs := by
  induction cs generalizing before with
  | nil => rfl
  | cons c cs ih =>
    rw [List.forall_mem_cons] at h
    have hs : c ≠ 'Σ' := by
      rintro rfl
      exact h.1 (by decide +kernel)
    rw [lowerFrom, decide_eq_false hs, ih h.2, lowerChar_of_not_isLowered h.1]
    rfl

theorem not_isLowered_of_isHyphen (h : IsHyphen c) : ¬ isLowered c := by
  rcases h with rfl | rfl <;> decide

theorem not_isLowered (h : IsHyphen c ∨ LowerLetter c) : ¬ isLowered c :=
  h.elim not_isLowered_of_isHyphen (·.lowered)

/-! Glyphs. -/

theorem not_isAlphanumeric_joiner : ¬ isAlphanumeric '\u200d' := by
  have hall : ∀ ranges ∈ [identifierStartRanges, alphanumericExtraRanges],
      (ranges.toList.any fun r => decide (r.1 ≤ 0x200d) && decide (0x200d ≤ r.2)) = false := by
    decide +kernel
  have hnone : ∀ ranges ∈ [identifierStartRanges, alphanumericExtraRanges],
      inRanges ranges 0x200d = false := by
    intro ranges hr
    rw [inRanges, ← Array.any_toList]
    exact hall ranges hr
  have hcode : ('\u200d').toNat = 0x200d := rfl
  rw [isAlphanumeric, hcode, if_neg (by decide), hnone _ (by simp), hnone _ (by simp)]
  exact Bool.false_ne_true

theorem clusters_eq_map (h : ∀ c ∈ cs, IsHyphen c ∨ LowerLetter c) :
    clusters cs = cs.map fun c => [c] := by
  induction cs with
  | nil => rfl
  | cons c cs ih =>
    rw [List.forall_mem_cons] at h
    rw [clusters, ih h.2]
    cases cs with
    | nil => rfl
    | cons d cs =>
      have hd : ¬ (isExtending d || d = '\u200d') := by
        rcases h.2 d List.mem_cons_self with (rfl | rfl) | hd
        · decide
        · decide
        · have hjoin : d ≠ '\u200d' := by
            rintro rfl
            exact not_isAlphanumeric_joiner hd.alphanumeric
          simp [hd.alone, hjoin]
      rw [List.map_cons]
      dsimp only
      rw [if_neg hd]
      rfl

theorem not_isRaised_of_isDigit (h : c.isDigit) : ¬ isRaised c := by
  obtain ⟨-, h9⟩ := Char.isDigit_iff_toNat.mp h
  have hn : '9'.toNat = 57 := rfl
  have ha : 'a'.toNat = 97 := rfl
  rw [isRaised, if_pos (by omega)]
  intro hl
  have hle : 'a'.toNat ≤ c.toNat :=
    UInt32.le_iff_toNat_le.mp (of_decide_eq_true (Bool.and_eq_true_iff.mp hl).1)
  omega

theorem glyphOf_hyphen (h : IsHyphen c) : glyphOf [c] = .separator := by
  rcases h with rfl | rfl <;> rfl

theorem glyphOf_letter (h : LowerLetter c) :
    glyphOf [c] = if isRaised c then .lower else if c.isDigit then .digit else .other := by
  have hne : ∀ d ∈ ['_', '-', ' '], c ≠ d := by
    rintro d hd rfl
    have hall : ['_', '-', ' '].all (!isAlphanumeric ·) := by decide
    have hc := List.all_eq_true.mp hall c hd
    rw [h.alphanumeric] at hc
    cases hc
  have hl := h.lowered
  rw [glyphOf.eq_def]
  split
  · rename_i he
    exact (hne _ (by simp) (List.cons.inj he).1).elim
  · rename_i he
    exact (hne _ (by simp) (List.cons.inj he).1).elim
  · rename_i he
    exact (hne _ (by simp) (List.cons.inj he).1).elim
  · simp only [List.any_cons, List.any_nil, Bool.or_false, List.all_cons, List.all_nil,
      Bool.and_true, hl, Bool.false_and, Bool.false_eq_true, Bool.not_false, if_false]

theorem not_meets_of_isHyphen (h : IsHyphen c ∨ IsHyphen d) : ¬ Meets c d := by
  have hhyphen : ∀ e, IsHyphen e → ¬ isRaised e ∧ ¬ e.isDigit := by
    rintro e (rfl | rfl) <;> decide
  rintro (⟨hc, hd⟩ | ⟨hc, hd⟩)
  · exact h.elim (fun h => (hhyphen c h).1 hc) fun h => (hhyphen d h).2 hd
  · exact h.elim (fun h => (hhyphen c h).2 hc) fun h => (hhyphen d h).1 hd

/-- Among lower-case letters words end only between letters and digits. -/
theorem endsWord_iff (hc : LowerLetter c) (hd : IsHyphen d ∨ LowerLetter d) :
    endsWord after (glyphOf [c]) (glyphOf [d]) ↔ Meets c d := by
  have hdigit : ∀ e : Char, e.isDigit → isRaised e = false :=
    fun e he => Bool.eq_false_iff.mpr (not_isRaised_of_isDigit he)
  rcases hd with hd | hd
  · rw [glyphOf_hyphen hd]
    refine iff_of_false ?_ (not_meets_of_isHyphen (Or.inr hd))
    cases glyphOf [c] <;> simp [endsWord]
  · rw [glyphOf_letter hc, glyphOf_letter hd, Meets]
    by_cases hrc : isRaised c <;> by_cases hrd : isRaised d <;> by_cases hdc : c.isDigit <;>
      by_cases hdd : d.isDigit <;>
      simp_all [endsWord]

/-! Words. -/

/-- What comes between a character and those after it. -/
def gap (c : Char) : List Char → List Char
  | d :: _ => if Meets c d then ['_'] else []
  | [] => []

/-- A lower-case name in snake case: underscores in the place of hyphens, and between letters and
digits. -/
def spelled : List Char → List Char
  | [] => []
  | c :: cs => (if c = '-' then '_' else c) :: (gap c cs ++ spelled cs)

theorem spelled_hyphen (h : IsHyphen c) (cs : List Char) :
    spelled (c :: cs) = '_' :: spelled cs := by
  have hgap : gap c cs = [] := by
    cases cs with
    | nil => rfl
    | cons d cs => exact if_neg (not_meets_of_isHyphen (Or.inl h))
  rw [spelled, hgap]
  rcases h with rfl | rfl <;> rfl

theorem ne_hyphen (h : LowerLetter c) : c ≠ '-' := by
  rintro rfl
  exact absurd h.alphanumeric (by decide)

theorem wordsFrom_separator {cluster : List Char} (h : glyphOf cluster = .separator)
    (word clusters : List (List Char)) :
    wordsFrom word (cluster :: clusters) = word.reverse :: wordsFrom [] clusters := by
  rw [wordsFrom.eq_def]
  exact if_pos h

theorem wordsFrom_last {cluster : List Char} (h : glyphOf cluster ≠ .separator)
    (word : List (List Char)) :
    wordsFrom word [cluster] = [(cluster :: word).reverse] := by
  rw [wordsFrom.eq_def]
  exact if_neg h

theorem wordsFrom_onward {cluster next : List Char} (h : glyphOf cluster ≠ .separator)
    (word clusters : List (List Char)) : wordsFrom word (cluster :: next :: clusters) =
      if endsWord (clusters.head?.map glyphOf) (glyphOf cluster) (glyphOf next) then
        (cluster :: word).reverse :: wordsFrom [] (next :: clusters)
      else wordsFrom (cluster :: word) (next :: clusters) := by
  rw [wordsFrom.eq_def]
  exact if_neg h

theorem wordsFrom_ne_nil (word clusters : List (List Char)) : wordsFrom word clusters ≠ [] := by
  fun_induction wordsFrom word clusters <;> simp_all

/-- The words that follow, joined: the current one goes on with the first of them. -/
theorem intercalate_wordsFrom (word : List (List Char))
    (h : ∀ c ∈ cs, IsHyphen c ∨ LowerLetter c) :
    ['_'].intercalate ((wordsFrom word (cs.map fun c => [c])).map List.flatten) =
      word.reverse.flatten ++ spelled cs := by
  -- for every word that was begun, as a letter goes on with it and a hyphen ends it
  induction cs generalizing word with
  | nil => simp [wordsFrom, spelled]
  | cons c cs ih =>
    rw [List.forall_mem_cons] at h
    have hnew : ∀ w,
      ['_'].intercalate ((w :: wordsFrom [] (cs.map fun c => [c])).map List.flatten) =
        w.flatten ++ '_' :: spelled cs := by
      intro w
      rw [List.map_cons, List.intercalate_cons_of_ne_nil (by simpa using wordsFrom_ne_nil _ _),
        ih [] h.2]
      simp
    rcases h.1 with hc | hc
    · rw [List.map_cons, wordsFrom_separator (glyphOf_hyphen hc), hnew, spelled_hyphen hc]
    · have hne : glyphOf [c] ≠ .separator := by
        rw [glyphOf_letter hc]
        split
        · exact nofun
        · split <;> exact nofun
      rw [List.map_cons, spelled, if_neg (ne_hyphen hc)]
      cases cs with
      | nil =>
        rw [List.map_nil, wordsFrom_last hne]
        simp [spelled, gap]
      | cons d cs =>
        have hd := h.2 d List.mem_cons_self
        have hmap : (d :: cs).map (fun c => [c]) = [d] :: cs.map fun c => [c] := rfl
        rw [hmap, wordsFrom_onward hne, ← hmap]
        rw [gap]
        by_cases hm : Meets c d
        · rw [if_pos ((endsWord_iff hc hd).mpr hm), hnew, if_pos hm]
          simp
        · rw [if_neg (mt (endsWord_iff hc hd).mp hm), ih ([c] :: word) h.2, if_neg hm]
          simp

theorem mem_of_mem_wordsFrom {word clusters w : List (List Char)} {cluster : List Char}
    (hw : w ∈ wordsFrom word clusters) (hc : cluster ∈ w) :
    cluster ∈ word ∨ cluster ∈ clusters := by
  induction clusters generalizing word with
  | nil =>
    obtain rfl := List.mem_singleton.mp hw
    exact Or.inl (List.mem_reverse.mp hc)
  | cons first rest ih =>
    have hlast : w = (first :: word).reverse → cluster ∈ word ∨
        cluster ∈ first :: rest := by
      rintro rfl
      rcases List.mem_cons.mp (List.mem_reverse.mp hc) with rfl | hm
      · exact Or.inr List.mem_cons_self
      · exact Or.inl hm
    have hlater : w ∈ wordsFrom [] rest → cluster ∈ word ∨ cluster ∈ first :: rest := by
      intro hw
      rcases ih hw with hm | hm
      · cases hm
      · exact Or.inr (List.mem_cons_of_mem first hm)
    by_cases hs : glyphOf first = .separator
    · rw [wordsFrom_separator hs] at hw
      rcases List.mem_cons.mp hw with rfl | hw
      · exact Or.inl (List.mem_reverse.mp hc)
      · exact hlater hw
    · cases rest with
      | nil =>
        rw [wordsFrom_last hs] at hw
        exact hlast (List.mem_singleton.mp hw)
      | cons next rest =>
        rw [wordsFrom_onward hs] at hw
        split at hw
        · rcases List.mem_cons.mp hw with hw | hw
          · exact hlast hw
          · exact hlater hw
        · rcases ih hw with hm | hm
          · rcases List.mem_cons.mp hm with rfl | hm
            · exact Or.inr List.mem_cons_self
            · exact Or.inl hm
          · exact Or.inr (List.mem_cons_of_mem first hm)

theorem toList_snakeCase (h : ∀ c ∈ n.toList, IsHyphen c ∨ LowerLetter c) :
    (snakeCase n).toList = spelled n.toList := by
  have hlower : ∀ w ∈ wordsFrom [] (n.toList.map fun c => [c]),
      lowerChars w.flatten = w.flatten := by
    intro w hw
    refine lowerFrom_eq_self (fun c hc => ?_) []
    obtain ⟨cluster, hcluster, hc⟩ := List.mem_flatten.mp hc
    rcases mem_of_mem_wordsFrom hw hcluster with hm | hm
    · cases hm
    · obtain ⟨d, hd, rfl⟩ := List.mem_map.mp hm
      rw [List.mem_singleton.mp hc]
      exact not_isLowered (h d hd)
  rw [snakeCase, String.toList_intercalate, clusters_eq_map h, List.map_map]
  have hwords : (wordsFrom [] (n.toList.map fun c => [c])).map
      (String.toList ∘ fun word => String.ofList (lowerChars word.flatten)) =
        (wordsFrom [] (n.toList.map fun c => [c])).map List.flatten := by
    refine List.map_congr_left fun w hw => ?_
    rw [Function.comp, String.toList_ofList, hlower w hw]
  rw [hwords]
  exact (intercalate_wordsFrom [] h).trans (List.nil_append _)

/-! Where no word ends. -/

theorem length_le_spelled (cs : List Char) : cs.length ≤ (spelled cs).length := by
  induction cs with
  | nil => exact Nat.le_refl 0
  | cons c cs ih =>
    rw [spelled, List.length_cons, List.length_cons, List.length_append]
    omega

theorem spelled_eq_iff (cs : List Char) :
    spelled cs = cs.map (fun c => if c = '-' then '_' else c) ↔ cs.IsChain fun c d =>
      ¬ Meets c d := by
  induction cs with
  | nil => simp [spelled]
  | cons c cs ih =>
    rw [spelled, List.map_cons, List.cons_inj_right]
    cases cs with
    | nil => simp [spelled, gap]
    | cons d cs =>
      rw [List.isChain_cons_cons, gap]
      by_cases hm : Meets c d
      · rw [if_pos hm]
        refine iff_of_false (fun he => ?_) fun h => h.1 hm
        have hlen := congrArg List.length he
        have hle := length_le_spelled (d :: cs)
        rw [List.length_append, List.length_map, List.length_singleton] at hlen
        omega
      · rw [if_neg hm, List.nil_append, ih]
        exact (and_iff_right hm).symm

/-- The name of a crate is in snake case what its hyphens become alone, unless a digit stands beside
a letter. -/
theorem snakeCase_eq_iff (h : LowerName n) : snakeCase n = underscored n ↔ Unsplit n := by
  rw [← String.toList_inj, toList_snakeCase h.chars, underscored, String.toList_map,
    spelled_eq_iff, Unsplit]

theorem snakeCase_ne_empty (h : LowerName n) : snakeCase n ≠ "" := by
  intro he
  have hs := toList_snakeCase h.chars
  have hlen := length_le_spelled n.toList
  rw [← hs, he] at hlen
  have hn : n.toList ≠ [] := by simpa using h.nonempty
  exact hn (List.eq_nil_of_length_eq_zero (Nat.le_zero.mp hlen))

theorem segment_of_letter {d : Char} (h : IsHyphen d ∨ LowerLetter d) :
    (if d = '-' then '_' else d) ≠ ':' ∧ ¬ isBlank (if d = '-' then '_' else d) := by
  rcases h with (rfl | rfl) | hl
  · decide
  · decide
  · rw [if_neg (ne_hyphen hl)]
    refine ⟨?_, not_isBlank_of_isAlphanumeric hl.alphanumeric⟩
    rintro rfl
    exact absurd hl.alphanumeric (by decide)

theorem segment_underscored (h : LowerName n) : ClassName.Segment (underscored n) := by
  intro c hc
  rw [underscored, String.toList_map] at hc
  obtain ⟨d, hd, rfl⟩ := List.mem_map.mp hc
  exact segment_of_letter (h.chars d hd)

theorem segment_snakeCase (h : LowerName n) : ClassName.Segment (snakeCase n) := by
  have hall : ∀ cs : List Char, (∀ c ∈ cs, IsHyphen c ∨ LowerLetter c) →
      ∀ c ∈ spelled cs, c ≠ ':' ∧ ¬ isBlank c := by
    intro cs hcs
    induction cs with
    | nil => exact fun c hc => nomatch hc
    | cons d cs ih =>
      rw [List.forall_mem_cons] at hcs
      intro c hc
      rcases List.mem_cons.mp hc with rfl | hc
      · exact segment_of_letter hcs.1
      · rcases List.mem_append.mp hc with hc | hc
        · have hgap : c = '_' := by
            cases cs with
            | nil => cases hc
            | cons e cs =>
              rw [gap] at hc
              split at hc
              · exact List.mem_singleton.mp hc
              · cases hc
          rw [hgap]
          decide
        · exact ih hcs.2 c hc
  rw [ClassName.Segment, toList_snakeCase h.chars]
  exact hall n.toList h.chars

end ClassExport.Text
