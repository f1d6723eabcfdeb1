import ClassExport.Path

/-! Paths as they are made of parts, and taken apart again. -/
namespace ClassExport

theorem Text.pieces_eq_splitOn (sep : Char) (cs : List Char) : pieces sep cs = cs.splitOn sep := by
  induction cs with
  | nil => rfl
  | cons c cs ih =>
    rw [pieces, List.splitOn_cons_eq_if_modifyHead, ih]
    by_cases h : c = sep
    · simp [h]
    · have hb : (c == sep) = false := by simpa using h
      have hn := List.splitOn_ne_nil sep cs
      match hs : cs.splitOn sep with
      | [] => exact (hn hs).elim
      | _ :: _ => simp [h]

theorem Text.notMem_of_mem_pieces {sep : Char} {cs piece : List Char}
    (h : piece ∈ pieces sep cs) : sep ∉ piece := by
  induction cs generalizing piece with
  | nil => simp_all [pieces]
  | cons c cs ih =>
    rw [pieces] at h
    split at h
    · obtain rfl | h := List.mem_cons.mp h
      · exact List.not_mem_nil
      · exact ih h
    · rename_i hc
      split at h
      · rw [List.mem_singleton.mp h]
        simpa using Ne.symm hc
      · rename_i p ps hp
        obtain rfl | h := List.mem_cons.mp h
        · simpa [Ne.symm hc] using ih (hp ▸ List.mem_cons_self)
        · exact ih (hp ▸ List.mem_cons_of_mem _ h)

theorem Text.pieces_append_cons (sep : Char) (xs ys : List Char) :
    pieces sep (xs ++ sep :: ys) = pieces sep xs ++ pieces sep ys := by
  induction xs with
  | nil => simp [pieces]
  | cons x xs ih =>
    rw [List.cons_append, pieces, pieces, ih]
    by_cases hx : x = sep
    · rw [if_pos hx, if_pos hx, List.cons_append]
    · rw [if_neg hx, if_neg hx]
      cases hp : pieces sep xs with
      | nil => exact (List.splitOn_ne_nil sep xs (pieces_eq_splitOn sep xs ▸ hp)).elim
      | cons p ps => rfl

theorem Text.mem_of_mem_pieces {sep d : Char} {cs piece : List Char} (hs : piece ∈ pieces sep cs)
    (hd : d ∈ piece) :
    d ∈ cs := by
  induction cs generalizing piece with
  | nil =>
    rw [List.mem_singleton.mp hs] at hd
    cases hd
  | cons c cs ih =>
    rw [pieces] at hs
    split at hs
    · rcases List.mem_cons.mp hs with rfl | hs
      · cases hd
      · exact List.mem_cons_of_mem _ (ih hs hd)
    · split at hs
      · rw [List.mem_singleton.mp hs, List.mem_singleton] at hd
        exact hd ▸ List.mem_cons_self
      · rename_i p ps hp
        rw [hp] at ih
        rcases List.mem_cons.mp hs with rfl | hs
        · exact List.mem_cons.mpr ((List.mem_cons.mp hd).imp_right (ih List.mem_cons_self))
        · exact List.mem_cons_of_mem _ (ih (List.mem_cons_of_mem _ hs) hd)

theorem Text.begins_of_head?_pieces {sep : Char} {cs : List Char}
    (h : (pieces sep cs).head? = some []) :
    cs = [] ∨ cs.head? = some sep := by
  match cs with
  | [] => exact Or.inl rfl
  | c :: cs =>
    rw [pieces] at h
    split at h
    · rename_i hc
      exact Or.inr (by rw [hc]; rfl)
    · split at h <;> simp at h

namespace Path

variable {absolute : Bool} {l xs : List String} {s : String} {p : Path}

/-- Parts that can be read off the text again. -/
structure Spelled (absolute : Bool) (l : List String) : Prop where
  plain : ∀ s ∈ l, '/' ∉ s.toList
  begins : absolute = false → l.head? ≠ some ""

/-- A part that adds no component where it stands; `rest` is what stands before it, backwards. -/
def isIdle (absolute : Bool) (s : String) (rest : List String) : Bool :=
  s = "" || (s = "." && (absolute || !rest.isEmpty))

theorem isIdle_iff : isIdle absolute s xs = true ↔ s = "" ∨ s = "." ∧
    (absolute = true ∨ xs ≠ []) := by
  simp [isIdle]

theorem dropIdle_cons :
    dropIdle absolute (s :: xs) = if isIdle absolute s xs then dropIdle absolute xs else s :: xs :=
  rfl

theorem dropIdle_suffix (absolute : Bool) (xs : List String) : dropIdle absolute xs <:+ xs := by
  induction xs with
  | nil => exact List.suffix_rfl
  | cons s xs ih =>
    rw [dropIdle_cons]
    split
    · exact ih.trans (List.suffix_cons s xs)
    · exact List.suffix_rfl

theorem ofParts_toList : (ofParts absolute l).text.toList =
    (if absolute then ['/'] else []) ++ ['/'].intercalate (l.map String.toList) := by
  cases absolute <;> simp [ofParts]

theorem mem_intercalate_slash {c : Char} {ls : List (List Char)} (hc : c ≠ '/') :
    c ∈ ['/'].intercalate ls ↔ ∃ l ∈ ls, c ∈ l := by
  induction ls with
  | nil => simp
  | cons l ls ih =>
    cases ls with
    | nil => simp
    | cons l' ls =>
      rw [List.intercalate_cons_cons, List.mem_append, List.mem_append, ih]
      simp [hc]

theorem head?_intercalate (h : Spelled false l) :
    (['/'].intercalate (l.map String.toList)).head? ≠ some '/' := by
  match l, h with
  | [], _ => simp
  | s :: l, h =>
    match hs : s.toList with
    | [] =>
      have he : s = "" := String.toList_injective (by simpa using hs)
      exact (h.begins rfl (by simp [he])).elim
    | c :: cs =>
      have hc : c ≠ '/' := fun he => h.plain s List.mem_cons_self (by simp [hs, he])
      cases l <;> simp [hs, hc]

theorem isAbsolute_ofParts (h : Spelled absolute l) :
    (ofParts absolute l).isAbsolute = absolute := by
  rw [isAbsolute, ofParts_toList]
  cases absolute with
  | true => rfl
  | false => simpa using head?_intercalate h

theorem parts_ofParts (h : Spelled absolute l) (hl : l ≠ []) :
    (ofParts absolute l).parts = l := by
  have hi : (['/'].intercalate (l.map String.toList)).splitOn '/' = l.map String.toList := by
    refine List.splitOn_intercalate '/' ?_ (by simpa using hl)
    simpa using h.plain
  rw [parts, isAbsolute_ofParts h, ofParts_toList]
  cases absolute <;> simp [Text.pieces_eq_splitOn, hi, Function.comp_def]

theorem ofParts_parts (p : Path) : ofParts p.isAbsolute p.parts = p := by
  have hc : (p.parts.map String.toList) =
      (if p.isAbsolute then p.text.toList.tail else p.text.toList).splitOn '/' := by
    simp [parts, Text.pieces_eq_splitOn, Function.comp_def]
  have ht : (ofParts p.isAbsolute p.parts).text = p.text := by
    apply String.toList_injective
    rw [ofParts_toList, hc, List.intercalate_splitOn]
    match ha : p.isAbsolute with
    | false => rfl
    | true =>
      have hh : p.text.toList.head? = some '/' := by simpa [isAbsolute] using ha
      obtain ⟨cs, hcs⟩ := List.head?_eq_some_iff.mp hh
      simp [hcs]
  cases p
  simpa [ofParts] using ht

theorem noSlash_of_mem_parts (hs : s ∈ p.parts) : '/' ∉ s.toList := by
  obtain ⟨piece, hm, rfl⟩ := List.mem_map.mp hs
  rw [String.toList_ofList]
  exact Text.notMem_of_mem_pieces hm

theorem spelled_parts (hp : p.text ≠ "") : Spelled p.isAbsolute p.parts := by
  refine ⟨fun s hs => noSlash_of_mem_parts hs, fun ha hh => ?_⟩
  · simp only [parts, ha, List.head?_map, Option.map_eq_some_iff] at hh
    obtain ⟨piece, hm, he⟩ := hh
    have hn : piece = [] := by simpa using congrArg String.toList he
    obtain ht | ht := Text.begins_of_head?_pieces (hn ▸ hm)
    · exact hp (String.toList_injective (by simpa using ht))
    · simp only [Bool.false_eq_true, if_false] at ht
      simp [isAbsolute, ht] at ha

theorem Spelled.of_append {ys : List String} (h : Spelled absolute (l ++ ys)) :
    Spelled absolute l := by
  refine ⟨fun s hs => h.plain s (List.mem_append_left _ hs), fun ha hh => h.begins ha ?_⟩
  rw [List.head?_append, hh]
  rfl

/-- There are steps enough for all ancestors. -/
theorem length_dropIdle_lt (h : Spelled absolute xs.reverse) :
    (dropIdle absolute xs).length <
      (ofParts absolute (dropIdle absolute xs).reverse).parts.length + 1 := by
  by_cases hn : dropIdle absolute xs = []
  · simp [hn]
  · obtain ⟨ys, hy⟩ := List.reverse_prefix.mpr (dropIdle_suffix absolute xs)
    rw [parts_ofParts (hy ▸ h).of_append (by simpa using hn), List.length_reverse]
    exact Nat.lt_succ_self _

theorem parent?_eq (h : Spelled absolute (xs.reverse ++ [s])) (hi : ¬ isIdle absolute s xs) :
    (ofParts absolute (xs.reverse ++ [s])).parent? =
      some (ofParts absolute (dropIdle absolute xs).reverse) := by
  rw [parent?, isAbsolute_ofParts h, parts_ofParts h (by simp), List.reverse_append,
    List.reverse_reverse]
  rw [List.reverse_singleton, List.singleton_append, dropIdle_cons, if_neg hi]

theorem ancestorsWithin_succ (n : Nat) (h : Spelled absolute (xs.reverse ++ [s]))
    (hi : ¬ isIdle absolute s xs) :
    ancestorsWithin (n + 1) (ofParts absolute (xs.reverse ++ [s])) =
      ofParts absolute (xs.reverse ++ [s]) ::
        ancestorsWithin n (ofParts absolute (dropIdle absolute xs).reverse) := by
  rw [ancestorsWithin, parent?_eq h hi]

end Path
end ClassExport
