import ClassExport.Environment
import Mathlib.Data.List.TakeDrop
import Mathlib.Data.List.TakeWhile

/-! References are read back as they are written, and a text is cut at its references. -/
namespace ClassExport

variable {cs : List Char} {r r' : Reference} {d : String}

namespace Text

theorem span_append {p : Char → Bool} {xs : List Char} {c : Char} (hx : ∀ x ∈ xs, p x = true)
    (hc : p c = false) :
    (xs ++ c :: cs).span p = (xs, c :: cs) := by
  rw [List.span_eq_takeWhile_dropWhile, List.takeWhile_append_of_pos hx,
    List.dropWhile_append_of_pos hx, List.takeWhile_cons_of_neg (by simp [hc]),
      List.dropWhile_cons_of_neg (by simp [hc]), List.append_nil]

theorem exists_span (p : Char → Bool) (cs : List Char) :
    ∃ xs ys, cs = xs ++ ys ∧ cs.span p = (xs, ys) ∧
    (∀ x ∈ xs, p x = true) ∧ ∀ y ∈ ys.head?, p y = false := by
  refine ⟨cs.takeWhile p, cs.dropWhile p, List.takeWhile_append_dropWhile.symm,
    List.span_eq_takeWhile_dropWhile p cs, fun x hx => List.mem_takeWhile_imp hx, fun y hy => ?_⟩
  have hn := List.head?_dropWhile_not p cs
  rw [Option.mem_def.mp hy] at hn
  simpa using hn

theorem eq_of_append_cons {c : Char} {xs ys s t : List Char} (hx : c ∉ xs) (hy : c ∉ ys)
    (h : xs ++ c :: s = ys ++ c :: t) : xs = ys := by
  rcases List.append_eq_append_iff.mp h with ⟨a, rfl, ha⟩ | ⟨a, rfl, ha⟩
  · cases a with
    | nil => exact (List.append_nil xs).symm
    | cons x a => exact (hy (by simp [(List.cons.inj ha).1])).elim
  · cases a with
    | nil => exact List.append_nil ys
    | cons x a => exact (hx (by simp [(List.cons.inj ha).1])).elim

end Text

namespace Reference

/-- A reference that can be read off the text again. -/
structure Legible (r : Reference) : Prop where
  named : r.name.toList ≠ []
  name : ∀ c ∈ r.name.toList, (c != '\x7d' && c != ':') = true
  default : ∀ d, r.default = some d → '\x7d' ∉ d.toList

theorem default?_append (hd : '\x7d' ∉ d.toList) (rest : List Char) :
    default? ('-' :: (d.toList ++ '\x7d' :: rest)) = some d := by
  have hp : ∀ c ∈ d.toList, (c != '\x7d') = true := by
    intro c hc
    simpa using ne_of_mem_of_not_mem hc hd
  rw [default?, Text.span_append hp rfl]
  exact congrArg some String.ofList_toList

theorem of_default? (h : default? cs = some d) :
    '\x7d' ∉ d.toList ∧ ∃ rest, cs = '-' :: (d.toList ++ '\x7d' :: rest) := by
  rw [default?.eq_def] at h
  split at h
  · rename_i cs
    obtain ⟨value, tail, rfl, hs, hv, ht⟩ := Text.exists_span (· != '\x7d') cs
    rw [hs] at h
    cases tail with
    | nil => cases h
    | cons c tail =>
      cases h
      have hc : c = '\x7d' := by simpa using ht c rfl
      rw [hc, String.toList_ofList]
      exact ⟨fun hm => by simpa using hv _ hm, tail, rfl⟩
  · cases h

theorem atHead?_written (h : r.Legible) (rest : List Char) :
    atHead? (r.written ++ rest) = some r := by
  obtain ⟨name, default⟩ := r
  obtain ⟨hn, hname, hd⟩ := h
  obtain ⟨c, cs, hcs⟩ := List.exists_cons_of_ne_nil hn
  dsimp only at hn hname hd hcs
  have hfold : name = String.ofList (c :: cs) := by rw [← hcs, String.ofList_toList]
  cases default with
  | none =>
    have hw : (⟨name, none⟩ : Reference).written ++
        rest = '$' :: '\x7b' :: (name.toList ++ '\x7d' :: rest) := by
      simp [written]
    rw [hw, atHead?, Text.span_append hname rfl, hcs, hfold]
    rfl
  | some d =>
    have hw : (⟨name, some d⟩ : Reference).written ++ rest =
        '$' :: '\x7b' :: (name.toList ++ ':' :: '-' :: (d.toList ++ '\x7d' :: rest)) := by
      simp [written]
    rw [hw, atHead?, Text.span_append hname rfl, hcs, hfold]
    change (default? _).map _ = _
    rw [default?_append (hd d rfl)]
    rfl

theorem of_atHead? (h : atHead? cs = some r) : r.Legible ∧ r.written <+: cs := by
  rw [atHead?.eq_def] at h
  split at h
  · rename_i cs
    obtain ⟨name, tail, rfl, hs, hn, -⟩ :=
      Text.exists_span (fun c => c != '\x7d' && c != ':') cs
    rw [hs] at h
    split at h
    · cases h
    · rename_i name' rest hne he
      cases he
      cases h
      refine ⟨⟨?_, ?_, nofun⟩, rest, ?_⟩
      · rw [String.toList_ofList]
        rintro rfl
        exact hne rfl
      · rwa [String.toList_ofList]
      · simp [written]
    · rename_i name' tail hne he
      cases he
      obtain ⟨d, hd, rfl⟩ := Option.map_eq_some_iff.mp h
      obtain ⟨hclosed, rest, rfl⟩ := of_default? hd
      refine ⟨⟨?_, ?_, ?_⟩, rest, ?_⟩
      · rw [String.toList_ofList]
        rintro rfl
        exact hne rfl
      · rwa [String.toList_ofList]
      · rintro _ ⟨⟩
        exact hclosed
      · simp [written]
    · cases h
  · cases h

theorem Legible.closed (h : r.Legible) :
    ∃ body, r.written = '$' :: body ++ ['\x7d'] ∧ '\x7d' ∉ '$' :: body := by
  obtain ⟨name, default⟩ := r
  obtain ⟨-, hname, hd⟩ := h
  have hn : '\x7d' ∉ name.toList := fun hm => by simpa using hname _ hm
  cases default with
  | none => exact ⟨'\x7b' :: name.toList, by simp [written], by simpa using hn⟩
  | some d =>
    refine ⟨'\x7b' :: name.toList ++ ':' :: '-' :: d.toList, by simp [written], ?_⟩
    simpa using ⟨hn, hd d rfl⟩

theorem Legible.written_ne_nil (h : r.Legible) : r.written ≠ [] := by
  obtain ⟨body, hw, -⟩ := h.closed
  simp [hw]

theorem eq_of_written_eq (h : r.Legible) (h' : r'.Legible) (he : r.written = r'.written) :
    r = r' := by
  have hr := atHead?_written h []
  rw [he, atHead?_written h' []] at hr
  exact (Option.some.inj hr).symm

/-- A reference that begins inside another one ends where that one ends. -/
theorem eq_of_overlap {a b d s : List Char} (h : r.Legible) (h' : r'.Legible)
    (hd : r'.written = a ++ d) (hne : d ≠ []) (ho : r.written ++ b = d ++ s) : r.written = d := by
  obtain ⟨body, hw, hb⟩ := h.closed
  obtain ⟨body', hw', hb'⟩ := h'.closed
  obtain ⟨init, last, rfl⟩ : ∃ init last, d = init ++ [last] := by
    simpa [hne] using List.eq_nil_or_concat d
  obtain ⟨hi, hl⟩ :=
    List.append_inj' (((List.append_assoc a init [last]).trans hd.symm).trans hw') rfl
  obtain rfl := List.head_eq_of_cons_eq hl
  have hinit : '\x7d' ∉ init := fun hm => hb' (hi ▸ List.mem_append_right a hm)
  rw [hw, List.append_assoc, List.append_assoc] at ho
  rw [hw, Text.eq_of_append_cons hb hinit ho]

end Reference

/-! A text cut into pieces. -/

/-- A character outside all references, or a reference. -/
inductive Piece where
  | plain (c : Char)
  | reference (r : Reference)
deriving DecidableEq

def Piece.reference? : Piece → Option Reference
  | .plain _ => none
  | .reference r => some r

/-- Skips `k` characters, then cuts a text at its references, from the left. -/
def Piece.allFrom : Nat → List Char → List Piece
  | _, [] => []
  | k + 1, _ :: cs => Piece.allFrom k cs
  | 0, c :: cs =>
    match Reference.atHead? (c :: cs) with
    | some r => .reference r :: Piece.allFrom (r.written.length - 1) cs
    | none => .plain c :: Piece.allFrom 0 cs

def Piece.all (text : String) : List Piece := Piece.allFrom 0 text.toList

/-- The pieces of a text: no reference begins at a character that stands for itself. -/
inductive Cut : List Char → List Piece → Prop where
  | nil : Cut [] []
  | plain {c : Char} {cs : List Char} {ps : List Piece}
      (hn : Reference.atHead? (c :: cs) = none) (h : Cut cs ps) :
      Cut (c :: cs) (.plain c :: ps)
  | reference {r : Reference} {cs : List Char} {ps : List Piece} (hr : r.Legible) (h : Cut cs ps) :
      Cut (r.written ++ cs) (.reference r :: ps)

theorem cut_allFrom (k : Nat) (cs : List Char) : Cut (cs.drop k) (Piece.allFrom k cs) := by
  induction cs generalizing k with
  | nil => cases k <;> exact .nil
  | cons c cs ih =>
    cases k with
    | succ k => exact ih k
    | zero =>
      rw [Piece.allFrom, List.drop_zero]
      cases hr : Reference.atHead? (c :: cs) with
      | none => exact .plain hr (ih 0)
      | some r =>
        obtain ⟨hl, rest, he⟩ := Reference.of_atHead? hr
        obtain ⟨body, hw, -⟩ := hl.closed
        have hk : r.written.length - 1 = (body ++ ['\x7d']).length := by rw [hw]; rfl
        have hcs : cs = (body ++ ['\x7d']) ++ rest := by
          rw [hw] at he
          exact (List.cons.inj he).2.symm
        have hrest := ih (body ++ ['\x7d']).length
        rw [hcs, List.drop_left, ← hcs] at hrest
        dsimp only
        rw [← he, hk]
        exact .reference hl hrest

theorem filterMap_allFrom (k : Nat) (cs : List Char) :
    (Piece.allFrom k cs).filterMap Piece.reference? = Reference.allFrom k cs := by
  induction cs generalizing k with
  | nil => cases k <;> rfl
  | cons c cs ih =>
    cases k with
    | succ k => exact ih k
    | zero =>
      rw [Piece.allFrom, Reference.allFrom]
      cases Reference.atHead? (c :: cs) with
      | none => exact ih 0
      | some r => exact congrArg (r :: ·) (ih _)

theorem Reference.all_eq (text : String) : all text = (Piece.all text).filterMap Piece.reference? :=
  (filterMap_allFrom 0 text.toList).symm

theorem cut_all (text : String) : Cut text.toList (Piece.all text) := cut_allFrom 0 text.toList

variable {ps : List Piece}

theorem mem_filterMap_reference? : r ∈ ps.filterMap Piece.reference? ↔ .reference r ∈ ps := by
  constructor
  · intro hm
    obtain ⟨p, hp, he⟩ := List.mem_filterMap.mp hm
    cases p with
    | plain c => cases he
    | reference r' =>
      cases he
      exact hp
  · intro hm
    exact List.mem_filterMap.mpr ⟨.reference r, hm, rfl⟩

theorem Cut.legible (h : Cut cs ps) (hm : .reference r ∈ ps) : r.Legible := by
  induction h with
  | nil => cases hm
  | plain hn h ih =>
    rcases List.mem_cons.mp hm with he | hm
    · cases he
    · exact ih hm
  | reference hr h ih =>
    rcases List.mem_cons.mp hm with he | hm
    · cases he
      exact hr
    · exact ih hm

theorem mem_all_iff {text : String} :
    r ∈ Reference.all text ↔ .reference r ∈ Piece.all text := by
  rw [Reference.all_eq, mem_filterMap_reference?]

theorem Reference.legible_of_mem_all {text : String} (hm : r ∈ Reference.all text) : r.Legible :=
  (cut_all text).legible (mem_all_iff.mp hm)

end ClassExport
