import ClassExport.Proofs.Folders
import Mathlib.Tactic.ByContra

/-! Making folders changes nothing that is there; writing a file changes one place. -/
namespace ClassExport

/-- A tree as file systems keep it, and a working folder that is there. -/
structure Workspace.Sound (w : Workspace) : Prop where
  tree : w.tree.WellFormed
  folder : w.tree.get? w.folder = some .folder

namespace FileTree

variable {t t' : FileTree} {here base place : Location} {p : Path}
  {name text : String} {w : Workspace}

/-- The second tree has all that the first has, and only folders besides. -/
structure Grown (t t' : FileTree) : Prop where
  wellFormed : t'.WellFormed
  keeps : ∀ {place node}, t.get? place = some node → t'.get? place = some node
  adds : ∀ {place node}, t'.get? place = some node → t.get? place = some node ∨
    t.get? place = none ∧ node = .folder

theorem Grown.refl (h : t.WellFormed) : Grown t t := ⟨h, id, Or.inl⟩

theorem Grown.trans {t'' : FileTree} (h : Grown t t') (h' : Grown t' t'') : Grown t t'' := by
  refine ⟨h'.wellFormed, fun hl => h'.keeps (h.keeps hl), fun {place node} hl => ?_⟩
  obtain hl | ⟨hn, rfl⟩ := h'.adds hl
  · exact h.adds hl
  · cases hk : t.get? place with
    | none => exact Or.inr ⟨rfl, rfl⟩
    | some node => rw [h.keeps hk] at hn; cases hn

theorem grown_set (h : t.WellFormed) (hf : t.get? place = some .folder)
    (hn : t.get? (place ++ [name]) = none) :
    Grown t (t.set (place ++ [name]) .folder) := by
  refine ⟨h.make hf, fun {l node} hl => ?_, fun {l node} hl => ?_⟩
  · rw [get?_set (by simp), if_neg, hl]
    intro he
    rw [← he, hl] at hn
    cases hn
  · rw [get?_set (by simp)] at hl
    split at hl
    · rename_i he
      cases hl
      exact Or.inr ⟨he ▸ hn, rfl⟩
    · exact Or.inl hl

theorem folder_origin (hf : t.get? here = some .folder) :
    t.get? (origin here p) = some .folder := by
  rw [origin]
  split
  · rfl
  · exact hf

theorem eq_of_start {parts : List String} (hs : start here p = .ok (base, parts)) :
    ¬ hasNul p.text ∧ base = origin here p ∧ parts = p.parts := by
  rw [start] at hs
  split at hs
  · cases hs
  · rename_i hz
    split at hs
    · cases hs
    · cases hs
      exact ⟨hz, rfl, rfl⟩

/-- A slot that is no step lies at the end of an open way. -/
theorem slot_eq_ok {s : Slot} (h : t.WellFormed) (hf : t.get? here = some .folder)
    (hk : t.slot here p = .ok s) (hn : s ≠ .step) :
    ∃ init name, start here p = .ok (origin here p, init ++ [name]) ∧
      Open t (origin here p) init ∧
      ¬ isStep name ∧ name.utf8ByteSize ≤ maxName ∧
      (s = .vacant (destination (origin here p) init ++ [name]) ∧
          t.get? (destination (origin here p) init ++ [name]) = none ∨
        ∃ node, s = .taken (destination (origin here p) init ++ [name]) node ∧
          t.get? (destination (origin here p) init ++ [name]) = some node) := by
  cases hs : start here p with
  | error fault => simp [slot, hs, bind, Except.bind] at hk
  | ok found =>
    obtain ⟨base, parts⟩ := found
    obtain ⟨-, rfl, -⟩ := eq_of_start hs
    obtain rfl | ⟨init, name, rfl⟩ : parts = [] ∨ ∃ init name, parts = init ++ [name] := by
      simpa using List.eq_nil_or_concat parts
    · simp [slot, hs, bind, Except.bind, follow, folder_origin hf] at hk
    · have ho : Open t (origin here p) init := by
        by_contra ho
        obtain ⟨fault, he, -⟩ := slot_of_not_open hs h (folder_origin hf) ho
        rw [he] at hk
        cases hk
      have hp : ¬ isStep name := by
        intro hp
        rw [slot_of_step hs ho hp] at hk
        exact hn (Except.ok.inj hk).symm
      have hl : name.utf8ByteSize ≤ maxName := by
        by_contra hl
        rw [slot_of_long hs ho hp (by omega)] at hk
        cases hk
      refine ⟨init, name, rfl, ho, hp, hl, ?_⟩
      cases hg : t.get? (destination (origin here p) init ++ [name]) with
      | none =>
        rw [slot_of_vacant hs ho hp hl hg] at hk
        exact Or.inl ⟨(Except.ok.inj hk).symm, rfl⟩
      | some node =>
        rw [slot_of_taken hs ho hp hl hg] at hk
        exact Or.inr ⟨node, (Except.ok.inj hk).symm, rfl⟩

theorem grown_makeFolder (h : t.WellFormed) (hf : t.get? here = some .folder)
    (hm : t.makeFolder here p = .ok t') : Grown t t' := by
  rw [makeFolder] at hm
  cases hk : t.slot here p with
  | error fault => simp [hk, bind, Except.bind] at hm
  | ok slot =>
    simp only [hk, bind, Except.bind] at hm
    split at hm
    · cases hm
      obtain ⟨init, name, -, ho, -, -, ⟨he, hg⟩ | ⟨node, he, -⟩⟩ :=
        slot_eq_ok h hf hk (by simp)
      · cases he
        exact grown_set h (ho.1 _ (destination_mem_stops _ _)) hg
      · cases he
    · cases hm

/-- What a write has found and done when it succeeds. -/
theorem writeFile_eq_ok (h : t.WellFormed) (hf : t.get? here = some .folder)
    (hw : t.writeFile here p text = .ok t') :
    ∃ init name, start here p = .ok (origin here p, init ++ [name]) ∧
      Open t (origin here p) init ∧
      ¬ isStep name ∧ name.utf8ByteSize ≤ maxName ∧
      t.get? (destination (origin here p) init ++ [name]) ≠ some .folder ∧
      t' = t.set (destination (origin here p) init ++ [name]) (.file text.toUTF8) := by
  rw [writeFile] at hw
  cases hk : t.slot here p with
  | error fault => simp [hk, bind, Except.bind] at hw
  | ok slot =>
    simp only [hk, bind, Except.bind] at hw
    have hn : slot ≠ .step := by
      rintro rfl
      cases hw
    obtain ⟨init, name, hs, ho, hp, hl, hg⟩ := slot_eq_ok h hf hk hn
    refine ⟨init, name, hs, ho, hp, hl, ?_⟩
    obtain ⟨rfl, hg⟩ | ⟨node, rfl, hg⟩ := hg
    · cases hw
      exact ⟨by simp [hg], rfl⟩
    · cases node with
      | folder => cases hw
      | file bytes =>
        cases hw
        exact ⟨by simp [hg], rfl⟩

section

open Disk

theorem run_settle_snd (r : Except DiskFault Unit) :
    ((makeFolders.settle (m := Session) p r).run w).2 = w := by
  cases r <;> rfl

theorem grown_run_makeFolder (h : w.Sound) :
    Grown w.tree ((Disk.makeFolder p : Session _).run w).2.tree ∧
      ((Disk.makeFolder p : Session _).run w).2.folder = w.folder := by
  rw [Session.run_makeFolder]
  cases hm : w.tree.makeFolder w.folder p with
  | error fault => exact ⟨.refl h.tree, rfl⟩
  | ok tree => exact ⟨grown_makeFolder h.tree h.folder hm, rfl⟩

theorem grown_run_makeFolders (h : w.Sound) (ps : List Path) :
    Grown w.tree ((makeFolders (m := Session) ps).run w).2.tree ∧
      ((makeFolders (m := Session) ps).run w).2.folder = w.folder := by
  induction ps with
  | nil => exact ⟨.refl h.tree, rfl⟩
  | cons p above ih =>
    by_cases hp : p.text = ""
    · rw [makeFolders, if_pos hp]
      exact ⟨.refl h.tree, rfl⟩
    · cases hm : w.tree.makeFolder w.folder p with
      | ok tree =>
        rw [run_makeFolders_of_ok hp hm]
        exact ⟨grown_makeFolder h.tree h.folder hm, rfl⟩
      | error fault =>
        by_cases hn : fault = .notFound
        · rw [run_makeFolders_of_missing hp (hn ▸ hm)]
          obtain ⟨hg, he⟩ := ih
          rcases hr : (makeFolders (m := Session) above).run w with ⟨fault | _, w'⟩
          · rw [hr] at hg he
            exact ⟨hg, he⟩
          · rw [hr] at hg he
            have h' : w'.Sound := ⟨hg.wellFormed, by rw [he]; exact hg.keeps h.folder⟩
            obtain ⟨hg', he'⟩ := grown_run_makeFolder (p := p) h'
            dsimp only
            rw [Session.run_bind, run_settle_snd]
            exact ⟨hg.trans hg', he'.trans he⟩
        · rw [run_makeFolders_of_error hp hm hn, run_settle_snd]
          exact ⟨.refl h.tree, rfl⟩

end

end FileTree
end ClassExport
