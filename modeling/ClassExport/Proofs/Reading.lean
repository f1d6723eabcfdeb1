import ClassExport.Proofs.Components
import ClassExport.Proofs.Writing
import ClassExport.Scan

/-! Files read below a folder, and what the package of a source file is read from. -/
namespace ClassExport

open FileTree

variable {w : Workspace} {t : FileTree} {here base place : Location} {root p q d file : Path}
  {name : String} {names parts : List String}

/-- A name that something in a folder can have. -/
structure PlainName (s : String) : Prop where
  names : ¬ isStep s
  noSlash : '/' ∉ s.toList
  noNul : ¬ hasNul s
  short : s.utf8ByteSize ≤ maxName

/-- All that is there has a name. -/
def FileTree.Named (t : FileTree) : Prop :=
  ∀ place, t.get? place ≠ none → ∀ s ∈ place, PlainName s

/-- The content of the file at a place. -/
def FileTree.content? (t : FileTree) (place : Location) : Option ByteArray :=
  match t.get? place with
  | some (.file bytes) => some bytes
  | _ => none

theorem FileTree.content?_eq_some {bytes : ByteArray} :
    t.content? place = some bytes ↔ t.get? place = some (.file bytes) := by
  rw [content?]
  split <;> simp_all

theorem PlainName.ne_up {s : String} (h : PlainName s) : s ≠ ".." :=
  fun he => h.names (by rw [he]; decide)

theorem PlainName.moves {s : String} (h : PlainName s) : s ≠ "" ∧ s ≠ "." :=
  ⟨fun he => h.names (by rw [he]; decide), fun he => h.names (by rw [he]; decide)⟩

namespace FileTree

theorem named_empty : empty.Named := by
  intro place hg s hs
  obtain rfl | hp := eq_or_ne place []
  · cases hs
  · exact (hg (by rw [get?, if_neg hp]; rfl)).elim

theorem Named.set {node : Node} (h : t.Named) (hp : t.get? place ≠ none) (hn : PlainName name) :
    (t.set (place ++ [name]) node).Named := by
  intro other hg s hs
  rw [get?_set (by simp)] at hg
  split at hg
  · rename_i he
    subst he
    obtain hs | hs := List.mem_append.mp hs
    · exact h place hp s hs
    · rwa [List.mem_singleton.mp hs]
  · exact h other hg s hs

/-- A folder may get what has a name that is free in it. -/
theorem sound_set (place : Location) (name : String) (node : Node) (h : t.WellFormed ∧ t.Named)
    (hp : t.get? place = some .folder) (hv : t.get? (place ++ [name]) = none)
    (hn : PlainName name) :
    (t.set (place ++ [name]) node).WellFormed ∧ (t.set (place ++ [name]) node).Named :=
  ⟨h.1.set hp (Or.inl (ne_of_eq_of_ne hv nofun)), h.2.set (ne_of_eq_of_ne hp nofun) hn⟩

theorem destination_moves : destination here (Path.moves parts) = destination here parts := by
  induction parts generalizing here with
  | nil => rfl
  | cons part parts ih =>
    rw [Path.moves, List.filter_cons]
    split
    · exact ih
    · rename_i hs
      rw [destination_cons, stepTo, if_pos (by simp at hs; simp; tauto)]
      exact ih

theorem open_moves : Open t here (Path.moves parts) ↔ Open t here parts := by
  induction parts generalizing here with
  | nil => exact Iff.rfl
  | cons part parts ih =>
    rw [Path.moves, List.filter_cons]
    split
    · rw [open_cons, open_cons]
      exact and_congr_right fun _ => and_congr_right fun _ => ih
    · rename_i hs
      have hi : part = "" ∨ part = "." := by simp at hs; tauto
      have hstep : isStep part := isStep_iff.mpr (hi.imp_right Or.inl)
      have hst : stepTo here part = here := by simp [stepTo, hi]
      rw [open_cons, hst, ← Path.moves, ih]
      exact ⟨fun ho => ⟨ho.folder, size_le_of_isStep hstep, ho⟩, fun ho => ho.2.2⟩

theorem destination_names (hn : ∀ s ∈ names, PlainName s) :
    destination here names = here ++ names := by
  induction names generalizing here with
  | nil => simp
  | cons s names ih =>
    rw [List.forall_mem_cons] at hn
    rw [destination_cons, stepTo_name hn.1.names, ih hn.2, List.append_assoc]
    rfl

theorem open_names (h : t.WellFormed) (hn : ∀ s ∈ names, PlainName s)
    (hf : t.get? (here ++ names) = some .folder) :
    Open t here names := by
  induction names generalizing here with
  | nil => rwa [List.append_nil, ← open_nil] at hf
  | cons s names ih =>
    rw [List.forall_mem_cons] at hn
    rw [open_cons, stepTo_name hn.1.names]
    refine ⟨h.folder_of_prefix (List.prefix_append here (s :: names)) (by simp [hf]) (by simp),
      hn.1.short, ?_⟩
    exact ih hn.2 (by simpa using hf)

/-- What is read through a path whose folder part goes on from where it leads by one name. -/
theorem toOption_readFile {init : List String} (hs : start here p = .ok (base, init ++ [name]))
    (ho : Open t base init) (hn : PlainName name) :
    (t.readFile here p).toOption = t.content? (destination base init ++ [name]) := by
  obtain ⟨hr, hf⟩ := follow_eq_ok_iff.mpr ⟨ho, rfl⟩
  have hl := hn.short
  have hfollow : t.follow base (init ++ [name]) =
      if (t.get? (destination base init ++ [name])).isSome
        then .ok (destination base init ++ [name])
      else .error .notFound := by
    rw [follow_append, hr]
    change t.follow _ [name] = _
    rw [follow_name hf hn.names, if_neg (by omega)]
    rfl
  rw [readFile, locate, hs]
  simp only [bind, Except.bind, hfollow, content?]
  cases hg : t.get? (destination base init ++ [name]) with
  | none => rfl
  | some node => cases node <;> simp [hg, Except.toOption]

theorem toOption_readFile_of_not_open {init : List String}
    (hs : start here p = .ok (base, init ++ [name])) (ho : ¬ Open t base init) :
    (t.readFile here p).toOption = none := by
  have hfollow : ∃ fault, t.follow base (init ++ [name]) = .error fault := by
    rw [follow_append]
    cases hr : t.follow base init with
    | error fault => exact ⟨fault, rfl⟩
    | ok place =>
      cases hf : t.follow place [name] with
      | error fault => exact ⟨fault, hf⟩
      | ok found => exact (ho (follow_eq_ok_iff.mp ⟨hr, folder_of_follow_cons hf⟩).1).elim
  obtain ⟨fault, hr⟩ := hfollow
  rw [readFile, locate, hs]
  simp only [bind, Except.bind, hr, Except.toOption]

theorem isFile_iff_readFile : (t.locate here p).toOption.map (·.2.kind) = some .file ↔
    (t.readFile here p).toOption.isSome := by
  rw [readFile]
  cases t.locate here p with
  | error fault => simp [bind, Except.bind, Except.toOption]
  | ok found =>
    obtain ⟨place, node⟩ := found
    cases node <;> simp [bind, Except.bind, Except.toOption, Node.kind]

end FileTree

/-! Paths that go on from a root by names. -/

namespace Path

theorem components_ne_nil (hp : p.text ≠ "") : p.components ≠ [] := by
  rw [components_eq, componentsOf]
  have hl := spelled_parts hp
  cases ha : p.isAbsolute with
  | true => simp
  | false =>
    rw [ha] at hl
    simp only [Bool.false_eq_true, if_false]
    cases hs : p.parts with
    | nil => exact (parts_ne_nil p hs).elim
    | cons s rest =>
      by_cases hd : s = "."
      · simp [hd]
      · have he : s ≠ "" := fun he => hl.begins rfl (by rw [hs, he]; rfl)
        simp [moves, hd, he]

theorem text_ne_of_components (hr : root.text ≠ "") (h : root.components <+: p.components) :
    p.text ≠ "" := by
  intro hp
  have hc : p.components = [] := by
    rw [show p = ⟨""⟩ from congrArg Path.mk hp]
    rfl
  exact components_ne_nil hr (List.prefix_nil.mp (hc ▸ h))

theorem components_joinName (hd : d.text ≠ "") (hn : PlainName name) :
    (d.joinName name).components = d.components ++ [.name name] := by
  obtain ⟨init, hj⟩ := exists_joinedParts hd hn.noSlash
  rw [hj.components hn.moves, ofMove_name hn.ne_up]

/-- Names and `..` may follow each other in any order. -/
theorem components_foldl_moves (hr : root.text ≠ "") (hs : ∀ s ∈ names, '/' ∉ s.toList) :
    ((moves names).foldl joinName root).components = root.components ++
      (moves names).map ofMove := by
  induction names using List.reverseRecOn with
  | nil => exact (List.append_nil _).symm
  | append_singleton names s ih =>
    have hc := ih fun r hm => hs r (List.mem_append_left _ hm)
    by_cases hm : s ≠ "" ∧ s ≠ "."
    · obtain ⟨init, hj⟩ := exists_joinedParts
        (text_ne_of_components hr (hc ▸ List.prefix_append _ _)) (hs s (by simp))
      rw [moves_append, moves_singleton hm, List.foldl_append, List.foldl_cons, List.foldl_nil,
        hj.components hm, hc, List.map_append, List.append_assoc]
      rfl
    · rw [moves_append, show moves [s] = [] by simpa [moves] using hm, List.append_nil]
      exact hc

theorem components_foldl_joinName (hr : root.text ≠ "") (hn : ∀ s ∈ names, PlainName s) :
    (names.foldl joinName root).components = root.components ++ names.map .name := by
  have hmoves : moves names = names := List.filter_eq_self.mpr fun s hs => by
    simpa using (hn s hs).moves
  have hc := components_foldl_moves hr fun s hs => (hn s hs).noSlash
  rw [hmoves] at hc
  rw [hc]
  congr 1
  exact List.map_congr_left fun s hs => ofMove_name (hn s hs).ne_up

theorem hasNul_join (h : hasNul (p.join q).text) : hasNul p.text ∨ hasNul q.text := by
  rw [join] at h
  split at h
  · exact Or.inr h
  · split at h <;> simp_all [hasNul]

theorem hasNul_foldl_joinName (hz : ¬ hasNul root.text) (hn : ∀ s ∈ names, PlainName s) :
    ¬ hasNul (names.foldl joinName root).text := by
  induction names generalizing root with
  | nil => exact hz
  | cons s names ih =>
    rw [List.forall_mem_cons] at hn
    exact ih (fun h => (hasNul_join h).elim hz hn.1.noNul) hn.2

theorem hasNul_of_parent? (h : p.parent? = some q) (hz : hasNul q.text) : hasNul p.text := by
  obtain ⟨xs, hx, rfl, -⟩ := parent?_eq_some h
  obtain ⟨s, hs, hn⟩ := (hasNul_ofParts _).mp hz
  rw [← ofParts_parts p, hasNul_ofParts]
  exact ⟨s, hx.subset hs, hn⟩

theorem hasNul_of_mem_ancestorsWithin {n : Nat} (hq : q ∈ ancestorsWithin n p)
    (hz : hasNul q.text) :
    hasNul p.text := by
  induction n generalizing p with
  | zero => cases hq
  | succ n ih =>
    rw [ancestorsWithin] at hq
    obtain rfl | hq := List.mem_cons.mp hq
    · exact hz
    · split at hq
      · rename_i parent hp
        exact hasNul_of_parent? hp (ih hq)
      · cases hq

theorem hasNul_iff : hasNul p.text ↔ ∃ s ∈ moves p.parts, hasNul s := by
  have hidle : ∀ s, hasNul s → s ≠ "" ∧ s ≠ "." := by
    intro s hs
    constructor
    · rintro rfl
      exact absurd hs (by decide)
    · rintro rfl
      exact absurd hs (by decide)
  rw [text_eq p, hasNul_ofParts]
  constructor
  · rintro ⟨s, hm, hs⟩
    exact ⟨s, List.mem_filter.mpr ⟨hm, decide_eq_true (hidle s hs)⟩, hs⟩
  · rintro ⟨s, hm, hs⟩
    exact ⟨s, (List.mem_filter.mp hm).1, hs⟩

theorem hasNul_joinName (hz : hasNul d.text) (hn : PlainName name) :
    hasNul (d.joinName name).text := by
  rw [joinName, join, isAbsolute_of_noSlash hn.noSlash, if_neg (by simp)]
  split <;> simp_all [hasNul]

end Path

namespace FileTree

/-- A name in a folder is reached by the moves that lead to the folder. -/
theorem exists_start_joinName (here : Location) (hd : d.text ≠ "") (hz : ¬ hasNul d.text)
    (hn : PlainName name) :
    ∃ init, Path.moves init = Path.moves d.parts ∧
      start here (d.joinName name) = .ok (origin here d, init ++ [name]) := by
  obtain ⟨init, hj⟩ := Path.exists_joinedParts hd hn.noSlash
  have hzj : ¬ hasNul (d.joinName name).text := fun hh => (Path.hasNul_join hh).elim hz hn.noNul
  have htj : (d.joinName name).text ≠ "" :=
    Path.text_ne_of_components hd (Path.components_joinName hd hn ▸ List.prefix_append _ _)
  refine ⟨init, hj.moves, ?_⟩
  rw [start_eq_ok hzj htj, hj.parts, origin, hj.absolute]
  rfl

/-- What is read in a folder depends on the components of its path. -/
theorem toOption_readFile_congr (h : p.components = q.components) (hn : PlainName name) :
    (t.readFile here (p.joinName name)).toOption =
      (t.readFile here (q.joinName name)).toOption := by
  by_cases hp : p.text = ""
  · have hq : q.text = "" := by
      by_contra hq
      apply Path.components_ne_nil hq
      rw [← h, show p = ⟨""⟩ from congrArg Path.mk hp]
      rfl
    rw [show p = q from congrArg Path.mk (hp.trans hq.symm)]
  · have hq : q.text ≠ "" := Path.text_ne_of_components hp (h ▸ List.prefix_rfl)
    obtain ⟨ha, hm⟩ : q.isAbsolute = p.isAbsolute ∧
        Path.moves q.parts = Path.moves p.parts ++ [] :=
      Path.moves_of_components_eq (by simp [h]) nofun
    rw [List.append_nil] at hm
    by_cases hz : hasNul p.text
    · have hz' : hasNul q.text := by rwa [Path.hasNul_iff, hm, ← Path.hasNul_iff]
      rw [readFile, readFile, locate, locate, start_of_nul (Path.hasNul_joinName hz hn),
        start_of_nul (Path.hasNul_joinName hz' hn)]
    · have hz' : ¬ hasNul q.text := by rwa [Path.hasNul_iff, hm, ← Path.hasNul_iff]
      obtain ⟨init, hi, hs⟩ := exists_start_joinName here hp hz hn
      obtain ⟨init', hi', hs'⟩ := exists_start_joinName here hq hz' hn
      have ho : origin here q = origin here p := by rw [origin, origin, ha]
      rw [ho] at hs'
      by_cases hopen : Open t (origin here p) init
      · have hopen' : Open t (origin here p) init' := by
          rwa [← open_moves, hi', hm, ← hi, open_moves]
        rw [toOption_readFile hs hopen hn, toOption_readFile hs' hopen' hn, ← destination_moves,
          hi, ← hm, ← hi', destination_moves]
      · have hopen' : ¬ Open t (origin here p) init' := by
          rwa [← open_moves, hi', hm, ← hi, open_moves]
        rw [toOption_readFile_of_not_open hs hopen, toOption_readFile_of_not_open hs' hopen']

end FileTree

/-- A path that leads to a folder, which is at `base`. -/
structure Workspace.Opens (w : Workspace) (root : Path) (base : Location) : Prop where
  plain : ¬ hasNul root.text
  text : root.text ≠ ""
  parts : Open w.tree (origin w.folder root) root.parts
  base : base = target w.folder root

theorem Workspace.opens_of_locate (hl : w.tree.locate w.folder root = .ok (base, .folder)) :
    w.Opens root base := by
  obtain ⟨hs, hr, hf⟩ := locate_eq_ok hl
  obtain ⟨ho, hb⟩ := follow_eq_ok_iff.mp ⟨hr, hf⟩
  refine ⟨(eq_of_start hs).1, fun ht => ?_, ho, hb⟩
  rw [start, ht] at hs
  cases hs

namespace Workspace.Opens

variable (h : w.Opens root base)
include h

theorem locate : w.tree.locate w.folder root = .ok (base, .folder) := by
  obtain ⟨hr, hf⟩ := follow_eq_ok_iff.mpr ⟨h.parts, h.base⟩
  exact (locate_eq_ok_iff (start_eq_ok h.plain h.text _)).mpr ⟨hr, hf⟩

/-- A file in a folder below the root is read at the place that the names spell. -/
theorem toOption_readFile (hw : w.tree.WellFormed)
    (hd : d.components = root.components ++ names.map .name) (hz : ¬ hasNul d.text)
    (hns : ∀ s ∈ names, PlainName s) (hf : w.tree.get? (base ++ names) = some .folder)
    (hn : PlainName name) :
    (w.tree.readFile w.folder (d.joinName name)).toOption =
      w.tree.content? (base ++ names ++ [name]) := by
  have ht : d.text ≠ "" := Path.text_ne_of_components h.text (hd ▸ List.prefix_append _ _)
  obtain ⟨ha, hm⟩ := Path.moves_of_components_eq hd fun s hs => (hns s hs).ne_up
  obtain ⟨init, hi, hs⟩ := exists_start_joinName w.folder ht hz hn
  have ho : origin w.folder d = origin w.folder root := by rw [origin, origin, ha]
  have hb : destination (origin w.folder root) (Path.moves root.parts) = base := by
    rw [destination_moves, h.base, target]
  have hdest : destination (origin w.folder root) init = base ++ names := by
    rw [← destination_moves, hi, hm, destination_append, hb, destination_names hns]
  have hopen : Open w.tree (origin w.folder root) init := by
    rw [← open_moves, hi, hm, open_append, hb]
    exact ⟨open_moves.mpr h.parts, open_names hw hns hf⟩
  rw [ho] at hs
  rw [FileTree.toOption_readFile hs hopen hn, hdest]

end Workspace.Opens
end ClassExport
