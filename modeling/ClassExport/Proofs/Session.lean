import ClassExport.FileTree

/-! Runs on a file tree, step by step. -/
namespace ClassExport.Session

variable {α β : Type} {w : Workspace}

theorem run_pure (a : α) (w : Workspace) : (pure a : Session α).run w = (a, w) := rfl

@[simp] theorem run_bind (x : Session α) (f : α → Session β) (w : Workspace) :
    (x >>= f).run w = (f (x.run w).1).run (x.run w).2 := rfl

theorem run_except_bind (x : ExceptT Failure Session α)
    (f : α → ExceptT Failure Session β) (w : Workspace) :
    (x >>= f).run.run w = match x.run.run w with
      | (.ok a, w') => (f a).run.run w'
      | (.error e, w') => (.error e, w') := by
  change ((x.run >>= ExceptT.bindCont f : Session _)).run w = _
  rw [run_bind]
  rcases x.run.run w with ⟨_ | _, w'⟩ <;> rfl

theorem run_lift (x : Session α) (w : Workspace) :
    (liftM x : ExceptT Failure Session α).run.run w = (.ok (x.run w).1, (x.run w).2) := rfl

theorem textOf_toUTF8 (s : String) : Disk.textOf s.toUTF8 = .ok s := by
  simp only [Disk.textOf, String.fromUTF8?, String.toUTF8_eq_toByteArray, dif_pos s.isValidUTF8]
  rfl

/-! Questions to the file system leave the tree as it is; a change that fails does too. -/

theorem run_isFile (p : Path) (w : Workspace) :
    (Disk.isFile p : Session _).run w =
      (decide ((w.tree.locate w.folder p).toOption.map (·.2.kind) = some .file), w) := rfl

theorem run_isFolder (p : Path) (w : Workspace) :
    (Disk.isFolder p : Session _).run w =
      (decide ((w.tree.locate w.folder p).toOption.map (·.2.kind) = some .folder), w) := rfl

theorem run_makeFolder (p : Path) (w : Workspace) :
    (Disk.makeFolder p : Session _).run w = match w.tree.makeFolder w.folder p with
      | .ok tree => (.ok (), { w with tree })
      | .error fault => (.error fault, w) := rfl

theorem run_writeFile (p : Path) (text : String) (w : Workspace) :
    (Disk.writeFile p text : Session _).run w = match w.tree.writeFile w.folder p text with
      | .ok tree => (.ok (), { w with tree })
      | .error fault => (.error fault, w) := rfl

theorem run_filesBelow_eq (enter : String → Bool) (p : Path) (w : Workspace) :
    (Disk.filesBelow enter p : Session _).run w = (match w.tree.locate w.folder p with
      | .ok (base, .folder) => w.tree.filesBelow enter base
      | _ => [], w) := rfl

theorem run_filesBelow {base : Location} {p : Path} {enter : String → Bool}
    (hl : w.tree.locate w.folder p = .ok (base, .folder)) :
    (Disk.filesBelow enter p : Session _).run w = (w.tree.filesBelow enter base, w) := by
  rw [run_filesBelow_eq, hl]

end ClassExport.Session
