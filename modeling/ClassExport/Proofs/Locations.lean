import ClassExport.ConfigurationFile
import ClassExport.Proofs.Packages

/-! The paths of locations: the paths above them, and the files that are found through them. -/
namespace ClassExport

open FileTree Disk

variable {t : FileTree} {w : Workspace} {here place root : Location} {name s : String}
  {names xs : List String} {absolute : Bool} {bytes : ByteArray}

theorem FileTree.pathOf_eq (place : Location) : pathOf place = Path.ofParts true place := by
  rw [pathOf, Path.ofParts, if_pos rfl]

theorem Path.isAbsolute_ofParts_true (parts : List String) :
    (Path.ofParts true parts).isAbsolute = true := by
  rw [Path.isAbsolute, Path.ofParts_toList]
  rfl

theorem FileTree.isAbsolute_pathOf (place : Location) : (pathOf place).isAbsolute = true := by
  rw [pathOf_eq]
  exact Path.isAbsolute_ofParts_true place

theorem Path.dropIdle_of_plain (h : ∀ s ∈ xs, PlainName s) :
    Path.dropIdle absolute xs = xs := by
  cases xs with
  | nil => rfl
  | cons s xs =>
    have hs := (h s List.mem_cons_self).moves
    rw [Path.dropIdle_cons, if_neg]
    rw [Path.isIdle_iff]
    rintro (he | ⟨he, -⟩)
    · exact hs.1 he
    · exact hs.2 he

namespace FileTree

theorem spelled_of_plain (h : ∀ s ∈ place, PlainName s) : Path.Spelled true place :=
  ⟨fun s hs => (h s hs).noSlash, nofun⟩

theorem parts_pathOf (h : ∀ s ∈ place, PlainName s) (hp : place ≠ []) :
    (pathOf place).parts = place := by
  rw [pathOf_eq, Path.parts_ofParts (spelled_of_plain h) hp]

theorem parent?_pathOf (h : ∀ s ∈ place ++ [name], PlainName s) :
    (pathOf (place ++ [name])).parent? = some (pathOf place) := by
  have hplace : ∀ s ∈ place.reverse, PlainName s :=
    fun s hs => h s (List.mem_append_left _ (List.mem_reverse.mp hs))
  have hidle : ¬ Path.isIdle true name place.reverse := by
    intro hi
    exact (h name (by simp)).names (isStep_of_isIdle hi)
  have hl : Path.Spelled true (place.reverse.reverse ++ [name]) := by
    rw [List.reverse_reverse]
    exact spelled_of_plain h
  have hparent := Path.parent?_eq hl hidle
  rwa [Path.dropIdle_of_plain hplace, List.reverse_reverse, ← pathOf_eq, ← pathOf_eq] at hparent

theorem ancestors_pathOf (h : ∀ s ∈ place ++ [name], PlainName s) :
    (pathOf (place ++ [name])).ancestors = pathOf (place ++ [name]) ::
      (pathOf place).ancestors := by
  have hplace : ∀ s ∈ place, PlainName s := fun s hs => h s (List.mem_append_left _ hs)
  rw [Path.ancestors, Path.ancestorsWithin, parent?_pathOf h, parts_pathOf h (by simp),
    List.length_append]
  by_cases hp : place = []
  · subst hp
    rfl
  · rw [Path.ancestors, parts_pathOf hplace hp]
    rfl

theorem joinName_pathOf (h : ∀ s ∈ place, PlainName s) (hn : PlainName name) :
    (pathOf place).joinName name = pathOf (place ++ [name]) := by
  have ha : (Path.mk name).isAbsolute = false := Path.isAbsolute_of_noSlash hn.noSlash
  rw [Path.joinName, Path.join, if_neg (by simp [ha])]
  rcases List.eq_nil_or_concat place with rfl | ⟨init, s, rfl⟩
  · rw [if_pos (by decide), List.nil_append, pathOf, pathOf, String.intercalate_nil,
      String.intercalate_singleton]
    rfl
  · rw [List.concat_eq_append] at h ⊢
    have hs : PlainName s := h s (by simp)
    have htext : (pathOf (init ++ [s])).text ≠ "" := by simp [pathOf]
    have hlast : (pathOf (init ++ [s])).text.toList.getLast? ≠ some '/' := by
      intro he
      exact hs.moves.1 (Path.eq_empty_of_getLast? htext (parts_pathOf h (by simp)) he)
    rw [if_neg (by simp [htext, hlast])]
    rw [pathOf_eq, pathOf_eq, ← Path.ofParts_concat (by simp)]

/-! Files in a folder. -/

variable (hw : t.WellFormed) (hn : t.Named)
include hw hn

theorem toOption_readFile_pathOf (hf : t.get? place = some .folder) (hname : PlainName name)
    (here : Location) :
    (t.readFile here (pathOf (place ++ [name]))).toOption = t.content? (place ++ [name]) := by
  have hplace : ∀ s ∈ place, PlainName s := hn place (by simp [hf])
  have hall : ∀ s ∈ place ++ [name], PlainName s := by
    simpa [or_imp, forall_and] using And.intro hplace hname
  have hs : start here (pathOf (place ++ [name])) = .ok ([], place ++ [name]) :=
    pathOf_eq (place ++ [name]) ▸
      start_ofParts (spelled_of_plain hall) (fun s hs => (hall s hs).noNul)
        (by simp [Path.ofParts]) (by simp) here
  have hopen : Open t [] place := open_names hw hplace hf
  rw [toOption_readFile hs hopen hname, destination_names hplace]
  rfl

theorem readFile_pathOf (hf : t.get? (place ++ [name]) = some (.file bytes)) (here : Location) :
    t.readFile here (pathOf (place ++ [name])) = .ok bytes := by
  have hfolder : t.get? place = some .folder := hw.within place name (by simp [hf])
  have hname : PlainName name := hn (place ++ [name]) (by simp [hf]) name (by simp)
  have hread := toOption_readFile_pathOf hw hn hfolder hname here
  rw [content?_eq_some.mpr hf] at hread
  cases hr : t.readFile here (pathOf (place ++ [name])) with
  | error fault => simp [hr, Except.toOption] at hread
  | ok found => simpa [hr, Except.toOption] using hread

end FileTree

namespace ConfigurationFile

theorem plainName_configFile : PlainName configFileName :=
  ⟨by decide, by decide, by decide, by decide⟩

theorem plainName_environmentFile : PlainName environmentFileName :=
  ⟨by decide, by decide, by decide, by decide⟩

variable (hw : w.tree.WellFormed) (hn : w.tree.Named)
include hw hn

theorem run_isFile_joinName (hf : w.tree.get? place = some .folder) (hname : PlainName name) :
    (isFile ((pathOf place).joinName name) : Session _).run w =
      ((w.tree.content? (place ++ [name])).isSome, w) := by
  rw [Session.run_isFile, joinName_pathOf (hn place (by simp [hf])) hname]
  congr 1
  rw [Bool.eq_iff_iff, decide_eq_true_iff, isFile_iff_readFile,
    toOption_readFile_pathOf hw hn hf hname]

/-- The file of a folder is the nearest one from all folders below it on whose way there is no
other. -/
theorem run_nearest? (hname : PlainName name)
    (hfile : w.tree.get? (root ++ [name]) = some (.file bytes))
    (hf : w.tree.get? (root ++ names) = some .folder)
    (halone : ∀ inner, inner <+: names → inner ≠ [] →
        w.tree.content? (root ++ inner ++ [name]) = none) :
    (nearest? name (pathOf (root ++ names)) : Session _).run w =
      (some (pathOf (root ++ [name])), w) := by
  have hroot : ∀ s ∈ root, PlainName s := fun s hs =>
    hn (root ++ [name]) (by simp [hfile]) s (List.mem_append_left _ hs)
  induction names using List.reverseRecOn with
  | nil =>
    rw [List.append_nil] at hf ⊢
    have hfound := run_isFile_joinName hw hn hf hname
    rw [content?_eq_some.mpr hfile] at hfound
    rw [nearest?, Path.ancestors, Path.ancestorsWithin, List.map_cons, List.findM?,
      Session.run_bind, hfound, joinName_pathOf hroot hname]
    rfl
  | append_singleton names s ih =>
    rw [← List.append_assoc] at hf ⊢
    have hthere : w.tree.get? (root ++ names ++ [s]) ≠ none := hf ▸ Option.some_ne_none _
    have hnone : w.tree.content? (root ++ names ++ [s] ++ [name]) = none := by
      rw [List.append_assoc root]
      exact halone (names ++ [s]) List.prefix_rfl (by simp)
    have hmissing := run_isFile_joinName hw hn hf hname
    have hrest := ih (hw.within _ s hthere) fun inner hi =>
      halone inner (hi.trans (List.prefix_append names [s]))
    rw [nearest?, ancestors_pathOf (hn _ hthere), List.map_cons, List.findM?,
      Session.run_bind, hmissing, hnone]
    exact hrest

end ConfigurationFile
end ClassExport
