import ClassExport.Proofs.Reading
import ClassExport.Proofs.Session
import Mathlib.Data.List.TakeWhile

/-!
What the package of a source file is made from: the paths, and the manifests of the folders above
the file.
-/
namespace ClassExport.Scan

open FileTree Disk

variable {w : Workspace} {base : Location} {root folder p q : Path} {name : String}
  {names : List String} {manifest manifest' : Path → Option ByteArray}

/-- The content of the manifest in a folder. -/
def manifest? (w : Workspace) (folder : Path) : Option ByteArray :=
  (w.tree.readFile w.folder (folder.joinName manifestName)).toOption

/-- The path that names lead to from the root. -/
def pathTo (root : Path) (way : List String) : Path := way.foldl Path.joinName root

/-- The folders above a file that are the root or below it, from the nearest on. -/
def foldersAbove (root file : Path) : List Path :=
  (file.ancestors.drop 1).takeWhile (·.isWithin root)

def crateNameFrom (manifest : Option ByteArray) (folder : Path) : String :=
  Text.snakeCase ((manifest.bind fun bytes => (textOf bytes).toOption.bind packageName?).getD
    (folder.fileName?.getD ""))

/-- The package of a file, from the manifests of folders. -/
def packageFrom (manifest : Path → Option ByteArray) (root file : Path) : String :=
  let segments := match (foldersAbove root file).find? fun folder => (manifest folder).isSome with
    | some folder => crateNameFrom (manifest folder) folder :: moduleNames (belowCrate folder file)
    | none => moduleNames ((file.relativeTo? root).getD file.components)
  ".".intercalate (segments.filter (· ≠ ""))

theorem run_findM? {α : Type} {f : α → Session Bool} {P : α → Bool}
    (hf : ∀ a, (f a).run w = (P a, w)) (l : List α) :
    (l.findM? f).run w = (l.find? P, w) := by
  induction l with
  | nil => rfl
  | cons a l ih =>
    rw [List.findM?, Session.run_bind, hf, List.find?_cons]
    cases P a with
    | true => rfl
    | false => exact ih

theorem run_readText (p : Path) :
    (readText p : Session _).run w = ((w.tree.readFile w.folder p).bind textOf, w) := rfl

theorem run_hasManifest (folder : Path) :
    (isFile (folder.joinName manifestName) : Session Bool).run w =
      ((manifest? w folder).isSome, w) := by
  rw [Session.run_isFile]
  congr 1
  rw [Bool.eq_iff_iff, decide_eq_true_iff, isFile_iff_readFile]
  exact Iff.rfl

theorem run_crateName (folder : Path) :
    (crateName folder : Session String).run w = (crateNameFrom (manifest? w folder) folder, w) := by
  rw [crateName, Session.run_bind, run_readText, crateNameFrom, manifest?]
  cases w.tree.readFile w.folder (folder.joinName manifestName) <;> rfl

/-! The names of crates that are known. -/

theorem plainName_manifest : PlainName manifestName :=
  ⟨by decide, by decide, by decide, by decide⟩

theorem manifest?_congr (h : p.components = q.components) : manifest? w p = manifest? w q :=
  toOption_readFile_congr h plainName_manifest

theorem crateNameFrom_congr (h : p.components = q.components) :
    crateNameFrom (manifest? w p) p = crateNameFrom (manifest? w q) q := by
  rw [manifest?_congr h, crateNameFrom, crateNameFrom, Path.fileName?, h]
  rfl

/-- Every name that is known is the one that the crate has. -/
def CrateNames.Current (names : CrateNames) (w : Workspace) : Prop :=
  ∀ folder name, names.lookup folder.components = some name →
    name = crateNameFrom (manifest? w folder) folder

theorem CrateNames.current_nil (w : Workspace) : CrateNames.Current [] w := by
  intro folder name h
  cases h

theorem CrateNames.Current.cons {names : CrateNames} (h : names.Current w) (folder : Path) :
    CrateNames.Current
      ((folder.components, crateNameFrom (manifest? w folder) folder) :: names) w := by
  intro other name hl
  rw [List.lookup_cons] at hl
  split at hl
  · rename_i he
    rw [← Option.some.inj hl]
    exact crateNameFrom_congr (eq_of_beq he).symm
  · exact h other name hl

theorem run_nameKnowing {names : CrateNames} (h : names.Current w) (folder : Path) :
    ∃ names', (nameKnowing names folder : Session _).run w =
      ((crateNameFrom (manifest? w folder) folder, names'), w) ∧ names'.Current w := by
  rw [nameKnowing]
  cases hl : names.lookup folder.components with
  | some name =>
    refine ⟨names, ?_, h⟩
    dsimp only
    rw [Session.run_pure, h folder name hl]
  | none =>
    refine ⟨_, ?_, h.cons folder⟩
    dsimp only
    rw [Session.run_bind, run_crateName, Session.run_pure]

/-- The package of a file is the same whatever crates are known. -/
theorem run_packageKnowing {names : CrateNames} (h : names.Current w) (root file : Path) :
    ∃ names', (packageKnowing names root file : Session _).run w =
      ((packageFrom (manifest? w) root file, names'), w) ∧
      names'.Current w := by
  have hfolder : (crateFolder? root file : Session _).run w =
      ((foldersAbove root file).find? fun folder => (manifest? w folder).isSome, w) :=
    run_findM? run_hasManifest _
  rw [packageKnowing, Session.run_bind, hfolder, packageFrom]
  dsimp only
  cases (foldersAbove root file).find? fun folder => (manifest? w folder).isSome with
  | none =>
    refine ⟨names, ?_, h⟩
    dsimp only
    rw [Session.run_pure, packageText]
  | some folder =>
    obtain ⟨names', hr, hn⟩ := run_nameKnowing h folder
    refine ⟨names', ?_, hn⟩
    dsimp only
    rw [Session.run_bind, hr, Session.run_pure, packageText]

theorem run_packageOf (root file : Path) :
    (packageOf root file : Session String).run w = (packageFrom (manifest? w) root file, w) := by
  obtain ⟨names, hr, -⟩ := run_packageKnowing (CrateNames.current_nil w) root file
  rw [packageOf, Session.run_bind, hr, Session.run_pure]

/-- Only the manifests of folders above the file count. -/
theorem packageFrom_congr {file : Path}
    (h : ∀ q ∈ foldersAbove root file, manifest q = manifest' q) :
    packageFrom manifest root file = packageFrom manifest' root file := by
  have hfind : ((foldersAbove root file).find? fun q => (manifest q).isSome) =
      (foldersAbove root file).find? fun q => (manifest' q).isSome := by
    rw [← List.head?_filter, ← List.head?_filter, List.filter_congr fun q hq => by rw [h q hq]]
  rw [packageFrom, packageFrom, ← hfind]
  cases hf : (foldersAbove root file).find? fun q => (manifest q).isSome with
  | none => rfl
  | some folder =>
    dsimp only
    rw [h folder (List.mem_of_find?_eq_some hf)]

/-- Each folder above a file is reached from the root by some of the names that lead to the file. -/
theorem exists_names_of_mem_foldersAbove (hr : root.text ≠ "") (hz : ¬ hasNul root.text)
    (hn : ∀ s ∈ names, PlainName s) (hs : PlainName name)
    (hq : q ∈ foldersAbove root (pathTo root (names ++ [name]))) :
    ∃ inner, inner <+: names ∧ q.components = root.components ++ inner.map .name ∧
      ¬ hasNul q.text := by
  have hall : ∀ s ∈ names ++ [name], PlainName s := by
    simpa [or_imp, forall_and] using And.intro hn hs
  have hfile : (pathTo root (names ++ [name])).components = root.components ++ names.map .name ++
      [.name name] := by
    rw [pathTo, Path.components_foldl_joinName hr hall]
    simp
  have habove : q ∈ (pathTo root (names ++ [name])).ancestors.drop 1 :=
    (List.takeWhile_subset _) hq
  have hwithin : q.isWithin root := List.mem_takeWhile_imp (p := fun r : Path => r.isWithin root) hq
  have hle := Path.components_of_mem_above habove
  rw [hfile, List.dropLast_concat] at hle
  obtain ⟨cs, hcs⟩ := Path.isWithin_iff.mp hwithin
  rw [← hcs, List.prefix_append_right_inj] at hle
  obtain ⟨inner, hinner, rfl⟩ := List.prefix_map_iff.mp hle
  refine ⟨inner, hinner, hcs.symm, fun hh => ?_⟩
  exact Path.hasNul_foldl_joinName hz hall
    (Path.hasNul_of_mem_ancestorsWithin (List.mem_of_mem_drop habove) hh)

end ClassExport.Scan
