import ClassExport.Disk
import ClassExport.Registry
import ClassExport.Source.Classes
import ClassExport.Text.Quoted
import ClassExport.Text.SnakeCase
import ClassExport.Toml.Reader

/-!
The classes of all source files below a folder. The package of a file is made of the name of its
crate and the modules on the way to it; of two classes with one qualified name the first file's
counts.
-/
namespace ClassExport.Scan

open Disk

variable {m : Type → Type} [Monad m] [Disk m]

def isEntered (folder : String) : Bool :=
  !(folder.toList.head? == some '.' || folder = "target" || folder = "node_modules")

def isSourceName (name : String) : Bool := (Path.cutExtension name).2 = some "rs"

/-- Source files in the order of the names that lead to them. -/
def sourceFiles (ways : List (List String)) : List (List String) :=
  (ways.filter fun way => way.getLast?.any isSourceName).mergeSort fun a b => (compare a b).isLE

def manifestName : String := "Cargo.toml"

/-- The name of the package that a manifest describes. -/
def packageName? (manifest : String) : Option String := do
  let entries ← Toml.ofText? manifest
  if !Toml.entriesInRange (-Nat.pow 2 63) (Nat.pow 2 63 - 1) entries then none
  match Toml.get? entries "package" with
  | some (.table _ package) =>
    match Toml.get? package "name" with
    | some (.string name) => some name
    | _ => none
  | _ => none

/-- The name of a crate, from its manifest or else from its folder. -/
def crateName (folder : Path) : m String := do
  let manifest ← readText (folder.joinName manifestName)
  let named := manifest.toOption.bind packageName?
  return Text.snakeCase (named.getD (folder.fileName?.getD ""))

/-- The names of the modules on the way to a file, and of its own module. -/
def moduleNames (components : List Path.Component) : List String :=
  let stem := (Path.nameOf? components).map fun name => (Path.cutExtension name).1
  components.dropLast.map Path.Component.text ++
    (stem.filter fun s => !(["lib", "main", "mod"].contains s)).toList

/-- The nearest folder above a file, at or below the root, that holds a manifest. -/
def crateFolder? (root file : Path) : m (Option Path) :=
  ((file.ancestors.drop 1).takeWhile (·.isWithin root)).findM? fun folder =>
    isFile (folder.joinName manifestName)

/-- The components of a file below the sources of its crate, or else below the crate. -/
def belowCrate (folder file : Path) : List Path.Component :=
  ((file.relativeTo? (folder.joinName "src")).or (file.relativeTo? folder)).getD file.components

/-- The names of crates that were read, by the components of their folders. -/
abbrev CrateNames := List (List Path.Component × String)

/-- The name of a crate, which is read when it is not known yet, and the names that are known
then. -/
def nameKnowing (names : CrateNames) (folder : Path) : m (String × CrateNames) := do
  match names.lookup folder.components with
  | some name => return (name, names)
  | none =>
    let name ← crateName folder
    return (name, (folder.components, name) :: names)

def packageText (segments : List String) : String := ".".intercalate (segments.filter (· ≠ ""))

/-- The package of a file, and the names of crates that are known then. -/
def packageKnowing (names : CrateNames) (root file : Path) : m (String × CrateNames) := do
  match ← crateFolder? root file with
  | some folder =>
    let (name, names) ← nameKnowing names folder
    return (packageText (name :: moduleNames (belowCrate folder file)), names)
  | none => return (packageText (moduleNames ((file.relativeTo? root).getD file.components)), names)

/-- The package of a file when no crate is known before. -/
def packageOf (root file : Path) : m String := return (← packageKnowing [] root file).1

/-- The classes of one file. -/
def fileClasses (file : Path) (package : String) : ExceptT Failure m (List Class) := do
  match ← readText (m := m) file with
  | .error fault => throw (.io fault)
  | .ok text =>
    match Source.classes text package with
    | .ok classes => return classes
    | .error failure => throw (.parse file failure.message)

/-- What a scan has read so far. -/
structure Progress where
  names : CrateNames := []
  registry : Registry := .empty

/-- Adds the classes of a file below the root; a file that cannot be read adds nothing. -/
def addFile (root : Path) (found : Progress) (way : List String) : m Progress := do
  let file := way.foldl Path.joinName root
  let (package, names) ← packageKnowing found.names root file
  match ← (fileClasses file package).run with
  | .ok classes => return ⟨names, found.registry.insertAll classes⟩
  | .error _ => return ⟨names, found.registry⟩

def scan (root : Path) : ExceptT Failure m Registry := do
  if !(← isFolder (m := m) root) then
    throw (.scan ("scan path " ++ Text.quoted root.text ++ " is not a directory"))
  let ways ← filesBelow (m := m) isEntered root
  let found ← ExceptT.lift ((sourceFiles ways).foldlM (addFile root) {})
  return found.registry

end ClassExport.Scan
