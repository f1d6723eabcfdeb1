import ClassExport.Failure

/-! What the export asks of a file system. -/
namespace ClassExport

inductive NodeKind where
  | file
  | folder
deriving DecidableEq, Repr

/-- Access to files from a working folder. -/
class Disk (m : Type → Type) where
  workingFolder : m Path
  kind? : Path → m (Option NodeKind)
  readFile : Path → m (Except DiskFault ByteArray)
  /-- Makes one folder, whose parent must be there. -/
  makeFolder : Path → m (Except DiskFault Unit)
  /-- Makes a file, or replaces the content of one. -/
  writeFile : Path → String → m (Except DiskFault Unit)
  /-- The files below a folder, each as the names that lead to it. Of the folders below only those
  are entered whose names `enter` accepts. -/
  filesBelow : (enter : String → Bool) → Path → m (List (List String))

namespace Disk

variable {m : Type → Type} [Monad m] [Disk m]

def isFile (p : Path) : m Bool := return (← kind? p) = some .file

def isFolder (p : Path) : m Bool := return (← kind? p) = some .folder

def exists? (p : Path) : m Bool := return (← kind? p).isSome

def textOf (bytes : ByteArray) : Except DiskFault String :=
  match String.fromUTF8? bytes with
  | some text => .ok text
  | none => .error .notText

def readText (p : Path) : m (Except DiskFault String) := return (← readFile p).bind textOf

/-- Makes a folder after those above it, given as the folder and its ancestors; one that is there is
left. -/
def makeFolders : List Path → m (Except DiskFault Unit)
  | [] => return .ok ()
  | p :: above => do
    if p.text = "" then return .ok ()
    match ← makeFolder p with
    | .ok () => return .ok ()
    | .error .notFound =>
      match ← makeFolders above with
      | .error fault => return .error fault
      | .ok () => settle p (← makeFolder p)
    | .error fault => settle p (.error fault)
where
  /-- It does not matter why a folder could not be made that is there. -/
  settle (p : Path) : Except DiskFault Unit → m (Except DiskFault Unit)
    | .ok () => return .ok ()
    | .error fault => return if ← isFolder p then .ok () else .error fault

/-- Writes a file after making the folders on the way to it. -/
def writeThrough (p : Path) (text : String) : m (Except DiskFault Unit) := do
  match ← makeFolders ((p.parent?.map Path.ancestors).getD []) with
  | .error fault => return .error fault
  | .ok () => writeFile p text

end Disk
end ClassExport
