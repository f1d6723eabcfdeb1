import ClassExport.Disk

/-!
Files and folders as a value, and the file system that it makes. A path is followed name by name:
what stands before a slash must be a folder, and `..` leads to the folder above the one that was
reached. All nodes are regular files and folders under names of Unicode text: there are no links, no
devices and no permissions.
-/
namespace ClassExport

/-- Names from the root down. Names are texts; bytes that are no text name nothing. -/
abbrev Location := List String

/-- A regular file or a folder. There is no node for a link, so a file is reached under one location
alone. -/
inductive Node where
  | file (bytes : ByteArray)
  | folder

def Node.kind : Node → NodeKind
  | .file _ => .file
  | .folder => .folder

/-- Regular files and folders by their locations, with no links between them. Each location has at
most one node; the root is a folder that is not listed. -/
structure FileTree where
  entries : List (Location × Node)

namespace FileTree

def empty : FileTree := ⟨[]⟩

def get? (t : FileTree) (place : Location) : Option Node :=
  if place = [] then some .folder else t.entries.lookup place

def set (t : FileTree) (place : Location) (node : Node) : FileTree :=
  ⟨t.entries.filter (·.1 ≠ place) ++ [(place, node)]⟩

/-- Removes a node and all below it. -/
def remove (t : FileTree) (place : Location) : FileTree :=
  ⟨t.entries.filter fun (l, _) => !place.isPrefixOf l⟩

/-- The longest name of a file or folder, in bytes. -/
def maxName : Nat := 255

/-- A part of a path that names no entry of the folder it stands in. -/
def isStep (part : String) : Bool := part = "" || part = "." || part = ".."

/-- Where the parts of a path lead; all they name must be there. -/
def follow (t : FileTree) : Location → List String → Except DiskFault Location
  | here, [] => .ok here
  | here, part :: rest =>
    match t.get? here with
    | none => .error .notFound
    | some (.file _) => .error .notADirectory
    | some .folder =>
      if part = "" || part = "." then follow t here rest
      else if part = ".." then follow t here.dropLast rest
      else if part.utf8ByteSize > maxName then .error .nameTooLong
      else if (t.get? (here ++ [part])).isSome then follow t (here ++ [part]) rest
      else .error .notFound

/-- Where a path begins, and its parts. -/
def start (here : Location) (p : Path) : Except DiskFault (Location × List String) :=
  if p.text.toList.contains '\x00' then .error .nulInPath
  else if p.text = "" then .error .notFound
  else .ok (if p.isAbsolute then [] else here, p.parts)

def locate (t : FileTree) (here : Location) (p : Path) : Except DiskFault (Location × Node) := do
  let (base, parts) ← start here p
  let found ← t.follow base parts
  match t.get? found with
  | some node => .ok (found, node)
  | none => .error .notFound

/-- What the last part of a path denotes in the folder before it. -/
inductive Slot where
  /-- The folder itself or one above it. -/
  | step
  | vacant (place : Location)
  | taken (place : Location) (node : Node)

/-- The place that a path names, whether or not something is there. -/
def slot (t : FileTree) (here : Location) (p : Path) : Except DiskFault Slot := do
  let (base, parts) ← start here p
  let parent ← t.follow base parts.dropLast
  match t.get? parent, parts.getLast? with
  | some (.file _), _ => .error .notADirectory
  | some .folder, some name =>
    if isStep name then .ok .step
    else if name.utf8ByteSize > maxName then .error .nameTooLong
    else match t.get? (parent ++ [name]) with
      | some node => .ok (.taken (parent ++ [name]) node)
      | none => .ok (.vacant (parent ++ [name]))
  | _, _ => .error .notFound

def readFile (t : FileTree) (here : Location) (p : Path) : Except DiskFault ByteArray := do
  match ← t.locate here p with
  | (_, .file bytes) => .ok bytes
  | (_, .folder) => .error .isADirectory

def makeFolder (t : FileTree) (here : Location) (p : Path) : Except DiskFault FileTree := do
  match ← t.slot here p with
  | .vacant place => .ok (t.set place .folder)
  | _ => .error .alreadyExists

def writeFile (t : FileTree) (here : Location) (p : Path) (text : String) :
    Except DiskFault FileTree := do
  match ← t.slot here p with
  | .vacant place | .taken place (.file _) => .ok (t.set place (.file text.toUTF8))
  | _ => .error .isADirectory

/-- The names that lead from `base` to `place`, if they go into accepted folders only. -/
def wayTo? (enter : String → Bool) (base place : Location) : Option (List String) :=
  if base.isPrefixOf place then
    let names := place.drop base.length
    if names.dropLast.all enter then some names else none
  else none

def filesBelow (t : FileTree) (enter : String → Bool) (base : Location) : List (List String) :=
  t.entries.filterMap fun
    | (place, .file _) => wayTo? enter base place
    | (_, .folder) => none

/-- The path of a location. -/
def pathOf (place : Location) : Path := ⟨"/" ++ "/".intercalate place⟩

end FileTree

/-- A file tree with a working folder in it. -/
structure Workspace where
  tree : FileTree
  folder : Location

/-- A run on a file tree. -/
abbrev Session := StateM Workspace

namespace Session

/-- A change of the tree, which stays as it is when the change fails. -/
def change (f : FileTree → Location → Except DiskFault FileTree) :
    Session (Except DiskFault Unit) := fun w =>
  match f w.tree w.folder with
  | .ok tree => (.ok (), { w with tree })
  | .error fault => (.error fault, w)

instance : Disk Session where
  workingFolder := return FileTree.pathOf (← get).folder
  kind? p := return ((← get).tree.locate (← get).folder p).toOption.map (·.2.kind)
  readFile p := return (← get).tree.readFile (← get).folder p
  makeFolder p := change fun t here => t.makeFolder here p
  writeFile p text := change fun t here => t.writeFile here p text
  filesBelow enter p := do
    let w ← get
    return match w.tree.locate w.folder p with
      | .ok (base, .folder) => w.tree.filesBelow enter base
      | _ => []

end Session
end ClassExport
