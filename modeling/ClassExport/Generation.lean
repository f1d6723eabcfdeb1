import ClassExport.Disk
import ClassExport.Emission
import ClassExport.Setup

/-!
The export of a list of classes. Each name asked for has one outcome; a class that fails does not
stop the others. Beside the report a run gives the events that its log shows, those of the lookups
included.
-/
namespace ClassExport

inductive Outcome where
  | written (path : Path) (size : Nat)
  /-- A file was there and is kept. -/
  | skipped (path : Path)
  | dryRun (path : Path) (content : String)
  | failed (failure : Failure)
deriving DecidableEq, Repr

namespace Outcome

def isWritten : Outcome → Bool
  | .written .. => true
  | _ => false

def isSkipped : Outcome → Bool
  | .skipped _ => true
  | _ => false

def isDryRun : Outcome → Bool
  | .dryRun .. => true
  | _ => false

def failure? : Outcome → Option Failure
  | .failed failure => some failure
  | _ => none

end Outcome

/-- One entry for each name, as it was asked for, in order. -/
structure Report where
  entries : List (String × Outcome)
deriving DecidableEq, Repr

namespace Report

def count (r : Report) (p : Outcome → Bool) : Nat :=
  r.entries.countP fun (_, outcome) => p outcome

def written (r : Report) : Nat := r.count Outcome.isWritten

def skipped (r : Report) : Nat := r.count Outcome.isSkipped

def dryRun (r : Report) : Nat := r.count Outcome.isDryRun

def failed (r : Report) : Nat := r.count fun outcome => outcome.failure?.isSome

def failures (r : Report) : List (String × Failure) :=
  r.entries.filterMap fun (name, outcome) => outcome.failure?.map (name, ·)

end Report

/-- What a class becomes: the path of its file and the text, or none when the file is kept as it
is. -/
structure Emitted where
  path : Path
  content? : Option String
deriving DecidableEq, Repr

namespace Generation

open Disk

variable {m : Type → Type} [Monad m] [Disk m]

def emit (settings : EmitSettings) (c : Class) : m Emitted := do
  let path := settings.outputPath c.name
  let kept ← if settings.overwrite then pure false else isFile path
  return ⟨path, if kept then none else some (c.render settings)⟩

def write (path : Path) (content : String) : m Outcome := do
  match ← writeThrough path content with
  | .ok () => return .written path content.utf8ByteSize
  | .error fault => return .failed (.write path fault)

def failureEvents (name : String) (outcome : Outcome) : List Event :=
  (outcome.failure?.map (Event.failed name)).toList

/-- Exports one class under the name it was asked for. -/
def generateClass (settings : EmitSettings) (dryRun : Bool) (name : String) (c : Class) :
    m (Outcome × List Event) := do
  let emitted ← emit settings c
  let converting := Event.converting name emitted.path
  match emitted.content? with
  | none => return (.skipped emitted.path, [converting, .existing emitted.path])
  | some content =>
    if dryRun then return (.dryRun emitted.path content, [converting])
    let outcome ← write emitted.path content
    return (outcome, converting :: failureEvents name outcome)

def generateName (resolve : String → Except Failure Class)
    (settings : EmitSettings) (dryRun : Bool) (name : String) : m (Outcome × List Event) := do
  match resolve name with
  | .ok c => generateClass settings dryRun name c
  | .error failure => return (.failed failure, failure.lookupEvents ++ [.failed name failure])

/-- The entries of the names in order, and the events of each. -/
def generateEach (resolve : String → Except Failure Class)
    (settings : EmitSettings) (dryRun : Bool) :
    List String → m (List (String × Outcome) × List Event)
  | [] => return ([], [])
  | name :: names => do
    let (outcome, events) ← generateName resolve settings dryRun name
    let (entries, more) ← generateEach resolve settings dryRun names
    return ((name, outcome) :: entries, events ++ more)

def generate (resolve : String → Except Failure Class) (settings : EmitSettings) (dryRun : Bool)
    (names : List String) : m (Report × List Event) := do
  let (entries, events) ← generateEach resolve settings dryRun names
  let report : Report := ⟨entries⟩
  return (report, .processing names.length :: events ++
    [.complete report.written report.skipped report.failed])

/-- Exports the classes that a configuration lists. -/
def generateConfigured (c : Configuration) (dryRun : Bool) :
    ExceptT Failure m (Report × List Event) := do
  let sources ← Setup.classSources (m := m) c
  generate (m := m) (fun name => (ClassSource.chain sources).resolve name)
    c.emitSettings dryRun c.classes

/-- Exports the classes of the configuration that is nearest to the working folder. -/
def generateNearest (env : Environment) : ExceptT Failure m (Report × List Event) := do
  generateConfigured (m := m) (← ConfigurationFile.loadNearest (m := m) env) false

end Generation
end ClassExport
