import ClassExport.Failure

/-! The events that go to the log of a run: what each says, how grave it is, and what tells it. -/
namespace ClassExport

inductive Level where
  | info
  | warning
  | error
deriving DecidableEq, Repr

def Level.text : Level → String
  | .info => "INFO"
  | .warning => "WARN"
  | .error => "ERROR"

/-- What tells an event: the search for a class, or the generation that asked for it. -/
inductive Origin where
  | resolver
  | generator
deriving DecidableEq, Repr

inductive Event where
  /-- A registry has more than one class for the name. -/
  | ambiguous (name : String)
  | processing (count : Nat)
  | converting (name : String) (path : Path)
  | existing (path : Path)
  | failed (name : String) (failure : Failure)
  | complete (written skipped failed : Nat)
deriving DecidableEq, Repr

namespace Event

def origin : Event → Origin
  | .ambiguous _ => .resolver
  | _ => .generator

def level : Event → Level
  | .ambiguous _ => .warning
  | .failed .. => .error
  | _ => .info

def isError (e : Event) : Bool := e.level = .error

def message : Event → String
  | .ambiguous _ => "Ambiguous class name; use the fully-qualified name"
  | .processing count => "Processing " ++ toString count ++ " classes to TypeScript"
  | .converting name path => "Converting class " ++ name ++ " to " ++ path.text
  | .existing _ => "Ignored, already exists"
  | .failed .. => "Failed to convert class"
  | .complete done kept lost =>
    "Generation complete: " ++ toString done ++ " written, " ++ toString kept ++ " skipped, " ++
      toString lost ++ " failed"

/-- What an event tells beside its message. -/
def details : Event → List (String × String)
  | .ambiguous name => [("class", name)]
  | .existing path => [("path", path.text)]
  | .failed name failure => [("class", name), ("error", failure.message)]
  | _ => []

end Event

/-- The events of a search for a class that comes to a failure. -/
def Failure.lookupEvents : Failure → List Event
  | .ambiguousClass name _ => [.ambiguous name]
  | _ => []

end ClassExport
