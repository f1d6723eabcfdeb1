import ClassExport.Proofs.Repetition

/-!
The report of a run and its log. A run, dry or real, comes to one entry for each name, and the log
can be told from the report alone: the lines of the generator, and before those of a name the
warning of the registry that has more than one class for it.
-/
namespace ClassExport

open Disk Generation

variable {w : Workspace} {name : String} {source : ClassSource}
  {settings : EmitSettings} {dryRun : Bool} {failure : Failure}

/-- What the log shows of an event. -/
structure Line where
  origin : Origin
  level : Level
  message : String
  details : List (String × String) := []
deriving DecidableEq, Repr

def Event.line (e : Event) : Line := ⟨e.origin, e.level, e.message, e.details⟩

namespace Line

def ambiguous (name : String) : Line where
  origin := .resolver
  level := .warning
  message := "Ambiguous class name; use the fully-qualified name"
  details := [("class", name)]

def processing (count : Nat) : Line where
  origin := .generator
  level := .info
  message := "Processing " ++ toString count ++ " classes to TypeScript"

def converting (name : String) (path : Path) : Line where
  origin := .generator
  level := .info
  message := "Converting class " ++ name ++ " to " ++ path.text

def ignored (path : Path) : Line where
  origin := .generator
  level := .info
  message := "Ignored, already exists"
  details := [("path", path.text)]

def lost (name : String) (failure : Failure) : Line where
  origin := .generator
  level := .error
  message := "Failed to convert class"
  details := [("class", name), ("error", failure.message)]

def complete (written skipped failed : Nat) : Line where
  origin := .generator
  level := .info
  message := "Generation complete: " ++ toString written ++ " written, " ++ toString skipped ++
    " skipped, " ++ toString failed ++ " failed"

end Line

/-- The generator's lines of a name, by what it came to. A class that is not resolved has no path
to tell of. -/
def Outcome.lines (name : String) : Outcome → List Line
  | .written path _ => [.converting name path]
  | .dryRun path _ => [.converting name path]
  | .skipped path => [.converting name path, .ignored path]
  | .failed (.write path fault) => [.converting name path, .lost name (.write path fault)]
  | .failed failure => [.lost name failure]

/-- The generator's lines that tell a report: its size, the entries in order, and the counts. -/
def Report.lines (r : Report) : List Line :=
  .processing r.entries.length :: r.entries.flatMap (fun (name, outcome) => outcome.lines name) ++
    [.complete r.written r.skipped r.failed]

/-- The events of a search, told from its answer. -/
def searchEvents : Except Failure Class → List Event
  | .ok _ => []
  | .error failure => failure.lookupEvents

theorem Registry.events_lookup (r : Registry) (name : String) :
    (r.lookup name).events = searchEvents (r.resolve name) := by
  rw [resolve, lookup]
  dsimp only
  cases r.find? (ClassName.normalize name) with
  | some c => rfl
  | none =>
    dsimp only
    split
    · rfl
    · rcases r.endingWith (ClassName.tail (ClassName.normalize name)) with _ |
        ⟨c, _ | ⟨d, cs⟩⟩ <;> rfl

namespace ClassSource

mutual

/-- A source tells of a name only what its answer shows: those that miss the class have nothing to
tell. -/
theorem events_lookup (name : String) : ∀ source : ClassSource,
    (source.lookup name).events = searchEvents (source.resolve name)
  | .registry r => r.events_lookup name
  | .chain sources => events_lookupFirst name sources

theorem events_lookupFirst (name : String) : ∀ sources : List ClassSource,
    (lookupFirst name sources).events = searchEvents (resolveFirst name sources)
  | [] => rfl
  | s :: rest => by
    have hs := events_lookup name s
    have hrest := events_lookupFirst name rest
    rw [resolve] at hs
    rw [resolveFirst, lookupFirst]
    dsimp only
    split
    · rename_i n hn
      rw [hn] at hs
      dsimp only
      rw [hs, hrest]
      rfl
    · exact hs

end

end ClassSource

namespace Report

variable (r : Report)

end Report

/-! Runs. -/

end ClassExport
