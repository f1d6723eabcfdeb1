import ClassExport.Configuration
import ClassExport.Disk
import ClassExport.EnvironmentFile

/-!
Configurations read from files. Before one is read, the variables of the `.env` file beside it are
set; if that file cannot be read to its end, also those of the nearest `.env` file from the working
folder up.
-/
namespace ClassExport.ConfigurationFile

open Disk

variable {m : Type → Type} [Monad m] [Disk m]

/-- The first file of the name in the folder and those above it. -/
def nearest? (name : String) (start : Path) : m (Option Path) :=
  (start.ancestors.map (·.joinName name)).findM? isFile

def find (start : Path) : ExceptT Failure m Path := do
  match ← nearest? (m := m) configFileName start with
  | some path => return path
  | none => throw (.configNotFound start)

def environmentFileName : String := ".env"

/-- Sets the variables of a file; tells whether it could be read to its end. -/
def loadVariables (env : Environment) (p : Path) : m (Environment × Bool) := do
  match ← readFile p with
  | .ok bytes => return EnvironmentFile.load env (EnvironmentFile.lines bytes)
  | .error _ => return (env, false)

def completeEnvironment (env : Environment) (folder : Path) : m Environment := do
  let (env, complete) ← loadVariables env (folder.joinName environmentFileName)
  if complete then return env
  match ← nearest? environmentFileName (← workingFolder) with
  | some path => return (← loadVariables env path).1
  | none => return env

def load (env : Environment) (path : Path) : ExceptT Failure m Configuration := do
  let folder := path.parent?.getD ⟨""⟩
  let env ← completeEnvironment (m := m) env folder
  match ← readText (m := m) path with
  | .ok text => Configuration.ofText env text folder
  | .error fault => throw (.io fault)

/-- The configuration of the file nearest to the working folder. -/
def loadNearest (env : Environment) : ExceptT Failure m Configuration := do
  load env (← find (← workingFolder (m := m)))

end ClassExport.ConfigurationFile
