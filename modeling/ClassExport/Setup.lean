import ClassExport.ClassSource
import ClassExport.ConfigurationFile
import ClassExport.Scan

/-! The sources of classes that a configuration names. -/
namespace ClassExport.Setup

open Disk

variable {m : Type → Type} [Monad m] [Disk m]

def loadDescriptors (file : Path) : ExceptT Failure m Registry := do
  match ← readText (m := m) file with
  | .error fault => throw (.io fault)
  | .ok text =>
    match Registry.ofJsonText text with
    | .ok registry => return registry
    | .error failure => throw (.parse file failure.message)

/-- The descriptor file comes first; sources are scanned where a scan path is set, and where no
descriptors are. -/
def classSources (c : Configuration) : ExceptT Failure m (List ClassSource) := do
  let described ← match c.descriptorFile? with
    | some file => pure [ClassSource.registry (← loadDescriptors file)]
    | none => pure []
  let scanned ←
    if c.scanPath.isSome || c.descriptors.isNone
      then pure [ClassSource.registry (← Scan.scan c.scanRoot)]
    else pure []
  return described ++ scanned

end ClassExport.Setup
