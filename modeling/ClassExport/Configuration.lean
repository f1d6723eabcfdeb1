import ClassExport.Emission
import ClassExport.Environment
import ClassExport.Toml.Reader

/-!
The configuration of an export. A blank folder, path or part of a file name counts as absent; a
relative path is seen from the directory of the configuration file.
-/
namespace ClassExport

structure Configuration where
  /-- Names of the classes to export, in order. -/
  classes : List String := []
  fileSuffix : String := ""
  filePrefix : String := ""
  outputFolder : String := ""
  overwrite : Bool := true
  addNamespace : Bool := false
  includePrivate : Bool := true
  explicitNamespace : Option String := none
  scanPath : Option String := none
  descriptors : Option String := none
  baseFolder : Path := ⟨"."⟩
deriving DecidableEq, Repr

namespace Configuration

section Decoding

open Toml (Entries get?)

def asString? : Toml → Option String
  | .string text => some text
  | _ => none

def asBool? : Toml → Option Bool
  | .boolean b => some b
  | _ => none

def asStrings? : Toml → Option (List String)
  | .array items _ => items.mapM asString?
  | _ => none

/-- The value of a key of the right kind, or `default` where the key is absent. -/
def setting? (read : Toml → Option α) (entries : Entries) (key : String) (default : α) :
    Option α :=
  match get? entries key with
  | some value => read value
  | none => some default

def optional? (entries : Entries) (key : String) : Option (Option String) :=
  setting? (fun value => some <$> asString? value) entries key none

/-- Where classes come from: a scan path and a descriptor file, by name or by position. -/
def sources? : Toml → Option (Option String × Option String)
  | .table _ entries =>
    do return (← optional? entries "scan_path", ← optional? entries "descriptors")
  | .array items _ =>
    match items with
    | [] => some (none, none)
    | [path] => do return (some (← asString? path), none)
    | path :: file :: _ => do return (some (← asString? path), some (← asString? file))
  | .dateTime => some (none, none)
  | _ => none

/-- Unknown keys are passed over, but their numbers must be in range. -/
def ofEntries? (entries : Entries) : Option Configuration := do
  if !Toml.entriesInRange (-Nat.pow 2 127) (Nat.pow 2 128 - 1) entries then none
  let (scanPath, descriptors) ← setting? sources? entries "source" (none, none)
  return {
    classes := ← setting? asStrings? entries "classes" []
    fileSuffix := ← setting? asString? entries "suffix" ""
    filePrefix := ← setting? asString? entries "prefix" ""
    outputFolder := ← setting? asString? entries "output_folder" ""
    overwrite := ← setting? asBool? entries "overwrite" true
    addNamespace := ← setting? asBool? entries "add_namespace" false
    includePrivate := ← setting? asBool? entries "include_private" true
    explicitNamespace := ← optional? entries "namespace"
    scanPath, descriptors }

end Decoding

def substituteOption (env : Environment) : Option String → Except Failure (Option String)
  | some text => some <$> env.substitute text
  | none => .ok none

/-- Puts values for the references in the six settings that may hold some; the first failure
counts. -/
def substituted (c : Configuration) (env : Environment) : Except Failure Configuration := do
  let outputFolder ← env.substitute c.outputFolder
  let filePrefix ← env.substitute c.filePrefix
  let fileSuffix ← env.substitute c.fileSuffix
  let explicitNamespace ← substituteOption env c.explicitNamespace
  let scanPath ← substituteOption env c.scanPath
  let descriptors ← substituteOption env c.descriptors
  return { c with outputFolder, filePrefix, fileSuffix, explicitNamespace, scanPath, descriptors }

/-- Only the settings in which references are replaced come to be others. -/
theorem eq_of_substituted {c c' : Configuration} {env : Environment}
    (h : c.substituted env = .ok c') :
    c' = { c with
      outputFolder := c'.outputFolder, filePrefix := c'.filePrefix, fileSuffix := c'.fileSuffix,
      explicitNamespace := c'.explicitNamespace, scanPath := c'.scanPath, descriptors :=
        c'.descriptors } := by
  rw [substituted] at h
  simp only [bind, Except.bind] at h
  -- a setting that cannot be substituted ends the whole
  repeat (split at h; · cases h)
  cases h
  rfl

/-- The configuration that a text in the folder `base` describes. -/
def ofText (env : Environment) (text : String) (base : Path) : Except Failure Configuration :=
  match (Toml.ofText? text).bind ofEntries? with
  | some c => { c with baseFolder := base }.substituted env
  | none => .error (.toml "invalid configuration")

/-- A path of the configuration, seen from its folder. -/
def resolve (c : Configuration) (path : String) : Path := c.baseFolder.join ⟨path⟩

/-- The folder whose sources are scanned. -/
def scanRoot (c : Configuration) : Path :=
  match c.scanPath.bind Text.nonBlank? with
  | some path => c.resolve path
  | none => c.baseFolder

def descriptorFile? (c : Configuration) : Option Path :=
  (c.descriptors.bind Text.nonBlank?).map c.resolve

/-- Without an output folder the files go to the working directory. -/
def emitSettings (c : Configuration) : EmitSettings where
  outputFolder :=
    ((Text.nonBlank? c.outputFolder).map fun folder => (c.resolve folder).text).getD ""
  filePrefix := (Text.nonBlank? c.filePrefix).getD ""
  fileSuffix := (Text.nonBlank? c.fileSuffix).getD ""
  overwrite := c.overwrite
  wrapInNamespace := c.addNamespace
  includeNonPublic := c.includePrivate
  explicitNamespace := c.explicitNamespace

/-- The text of a new configuration file. -/
def starter : String := "\n".intercalate [
  "# dto2ts configuration",
  "",
  "# Fully-qualified names of the classes to convert, in order.",
  "classes = []",
  "",
  "# Output file name: <output_folder>/<prefix><lowerFirst(Class)><suffix>.ts",
  "output_folder = \"generated\"",
  "prefix = \"\"",
  "suffix = \"\"",
  "",
  "# Replace files that already exist.",
  "overwrite = true",
  "",
  "# Wrap each class in `namespace <package> \x7b ... \x7d`.",
  "add_namespace = false",
  "# Overrides the package name used for the namespace.",
  "# namespace = \"Api\"",
  "",
  "# Emit fields that are not plainly public.",
  "include_private = true",
  "",
  "[source]",
  "# Rust source tree scanned for struct definitions.",
  "scan_path = \".\"",
  "# Optional JSON file with class descriptors exported from another backend.",
  "# descriptors = \"classes.json\"",
  ""]

end Configuration
end ClassExport
