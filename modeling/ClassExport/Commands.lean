import ClassExport.CommandLine
import ClassExport.Generation

/-! The commands of the program: what each does and prints. -/
namespace ClassExport

/-- The configuration after the options of the command line, which always win. A relative output
folder is seen from `here`. -/
def Configuration.overridden (c : Configuration) (o : GenerateOptions) (here : Path) :
    Configuration :=
  { c with
    classes := if o.classes.isEmpty then c.classes else o.classes
    outputFolder := match o.outputFolder with
      | some folder =>
        ((Text.nonBlank? folder).map fun folder => (Path.absolute here ⟨folder⟩).text).getD ""
      | none => c.outputFolder
    filePrefix := o.filePrefix.getD c.filePrefix
    fileSuffix := o.fileSuffix.getD c.fileSuffix
    explicitNamespace := o.explicitNamespace.or c.explicitNamespace
    addNamespace := c.addNamespace || o.explicitNamespace.isSome || o.addNamespace
    overwrite := c.overwrite && !o.noOverwrite
    includePrivate := c.includePrivate && !o.publicOnly }

/-- The line of one class in the summary of a run, and in a dry run also the text of its file. -/
def Outcome.summary (name : String) : Outcome → String
  | .written path size =>
    "  * " ++ name ++ " -> " ++ path.text ++ " (" ++ toString size ++ " bytes)\n"
  | .skipped path => "  - " ++ name ++ " -> " ++ path.text ++ " (exists, skipped)\n"
  | .dryRun path content => "  ~ " ++ name ++ " -> " ++ path.text ++ " (dry run)\n" ++ content
  | .failed failure => "  ! " ++ name ++ " failed: " ++ failure.message ++ "\n"

def Report.summary (r : Report) : String :=
  String.join (r.entries.map fun (name, outcome) => outcome.summary name)

namespace Info

/-- A listed class: its qualified name, the class, and whether the configuration selects it. -/
structure Listed where
  name : String
  listed : Class
  selected : Bool

/-- The known classes that their own names resolve to. -/
def listing (c : Configuration) (source : ClassSource) : List Listed :=
  let chosen := c.classes.filterMap fun name => (source.resolve name).toOption
  source.known.filterMap fun name =>
    (source.resolve name).toOption.map fun listed => ⟨name, listed, chosen.contains listed⟩

def fieldLine (f : Field) : String :=
  "      " ++ f.name ++ ": " ++ f.mapped.targetType ++ " " ++ f.mapped.renderedComment

def Listed.lines (l : Listed) (withFields : Bool) : List String :=
  ((if l.selected then "* " else "  ") ++ l.name ++ " (" ++
    toString l.listed.fields.length ++ " fields)") ::
    if withFields then l.listed.fields.map fieldLine else []

def flag (b : Bool) : String := if b then "true" else "false"

def lines (c : Configuration) (source : ClassSource) (withFields : Bool) : List String :=
  ["", "=== Configuration ===", "",
    "Output folder:   " ++ c.emitSettings.outputFolder,
    "Prefix/suffix:   '" ++ c.filePrefix ++ "' / '" ++ c.fileSuffix ++ "'",
    "Overwrite:       " ++ flag c.overwrite,
    "Add namespace:   " ++ flag c.addNamespace,
    "Include private: " ++ flag c.includePrivate,
    "", "=== Classes (" ++ toString source.known.length ++ ") ===", ""] ++
    (listing c source).flatMap (·.lines withFields)

end Info

namespace Commands

open Disk

variable {m : Type → Type} [Monad m] [Disk m]

def loadConfiguration (env : Environment) : Option Path → ExceptT Failure m Configuration
  | some path => ConfigurationFile.load env path
  | none => ConfigurationFile.loadNearest env

/-- What a command prints, and the events of its run. -/
abbrev Printed := String × List Event

/-- Classes that fail are part of what is printed; the command itself does not fail with them. -/
def generate (env : Environment) (config : Option Path) (o : GenerateOptions) :
    ExceptT Failure m Printed := do
  let c ← loadConfiguration (m := m) env config
  let c := c.overridden o (← workingFolder (m := m))
  if c.classes.isEmpty then return ("", [])
  let (report, events) ← Generation.generateConfigured (m := m) c o.dryRun
  return (report.summary, events)

def info (env : Environment) (config : Option Path) (withFields : Bool) :
    ExceptT Failure m Printed := do
  let c ← loadConfiguration (m := m) env config
  let sources ← Setup.classSources (m := m) c
  return (String.join ((Info.lines c (.chain sources) withFields).map (· ++ "\n")), [])

/-- Writes a first configuration file; one that is there is replaced only by force. -/
def init (force : Bool) : ExceptT Failure m Printed := do
  let path := Path.joinName ⟨"."⟩ configFileName
  if !force && (← exists? (m := m) path) then
    throw (.config (configFileName ++ " already exists. Use --force to overwrite."))
  match ← writeFile (m := m) path Configuration.starter with
  | .ok () => return ("", [])
  | .error fault => throw (.io fault)

def run (env : Environment) (i : Invocation) : ExceptT Failure m Printed :=
  match i.command with
  | .generate o => generate env i.config o
  | .init force => init force
  | .info withFields => info env i.config withFields

end Commands
end ClassExport
