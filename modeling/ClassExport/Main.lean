import ClassExport.Commands

/-!
The program: files of the machine, the variables of its environment, and what goes to its outputs.
-/
namespace ClassExport.Program

def faultOf : IO.Error → DiskFault
  | .noFileOrDirectory .. => .notFound
  | .alreadyExists .. => .alreadyExists
  | .inappropriateType _ code _ => if code = 21 then .isADirectory else .notADirectory
  | .invalidArgument _ 36 _ => .nameTooLong
  | e => .other (toString e)

/-- Runs an action on a path that the machine can be asked for. -/
def onPath (p : Path) (act : IO α) : IO (Except DiskFault α) := do
  if p.text.toList.contains '\x00' then return .error .nulInPath
  if p.text = "" then return .error .notFound
  try return .ok (← act) catch e => return .error (faultOf e)

def kindIn? (p : Path) (metadata : IO IO.FS.Metadata) : IO (Option NodeKind) := do
  let found ← onPath p do return (← metadata).type
  return match found with
    | .ok .file => some .file
    | .ok .dir => some .folder
    | _ => none

/-- What a path leads to, through links as well. -/
def kindAt? (p : Path) : IO (Option NodeKind) := do
  kindIn? p ((← IO.currentDir) / p.text).metadata

/-- What a path names itself; a link is neither a file nor a folder. -/
def ownKindAt? (p : Path) : IO (Option NodeKind) := do
  kindIn? p ((← IO.currentDir) / p.text).symlinkMetadata

/-- The files below a folder; a folder that cannot be read holds none, and links are not
followed. -/
partial def filesUnder (enter : String → Bool) (folder : Path) : IO (List (List String)) := do
  let here ← IO.currentDir
  let names ← try pure ((← (here / folder.text).readDir).toList.map (·.fileName))
    catch _ => pure []
  let found ← names.mapM fun name => do
    match ← ownKindAt? (folder.joinName name) with
    | some .file => return [[name]]
    | some .folder =>
      if enter name then return (← filesUnder enter (folder.joinName name)).map (name :: ·)
        else return []
    | none => return []
  return found.flatten

instance : Disk IO where
  workingFolder := return ⟨(← IO.currentDir).toString⟩
  kind? := kindAt?
  readFile p := onPath p (IO.FS.readBinFile p.text)
  makeFolder p := onPath p (IO.FS.createDir p.text)
  writeFile p text := onPath p (IO.FS.writeFile p.text text)
  filesBelow := filesUnder

/-- A variable, written with an equals sign after its name. -/
def variableOf? (entry : List UInt8) : Option (String × String) := do
  let text ← String.fromUTF8? ⟨entry.toArray⟩
  let (name, value) := text.toList.span (· != '=')
  return (String.ofList name, String.ofList value.tail)

/-- The system keeps the variables of a running program in a file of its own. -/
def environment : IO Environment := do
  let bytes ← try IO.FS.readBinFile "/proc/self/environ" catch _ => pure ⟨#[]⟩
  return ⟨((bytes.toList.splitOn 0).filter (!·.isEmpty)).filterMap variableOf?⟩

def configVariable : String := "DTO2TS_CONFIG"

def optionText (o : CommandLine.OptionName) : String :=
  "--" ++ o.long ++ (if o.takesValue then " <VALUE>" else "")

def helpText : String :=
  "Usage: " ++ programName ++ " [OPTIONS] <COMMAND>\n\nCommands:\n" ++
    String.join (CommandLine.commandOptions.map fun (name, options) =>
      "  " ++ name ++ " " ++ " ".intercalate (options.map optionText) ++ "\n") ++
    "\nOptions:\n  " ++ " ".intercalate (CommandLine.OptionName.everywhere.map optionText) ++ "\n"

def logLine (e : Event) : String :=
  e.level.text ++ " " ++ e.message ++
    String.join (e.details.map fun (name, value) => " " ++ name ++ "=" ++ value)

def runInvocation (env : Environment) (i : Invocation) : IO UInt32 := do
  match ← (Commands.run (m := IO) env i).run with
  | .ok (text, events) =>
    for e in events do
      if e.isError || !i.quiet then IO.eprintln (logLine e)
    IO.print text
    return 0
  | .error failure =>
    IO.eprintln failure.message
    return 1

def runArguments (args : List String) : IO UInt32 := do
  let env ← environment
  match CommandLine.request? (env.get? configVariable) args with
  | none =>
    IO.eprint helpText
    return 2
  | some .help =>
    IO.print helpText
    return 0
  | some (.version command) =>
    IO.print (versionText command)
    return 0
  | some (.run invocation) => runInvocation env invocation

end ClassExport.Program

def main (args : List String) : IO UInt32 := ClassExport.Program.runArguments args
