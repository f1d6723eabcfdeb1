import ClassExport.Path

/-!
Command lines. Options come as `--name value`, `--name=value`, `-n value`, `-nvalue` or `-n=value`,
and short ones without a value can be joined. A value that begins with a dash needs one of the
joined forms.
-/
namespace ClassExport

/-- What the options of the generate command override. -/
structure GenerateOptions where
  classes : List String := []
  outputFolder : Option String := none
  filePrefix : Option String := none
  fileSuffix : Option String := none
  explicitNamespace : Option String := none
  addNamespace : Bool := false
  noOverwrite : Bool := false
  publicOnly : Bool := false
  dryRun : Bool := false
deriving DecidableEq, Repr

inductive Command where
  | generate (options : GenerateOptions)
  | init (force : Bool)
  | info (fields : Bool)
deriving DecidableEq, Repr

structure Invocation where
  config : Option Path
  verbosity : Nat
  quiet : Bool
  command : Command
deriving DecidableEq, Repr

/-- What a command line asks for. -/
inductive Request where
  | help
  | version (command : Option String)
  | run (invocation : Invocation)
deriving DecidableEq, Repr

namespace CommandLine

inductive OptionName where
  | config
  | verbose
  | quiet
  | help
  | version
  | classes
  | outputFolder
  | filePrefix
  | fileSuffix
  | explicitNamespace
  | addNamespace
  | noOverwrite
  | publicOnly
  | dryRun
  | force
  | fields
deriving DecidableEq, Repr

namespace OptionName

def long : OptionName → String
  | config => "config"
  | verbose => "verbose"
  | quiet => "quiet"
  | help => "help"
  | version => "version"
  | classes => "class"
  | outputFolder => "output-folder"
  | filePrefix => "prefix"
  | fileSuffix => "suffix"
  | explicitNamespace => "namespace"
  | addNamespace => "add-namespace"
  | noOverwrite => "no-overwrite"
  | publicOnly => "public-only"
  | dryRun => "dry-run"
  | force => "force"
  | fields => "fields"

def short? : OptionName → Option Char
  | config => some 'c'
  | verbose => some 'v'
  | quiet => some 'q'
  | help => some 'h'
  | version => some 'V'
  | outputFolder => some 'o'
  | force => some 'f'
  | _ => none

def takesValue : OptionName → Bool
  | config | classes | outputFolder | filePrefix | fileSuffix | explicitNamespace => true
  | _ => false

def isRepeatable : OptionName → Bool
  | verbose | classes => true
  | _ => false

/-- Options that every command takes, and that may also stand before it. -/
def everywhere : List OptionName := [config, verbose, quiet, help, version]

end OptionName

def helpCommand : String := "help"

/-- The commands with options of their own. -/
def commandOptions : List (String × List OptionName) := [
  ("generate", [.classes, .outputFolder, .filePrefix, .fileSuffix,
    .explicitNamespace, .addNamespace, .noOverwrite, .publicOnly, .dryRun]),
  ("init", [.force]),
  ("info", [.fields])]

/-- Why the reading of a command line ends early. -/
inductive Halt where
  | usage
  | help
  | version
deriving DecidableEq, Repr

/-- The options read so far, the last one first. The pending one waits for its value, or to be
counted: an option with a value of its own counts only when the next one comes. -/
structure Reading where
  options : List (OptionName × String) := []
  pending : Option (OptionName × Option String) := none
deriving Repr

namespace Reading

def has (r : Reading) (o : OptionName) : Bool := r.options.any (·.1 = o)

def values (r : Reading) (o : OptionName) : List String :=
  (r.options.reverse.filter (·.1 = o)).map (·.2)

def value? (r : Reading) (o : OptionName) : Option String := (r.values o).head?

def awaits (r : Reading) : Bool :=
  match r.pending with
  | some (_, none) => true
  | _ => false

/-- Counts an option. Most may come once, and the path of a configuration is not empty. -/
def record (r : Reading) (o : OptionName) (value : String) : Except Halt Reading :=
  if o = .config ∧ value = "" ∨ !o.isRepeatable ∧ r.has o then .error .usage
  else .ok { r with options := (o, value) :: r.options }

def settle (r : Reading) : Except Halt Reading :=
  match r.pending with
  | none => .ok r
  | some (_, none) => .error .usage
  | some (o, some value) => { r with pending := none }.record o value

def await (r : Reading) (o : OptionName) : Except Halt Reading := do
  return { ← r.settle with pending := some (o, none) }

def attach (r : Reading) (o : OptionName) (value : String) : Except Halt Reading := do
  (← r.settle).record o value

/-- Takes an option that has no value. -/
def raise (r : Reading) (o : OptionName) : Except Halt Reading := do
  let r ← r.settle
  match o with
  | .help => .error .help
  | .version => .error .version
  | o => r.record o ""

/-- An option after its two dashes. -/
def readLong (known : List OptionName) (r : Reading) (text : List Char) : Except Halt Reading :=
  let (name, rest) := text.span (· != '=')
  match known.find? (·.long = String.ofList name), rest with
  | none, _ => .error .usage
  | some o, [] => if o.takesValue then r.await o else r.raise o
  | some o, _ :: value => if o.takesValue then r.attach o (String.ofList value) else .error .usage

/-- Short options after their dash. -/
def readShort (known : List OptionName) (r : Reading) : List Char → Except Halt Reading
  | [] => .ok r
  | c :: cs =>
    match known.find? (·.short? = some c) with
    | none => .error .usage
    | some o =>
      if o.takesValue then
        match cs with
        | [] => r.await o
        | '=' :: value => r.attach o (String.ofList value)
        | value => r.attach o (String.ofList value)
      else do readShort known (← r.raise o) cs

/-- Anything that is neither option nor command must be a value that an option waits for. -/
def readValue (r : Reading) (text : String) : Except Halt Reading :=
  match r.pending with
  | some (o, none) => .ok { r with pending := some (o, some text) }
  | _ => .error .usage

/-- Reads one argument. -/
def read (known : List OptionName) (r : Reading) (arg : String) : Except Halt Reading :=
  match arg.toList with
  | '-' :: '-' :: text => r.readLong known text
  | '-' :: c :: text => r.readShort known (c :: text)
  | _ => r.readValue arg

end Reading

/-- Reads options up to the first of the given commands; gives it with the arguments after it. -/
def readOptions (known : List OptionName) (commands : List String) (r : Reading) :
    List String → Except Halt (Reading × Option (String × List String))
  | [] => .ok (r, none)
  | arg :: args =>
    if !r.awaits && commands.contains arg then .ok (r, some (arg, args))
    else if arg = "--" then if args.isEmpty then .ok (r, none) else .error .usage
    else do readOptions known commands (← r.read known arg) args

def command? (name : String) (r : Reading) : Option Command :=
  if name = "generate" then
    some (.generate {
      classes := r.values .classes
      outputFolder := r.value? .outputFolder
      filePrefix := r.value? .filePrefix
      fileSuffix := r.value? .fileSuffix
      explicitNamespace := r.value? .explicitNamespace
      addNamespace := r.has .addNamespace
      noOverwrite := r.has .noOverwrite
      publicOnly := r.has .publicOnly
      dryRun := r.has .dryRun })
  else if name = "init" then some (.init (r.has .force))
  else if name = "info" then some (.info (r.has .fields))
  else none

/-- The invocation of a command. The nearest option counts, and `fallback` stands in where a
configuration is not given; it must not be empty where it does. -/
def invocation? (fallback : Option String) (before after : Reading) (name : String) :
    Option Invocation := do
  let before ← before.settle.toOption
  let after ← after.settle.toOption
  if fallback = some "" && !(before.has .config && after.has .config) then none
  let config := ((after.value? .config).or (before.value? .config)).or fallback
  let verbosity := if after.has .verbose then (after.values .verbose).length
    else (before.values .verbose).length
  return {
    config := config.map Path.mk
    verbosity
    quiet := before.has .quiet || after.has .quiet
    command := ← command? name after }

/-- Help is given for the program and for each of its commands. -/
def help? : List String → Option Request
  | [] => some .help
  | [name] => if name = helpCommand || (commandOptions.lookup name).isSome then some .help else none
  | _ => none

def halted? (command : Option String) : Halt → Option Request
  | .usage => none
  | .help => some .help
  | .version => some (.version command)

/-- What the arguments after the program's name ask for, or nothing when they are wrong. -/
def request? (fallback : Option String) (args : List String) : Option Request :=
  match readOptions OptionName.everywhere (helpCommand :: commandOptions.map (·.1)) {} args with
  | .error halt => halted? none halt
  | .ok (_, none) => none
  | .ok (before, some (name, args)) =>
    match commandOptions.lookup name with
    | none => help? args
    | some own =>
      match readOptions (OptionName.everywhere ++ own) [] {} args with
      | .error halt => halted? (some name) halt
      | .ok (after, _) => (invocation? fallback before after name).map .run

end CommandLine

def programName : String := "dto2ts"

def versionText (command : Option String) : String :=
  programName ++ ((command.map ("-" ++ ·)).getD "") ++ " 0.1.0\n"

end ClassExport
