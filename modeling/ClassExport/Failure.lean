import ClassExport.Json.Value
import ClassExport.Path

/-! What can go wrong, and how each failure is worded. -/
namespace ClassExport

/-- Why the file system refused an operation. -/
inductive DiskFault where
  | notFound
  | alreadyExists
  | notADirectory
  | isADirectory
  | nameTooLong
  | notText
  | nulInPath
  | other (text : String)
deriving DecidableEq, Repr

def DiskFault.message : DiskFault → String
  | .notFound => "No such file or directory (os error 2)"
  | .alreadyExists => "File exists (os error 17)"
  | .notADirectory => "Not a directory (os error 20)"
  | .isADirectory => "Is a directory (os error 21)"
  | .nameTooLong => "File name too long (os error 36)"
  | .notText => "stream did not contain valid UTF-8"
  | .nulInPath => "file name contained an unexpected NUL byte"
  | .other text => text

inductive Failure where
  | io (fault : DiskFault)
  | parse (file : Path) (message : String)
  | source (message : String)
  | json (fault : Json.Fault)
  | toml (message : String)
  | config (message : String)
  | configNotFound (start : Path)
  | variableNotSet (name : String)
  | classNotFound (name : String)
  | ambiguousClass (name : String) (candidates : List String)
  | write (path : Path) (fault : DiskFault)
  | scan (message : String)
  | invalidModifier (keyword : String)
  | pattern (message : String)
deriving DecidableEq, Repr

/-- The name of the configuration file that is looked for. -/
def configFileName : String := "dto2ts.toml"

def Failure.message : Failure → String
  | .io fault => "IO error: " ++ fault.message
  | .parse file message => "Parse error in file " ++ file.text ++ ": " ++ message
  | .source message => "Syn parse error: " ++ message
  | .json fault => "JSON error: " ++ fault.message
  | .toml message => "TOML error: " ++ message
  | .config message => "Configuration error: " ++ message
  | .configNotFound start =>
    configFileName ++ " not found in " ++ start.text ++ " or any parent directory"
  | .variableNotSet name => "Environment variable not set: " ++ name
  | .classNotFound name => "Class not found: " ++ name
  | .ambiguousClass name candidates =>
    "Ambiguous class name " ++ name ++ "; candidates: " ++ ", ".intercalate candidates
  | .write path fault => "Failed to write " ++ path.text ++ ": " ++ fault.message
  | .scan message => "Workspace scan error: " ++ message
  | .invalidModifier keyword => "Invalid modifier: " ++ keyword
  | .pattern message => "Invalid regex pattern: " ++ message

end ClassExport
