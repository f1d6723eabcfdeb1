import ClassExport.Failure

/-!
Environment variables, and references to them in settings: `${NAME}`, and `${NAME:-default}` for
when the variable is not set.
-/
namespace ClassExport

/-- Of two values of one name the first counts, so a variable that is set cannot be set again. -/
structure Environment where
  bindings : List (String × String)
deriving DecidableEq, Repr

namespace Environment

def get? (env : Environment) (name : String) : Option String := env.bindings.lookup name

def add (env : Environment) (name value : String) : Environment :=
  ⟨env.bindings ++ [(name, value)]⟩

end Environment

structure Reference where
  name : String
  default : Option String
deriving DecidableEq, Repr

namespace Reference

def written (r : Reference) : List Char :=
  "$\x7b".toList ++ r.name.toList ++
    ((r.default.map fun d => ":-".toList ++ d.toList).getD []) ++ ['\x7d']

/-- A default, after the colon that follows the name. -/
def default? : List Char → Option String
  | '-' :: cs =>
    let (value, rest) := cs.span (· != '\x7d')
    if rest.isEmpty then none else some (String.ofList value)
  | _ => none

/-- The reference at the head of a text. A name holds neither a colon nor a closing brace. -/
def atHead? : List Char → Option Reference
  | '$' :: '\x7b' :: cs =>
    match cs.span fun c => c != '\x7d' && c != ':' with
    | ([], _) => none
    | (name, '\x7d' :: _) => some ⟨String.ofList name, none⟩
    | (name, ':' :: rest) => (default? rest).map fun value => ⟨String.ofList name, some value⟩
    | _ => none
  | _ => none

/-- Skips `k` characters, then finds every reference from the left; none lies inside another. -/
def allFrom : Nat → List Char → List Reference
  | _, [] => []
  | k + 1, _ :: cs => allFrom k cs
  | 0, c :: cs =>
    match atHead? (c :: cs) with
    | some r => r :: allFrom (r.written.length - 1) cs
    | none => allFrom 0 cs

/-- The references of a text, from the left. -/
def all (text : String) : List Reference := allFrom 0 text.toList

def value (r : Reference) (env : Environment) : Except Failure String :=
  match (env.get? r.name).or r.default with
  | some value => .ok value
  | none => .error (.variableNotSet r.name)

end Reference

/-- Puts values for the references of a text, one reference after another: wherever the text made so
far holds the reference as it is written, its value takes the place. -/
def Environment.substitute (env : Environment) (text : String) : Except Failure String :=
  String.ofList <$> (Reference.all text).foldlM (fun result r => do
    return Text.replaceChars r.written (← r.value env).toList result) text.toList

end ClassExport
