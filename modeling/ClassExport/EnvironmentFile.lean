import ClassExport.Environment
import ClassExport.Text.Alphanumeric
import ClassExport.Text.Blank

/-!
Files of variables, one `NAME=value` a line. Single quotes keep everything; outside them `$NAME` and
`${NAME}` stand for variables, and a backslash takes the special meaning of the next character away.
-/
namespace ClassExport.EnvironmentFile

/-- Where the reading of a value stands. `quoted` tells whether double quotes are open. -/
inductive State where
  | text (quoted : Bool)
  | literal
  | escaped (quoted : Bool)
  /-- In the name of a variable, which is kept backwards. -/
  | name (quoted braced : Bool) (name : List Char)
  /-- After white space that ended the value. -/
  | ended

def valueOf (env : Environment) (name : List Char) : List Char :=
  ((env.get? (String.ofList name.reverse)).getD "").toList

/-- What an escaped character stands for. -/
def unescape? (c : Char) : Option Char :=
  if c == 'n' then some '\n' else if "\\'\"$ ".toList.contains c then some c else none

/-- The value that a line's text stands for. A character that ends an unbraced name is plain text,
even a quote. -/
def value? (env : Environment) : State → List Char → Option (List Char)
  | .text quoted, [] => if quoted then none else some []
  | .escaped quoted, [] => if quoted then none else some []
  | .name quoted braced name, [] => if quoted || braced then none else some (valueOf env name)
  | .literal, [] => none
  | .ended, [] => some []
  | .ended, c :: cs =>
    if c == ' ' || c == '\t' then value? env .ended cs else if c == '#' then some [] else none
  | .escaped quoted, c :: cs =>
    (unescape? c).bind fun c => (c :: ·) <$> value? env (.text quoted) cs
  | .literal, c :: cs =>
    if c == '\'' then value? env (.text false) cs else (c :: ·) <$> value? env .literal cs
  | .name quoted braced name, c :: cs =>
    if Text.isAlphanumeric c then value? env (.name quoted braced (c :: name)) cs
    else if braced then
      if c == '\x7d' then (valueOf env name ++ ·) <$> value? env (.text quoted) cs
      else value? env (.name quoted braced (c :: name)) cs
    else if c == '\x7b' && name.isEmpty then value? env (.name quoted true []) cs
    else if c == '$' then (valueOf env name ++ ·) <$> value? env (.name quoted false []) cs
    else (valueOf env name ++ c :: ·) <$> value? env (.text quoted) cs
  | .text quoted, c :: cs =>
    if c == '$' then value? env (.name quoted false []) cs
    else if c == '"' then value? env (.text (!quoted)) cs
    else if c == '\\' then value? env (.escaped quoted) cs
    else if c == '\'' && !quoted then value? env .literal cs
    else if (c == ' ' || c == '\t') && !quoted then value? env .ended cs
    else (c :: ·) <$> value? env (.text quoted) cs

/-- The name of a variable at the head of a text, and the text after it and white space. -/
def name? (cs : List Char) : Option (List Char × List Char) :=
  match cs with
  | c :: _ =>
    if c.isAlpha || c == '_' then
      let (name, rest) := cs.span fun c => c.isAlphanum || c == '_' || c == '.'
      some (name, rest.dropWhile Text.isBlank)
    else none
  | [] => none

/-- A name and the text after its equals sign. The word `export` may stand before the name. -/
def assignment? (cs : List Char) : Option (List Char × List Char) := do
  match ← name? cs with
  | (name, '=' :: rest) => return (name, rest)
  | (name, rest) =>
    if name = "export".toList then
      match ← name? rest with
      | (name, '=' :: rest) => return (name, rest)
      | _ => none
    else none

/-- What a line sets: nothing, or a variable to a value. -/
def line? (env : Environment) (line : String) : Option (Option (String × String)) :=
  match Text.trimChars line.toList with
  | [] | '#' :: _ => some none
  | cs => do
    let (name, rest) ← assignment? cs
    let value ← match rest.dropWhile Text.isBlank with
      | [] | '#' :: _ => some []
      | rest => value? env (.text false) rest
    return some (String.ofList name, String.ofList value)

/-- The lines of a file; one that is not text is none. -/
def lines (bytes : ByteArray) : List (Option String) :=
  (bytes.toList.splitOn 10).map fun line => String.fromUTF8? ⟨line.toArray⟩

/-- Sets the variables of the lines up to the first that cannot be read; tells whether all could be.
Variables that were set before keep their values. -/
def load (env : Environment) : List (Option String) → Environment × Bool
  | [] => (env, true)
  | none :: _ => (env, false)
  | some line :: rest =>
    match line? env line with
    | none => (env, false)
    | some none => load env rest
    | some (some (name, value)) => load (env.add name value) rest

end ClassExport.EnvironmentFile
