import ClassExport.Toml.Scalar
import ClassExport.Toml.Text

/-! TOML text to tables. -/
namespace ClassExport.Toml

/-- Reads a value at the head of the text. -/
abbrev ValueReader := List Char → Option (Toml × List Char)

/-- The items of an array after its opening bracket; a comma may stand at the end. -/
def items? (value : ValueReader) : Nat → List Char → Option (List Toml × List Char)
  | 0, _ => none
  | fuel + 1, cs => do
    match ← skipLines? false cs with
    | ']' :: rest => return ([], rest)
    | cs =>
      let (item, rest) ← value cs
      match ← skipLines? false rest with
      | ']' :: rest => return ([item], rest)
      | ',' :: rest =>
        let (items, rest) ← items? value fuel rest
        return (item :: items, rest)
      | _ => none

/-- A key, an equals sign and a value. -/
def pair? (value : ValueReader) (cs : List Char) :
    Option (List String × String × Toml × List Char) := do
  let (path, key, rest) ← key? cs
  let (value, rest) ← value (skipSpace (← expect? '=' rest))
  return (path, key, value, rest)

/-- The pairs of a table in braces, added to `entries`. -/
def pairs? (value : ValueReader) : Nat → Entries → List Char → Option (Entries × List Char)
  | 0, _, _ => none
  | fuel + 1, entries, cs => do
    match ← skipLines? false cs with
    | '\x7d' :: rest => return (entries, rest)
    | cs =>
      let (path, key, value', rest) ← pair? value cs
      let entries ← insert path key value' .inline entries
      match ← skipLines? false rest with
      | '\x7d' :: rest => return (entries, rest)
      | ',' :: rest => pairs? value fuel entries rest
      | _ => none

/-- A value with arrays and tables nested at most `depth` deep. -/
def value? : Nat → ValueReader
  | depth, cs =>
    match cs with
    | '"' :: _ | '\'' :: _ => (string? cs).map fun (text, rest) => (.string text, rest)
    | '[' :: rest =>
      match depth with
      | 0 => none
      | depth + 1 =>
        (items? (value? depth) (rest.length + 1) rest).map fun (items, rest) =>
        (.array items false, rest)
    | '\x7b' :: rest =>
      match depth with
      | 0 => none
      | depth + 1 =>
        (pairs? (value? depth) (rest.length + 1) [] rest).map fun (entries, rest) =>
          (.table .inline entries, rest)
    | cs => scalar? cs

/-- How deep values may be nested. -/
def nestingLimit : Nat := 80

/-- The key of a header after its opening brackets, which `close` repeats. -/
def header? (close : List Char) (cs : List Char) : Option (List String × String × List Char) := do
  let (path, key, rest) ← key? cs
  if close.isPrefixOf rest
    then return (path, key, ← endLine? false (rest.drop close.length)) else none

/-- Reads the lines of a document into `entries`; `current` is the path of the last header. -/
def lines? : Nat → List String → Entries → List Char → Option Entries
  | 0, _, _, _ => none
  | fuel + 1, current, entries, cs => do
    match ← skipLines? false cs with
    | [] => return entries
    | '[' :: '[' :: rest =>
      let (path, key, rest) ← header? [']', ']'] rest
      lines? fuel (path ++ [key]) (← appendTable path key entries) rest
    | '[' :: rest =>
      let (path, key, rest) ← header? [']'] rest
      lines? fuel (path ++ [key]) (← openTable path key entries) rest
    | cs =>
      let (path, key, value, rest) ← pair? (value? nestingLimit) cs
      let entries ← within false (insert path key value) current .header entries
      lines? fuel current entries (← endLine? false rest)

/-- The table of a whole text; a mark of byte order may stand in front. -/
def ofText? (text : String) : Option Entries :=
  let cs := match text.toList with
    | '\ufeff' :: cs => cs
    | cs => cs
  lines? (cs.length + 1) [] [] cs

end ClassExport.Toml
