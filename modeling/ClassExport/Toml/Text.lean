import ClassExport.Text.Hex

/-! Strings, keys and white space of TOML. -/
namespace ClassExport.Toml

def isSpace (c : Char) : Bool := c == ' ' || c == '\t'

/-- What may stand in a comment or a string: no control character but the tab. -/
def isTextChar (c : Char) : Bool := c == '\t' || (0x20 ≤ c.toNat && c.toNat != 0x7f)

def skipSpace (cs : List Char) : List Char := cs.dropWhile isSpace

/-- Skips white space, line ends and comments. -/
def skipLines? (inComment : Bool) : List Char → Option (List Char)
  | [] => some []
  | '\n' :: cs | '\r' :: '\n' :: cs => skipLines? false cs
  | c :: cs =>
    if inComment then if isTextChar c then skipLines? true cs else none
    else if c == '#' then skipLines? true cs
    else if isSpace c then skipLines? false cs
    else some (c :: cs)

/-- The text after the end of the line, which only white space and a comment may precede. -/
def endLine? (inComment : Bool) : List Char → Option (List Char)
  | [] => some []
  | '\n' :: cs | '\r' :: '\n' :: cs => some cs
  | c :: cs =>
    if inComment then if isTextChar c then endLine? true cs else none
    else if c == '#' then endLine? true cs
    else if isSpace c then endLine? false cs
    else none

/-- A character given by its number in a fixed count of digits. -/
def numbered? (count : Nat) (cs : List Char) : Option (Char × List Char) :=
  let digits := cs.take count
  if digits.length < count || digits.contains '_' then none
  else (Text.digitsValue? 16 digits).bind fun n =>
    if n.isValidChar then some (Char.ofNat n, cs.drop count) else none

/-- An escape after its backslash. -/
def escape? : List Char → Option (Char × List Char)
  | 'b' :: cs => some ('\x08', cs)
  | 't' :: cs => some ('\t', cs)
  | 'n' :: cs => some ('\n', cs)
  | 'f' :: cs => some ('\x0c', cs)
  | 'r' :: cs => some ('\r', cs)
  | 'e' :: cs => some ('\x1b', cs)
  | '"' :: cs => some ('"', cs)
  | '\\' :: cs => some ('\\', cs)
  | 'x' :: cs => numbered? 2 cs
  | 'u' :: cs => numbered? 4 cs
  | 'U' :: cs => numbered? 8 cs
  | _ => none

/-- Skips white space and line ends. -/
def skipBlank : List Char → List Char
  | '\r' :: '\n' :: cs => skipBlank cs
  | c :: cs => if isSpace c || c == '\n' then skipBlank cs else c :: cs
  | [] => []

/-- The text after a backslash at the end of a line, the white space before the next text left
out. -/
def continued? (cs : List Char) : Option (List Char) :=
  match skipSpace cs with
  | '\n' :: rest | '\r' :: '\n' :: rest => some (skipBlank rest)
  | _ => none

/-- The quotes that end a string of several lines, with those of them that belong to it. -/
def closing? (quote : Char) (cs : List Char) : Option (List Char × List Char) :=
  let count := (cs.takeWhile (· == quote)).length
  if count < 3 then none
  else
    let own := min (count - 3) 2
    some (List.replicate own quote, cs.drop (own + 3))

/-- What ends a string at the head of the text, and the part of it that belongs to the string. -/
def ending? (quote : Char) (multiline : Bool) (cs : List Char) : Option (List Char × List Char) :=
  if multiline then closing? quote cs
  else match cs with
    | c :: rest => if c == quote then some ([], rest) else none
    | [] => none

/-- The characters of a string and the text after it; `quote` tells whether it has escapes. -/
def stringChars (quote : Char) (multiline : Bool) :
    Nat → List Char → Option (List Char × List Char)
  | 0, _ => none
  | fuel + 1, cs =>
    match ending? quote multiline cs with
    | some result => some result
    | none =>
      let more (c : Char) (rest : List Char) : Option (List Char × List Char) :=
        (stringChars quote multiline fuel rest).map fun (cs, after) => (c :: cs, after)
      match cs with
      | [] => none
      | '\r' :: '\n' :: rest =>
        if multiline then (more '\n' rest).map fun (cs, after) => ('\r' :: cs, after) else none
      | c :: rest =>
        if c == '\\' && quote == '"' then
          match escape? rest with
          | some (c, rest) => more c rest
          | none =>
            if multiline then (continued? rest).bind (stringChars quote multiline fuel) else none
        else if isTextChar c || (multiline && c == '\n') then more c rest
        else none

/-- A string, its opening quotes included. A line end right after three quotes does not count. -/
def string? (cs : List Char) : Option (String × List Char) :=
  let read (quote : Char) (multiline : Bool) (cs : List Char) : Option (String × List Char) :=
    (stringChars quote multiline (cs.length + 1) cs).map fun (cs, after) =>
      (String.ofList cs, after)
  let lines (quote : Char) : List Char → Option (String × List Char)
    | '\n' :: cs | '\r' :: '\n' :: cs => read quote true cs
    | cs => read quote true cs
  match cs with
  | '"' :: '"' :: '"' :: cs => lines '"' cs
  | '\'' :: '\'' :: '\'' :: cs => lines '\'' cs
  | '"' :: cs => read '"' false cs
  | '\'' :: cs => read '\'' false cs
  | _ => none

def isBareKeyChar (c : Char) : Bool := c.isAlphanum || c == '_' || c == '-'

/-- One part of a key; quotes make a key of any text of one line. -/
def keyPart? (cs : List Char) : Option (String × List Char) :=
  match cs with
  | '"' :: '"' :: '"' :: _ | '\'' :: '\'' :: '\'' :: _ => none
  | '"' :: _ | '\'' :: _ => string? cs
  | cs =>
    match cs.span isBareKeyChar with
    | ([], _) => none
    | (key, rest) => some (String.ofList key, rest)

def keyParts? : Nat → List Char → Option (List String × List Char)
  | 0, _ => none
  | fuel + 1, cs => do
    let (part, rest) ← keyPart? (skipSpace cs)
    match skipSpace rest with
    | '.' :: rest =>
      let (parts, rest) ← keyParts? fuel rest
      return (part :: parts, rest)
    | rest => return ([part], rest)

/-- A key with dots: the path before its last part, that part, and the text after it and white
space. -/
def key? (cs : List Char) : Option (List String × String × List Char) := do
  let (parts, rest) ← keyParts? (cs.length + 1) cs
  return (parts.dropLast, ← parts.getLast?, rest)

end ClassExport.Toml
