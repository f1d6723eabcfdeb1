import ClassExport.Text.Blank

/-! White space and comments between tokens. -/
namespace ClassExport.Source

/-- The left-to-right and right-to-left marks count as white space too. -/
def isSourceSpace (c : Char) : Bool := Text.isBlank c || c == '\u200e' || c == '\u200f'

/-- The text after a block comment; comments nest. -/
def afterBlockComment? : Nat → List Char → Option (List Char)
  | _, [] => none
  | depth, '/' :: '*' :: cs => afterBlockComment? (depth + 1) cs
  | 0, '*' :: '/' :: cs => afterBlockComment? 0 cs
  | 1, '*' :: '/' :: cs => some cs
  | depth + 2, '*' :: '/' :: cs => afterBlockComment? (depth + 1) cs
  | depth, _ :: cs => afterBlockComment? depth cs

def lineRest (cs : List Char) : List Char := cs.dropWhile (· != '\n')

/-- Three slashes or `//!` make a documentation comment, four slashes do not. -/
def isPlainLineComment : List Char → Bool
  | '/' :: '/' :: '/' :: '/' :: _ => true
  | '/' :: '/' :: '/' :: _ | '/' :: '/' :: '!' :: _ => false
  | '/' :: '/' :: _ => true
  | _ => false

def isPlainBlockComment : List Char → Bool
  | '/' :: '*' :: '*' :: '*' :: _ | '/' :: '*' :: '*' :: '/' :: _ => true
  | '/' :: '*' :: '*' :: _ | '/' :: '*' :: '!' :: _ => false
  | '/' :: '*' :: _ => true
  | _ => false

def skipTriviaWithin : Nat → List Char → List Char
  | 0, cs => cs
  | fuel + 1, cs =>
    match cs with
    | [] => []
    | c :: rest =>
      if isPlainLineComment cs then skipTriviaWithin fuel (lineRest cs)
      else if isPlainBlockComment cs then
        match afterBlockComment? 0 cs with
        | some rest => skipTriviaWithin fuel rest
        | none => cs
      else if isSourceSpace c then skipTriviaWithin fuel rest
      else cs

/-- The text from the next token or documentation comment on. -/
def skipTrivia (cs : List Char) : List Char := skipTriviaWithin (cs.length + 1) cs

/-- A carriage return in a documentation comment must end a line. -/
def hasBareReturn : List Char → Bool
  | [] => false
  | '\r' :: '\n' :: cs => hasBareReturn cs
  | '\r' :: _ => true
  | _ :: cs => hasBareReturn cs

/-- The content of a line comment, without the carriage return before the line feed. -/
def lineContent : List Char → List Char
  | [] | '\n' :: _ | '\r' :: '\n' :: _ => []
  | c :: cs => c :: lineContent cs

structure DocComment where
  inner : Bool
  rest : List Char

def blockDoc? (inner : Bool) (cs : List Char) : Option DocComment :=
  match afterBlockComment? 0 cs with
  | some rest =>
    if hasBareReturn (cs.take (cs.length - rest.length)) then none else some ⟨inner, rest⟩
  | none => none

def lineDoc? (inner : Bool) (cs : List Char) : Option DocComment :=
  if hasBareReturn (lineContent cs) then none else some ⟨inner, cs.drop (lineContent cs).length⟩

/-- A documentation comment at the head of the text. -/
def docComment? (cs : List Char) : Option DocComment :=
  match cs with
  | '/' :: '/' :: '!' :: rest => lineDoc? true rest
  | '/' :: '*' :: '!' :: _ => blockDoc? true cs
  | '/' :: '/' :: '/' :: '/' :: _ => none
  | '/' :: '/' :: '/' :: rest => lineDoc? false rest
  | '/' :: '*' :: '*' :: '*' :: _ => none
  | '/' :: '*' :: '*' :: _ => blockDoc? false cs
  | _ => none

end ClassExport.Source
