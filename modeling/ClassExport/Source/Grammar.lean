import ClassExport.Source.Grammar.Statement
import ClassExport.Source.Lexer

/-!
The grammar as a whole: the rules call one another to a depth that the number of tokens bounds.
-/
namespace ClassExport.Source

/-- One rule, whose parts `call` reads. -/
def readRule (call : Calls) : {α : Type} → Rule α → Reader α
  | _, .type plus => readType call plus
  | _, .bound captureAllowed markAllowed => readBound call captureAllowed markAllowed
  | _, .unary braces => readUnary call braces
  | _, .climb braces left base => readClimb call braces left base
  | _, .early => readEarly call
  | _, .pattern => readPattern call
  | _, .statements => readStatements call
  | _, .useTree root => readUseTree call root
  | _, .fields => readFields call
  | _, .item => readItem call

def readWithin : Nat → Calls
  | 0 => fun _ _ => Reader.refuse
  | depth + 1 => fun _ rule => readRule (readWithin depth) rule

/-- Between two tokens fewer than sixteen rules are entered. -/
def depthFor (ts : List Token) : Nat := 16 * (ts.length + 1)

/-- What `r` makes of all of the tokens. -/
def readAll (r : Calls → Reader α) (ts : List Token) : Option α :=
  match r (readWithin (depthFor ts)) ts with
  | some (a, []) => some a
  | _ => none

/-- A first line that begins like a script's is no part of a file, unless it begins an attribute. -/
def dropScriptLine (cs : List Char) : List Char :=
  match cs with
  | '#' :: '!' :: rest => if (skipTrivia rest).head? = some '[' then cs else lineRest cs
  | _ => cs

/-- The items of a file. -/
def items? (text : String) : Option (List Item) := do
  let ts ← tokens? (dropScriptLine (dropByteOrderMark text.toList))
  readAll (fun call => innerAttributes call *> Reader.toEnd (call .item)) ts

/-- A type alone. -/
def type? (text : String) : Option TypeSyntax := do
  let ts ← tokens? text.toList
  readAll (fun call => TypeRead.type <$> call (.type true)) ts

end ClassExport.Source
