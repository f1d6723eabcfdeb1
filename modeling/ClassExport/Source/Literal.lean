import ClassExport.Text.Hex
import ClassExport.Text.Identifier

/-!
Literals of Rust source: each reader gives the text after the literal, if the text begins with one.
-/
namespace ClassExport.Source

/-- Strings of text, of bytes, and of text that ends at a zero byte. -/
inductive StringKind where
  | text
  | bytes
  | zeroEnded
deriving DecidableEq

/-- An identifier that is not raw. -/
def afterWord? : List Char → Option (List Char)
  | c :: cs => if Text.isIdentifierStart c then some (cs.dropWhile Text.isIdentifierPart) else none
  | [] => none

/-- A literal may end in a suffix, which is an identifier. -/
def afterSuffix (cs : List Char) : List Char := (afterWord? cs).getD cs

def StringKind.allows : StringKind → Char → Bool
  | .text, _ => true
  | .bytes, c => c.toNat < 0x80
  | .zeroEnded, c => c != '\x00'

/-- The value of a braced escape and the text after it: one to six digits, underscores after the
first. -/
def afterUnicode? (value count : Nat) : List Char → Option (Nat × List Char)
  | [] => none
  | '_' :: cs => if count = 0 then none else afterUnicode? value count cs
  | '\x7d' :: cs => if count = 0 || !value.isValidChar then none else some (value, cs)
  | c :: cs =>
    match Text.hexDigit? c with
    | some d => if count < 6 then afterUnicode? (16 * value + d) (count + 1) cs else none
    | none => none

/-- An escape after its backslash, line breaks apart. -/
def afterEscape? (kind : StringKind) : List Char → Option (List Char)
  | 'x' :: a :: b :: cs =>
    let fits := match kind with
      | .text => '0' ≤ a && a ≤ '7' && Text.isHexDigit b
      | .bytes => Text.isHexDigit a && Text.isHexDigit b
      | .zeroEnded => Text.isHexDigit a && Text.isHexDigit b && !(a == '0' && b == '0')
    if fits then some cs else none
  | 'u' :: '\x7b' :: cs =>
    if kind = .bytes then none
    else match afterUnicode? 0 0 cs with
      | some (value, cs) => if kind = .zeroEnded && value == 0 then none else some cs
      | none => none
  | '0' :: cs => if kind = .zeroEnded then none else some cs
  | c :: cs => if "nrt\\'\"".toList.contains c then some cs else none
  | [] => none

/-- White space after a backslash at the end of a line is dropped; it must not end the text. -/
def afterBreak? : List Char → Option (List Char)
  | [] => none
  | '\r' :: '\n' :: cs => afterBreak? cs
  | '\r' :: _ => none
  | c :: cs => if c == ' ' || c == '\t' || c == '\n' then afterBreak? cs else some (c :: cs)

/-- A string after its opening quote. -/
def afterQuoted? (kind : StringKind) : Nat → List Char → Option (List Char)
  | 0, _ => none
  | fuel + 1, cs =>
    match cs with
    | [] => none
    | '"' :: rest => some (afterSuffix rest)
    | '\r' :: '\n' :: rest => afterQuoted? kind fuel rest
    | '\r' :: _ => none
    | '\\' :: '\n' :: rest => (afterBreak? ('\n' :: rest)).bind (afterQuoted? kind fuel)
    | '\\' :: '\r' :: rest => (afterBreak? ('\r' :: rest)).bind (afterQuoted? kind fuel)
    | '\\' :: rest => (afterEscape? kind rest).bind (afterQuoted? kind fuel)
    | c :: rest => if kind.allows c then afterQuoted? kind fuel rest else none

/-- A raw string after its opening quote; it ends at a quote that `hashes` hash signs follow. -/
def afterRawContent? (kind : StringKind) (hashes : Nat) : List Char → Option (List Char)
  | [] => none
  | '\r' :: '\n' :: cs => afterRawContent? kind hashes cs
  | '\r' :: _ => none
  | c :: cs =>
    if c = '"' && (List.replicate hashes '#').isPrefixOf cs then some (afterSuffix (cs.drop hashes))
    else if kind.allows c then afterRawContent? kind hashes cs
    else none

def afterRaw? (kind : StringKind) (cs : List Char) : Option (List Char) :=
  let hashes := (cs.takeWhile (· == '#')).length
  match cs.drop hashes with
  | '"' :: rest => if hashes > 255 then none else afterRawContent? kind hashes rest
  | _ => none

/-- A character or byte after its opening quote; a quote may stand for itself. -/
def afterCharacter? (kind : StringKind) : List Char → Option (List Char)
  | '\\' :: cs =>
    match afterEscape? kind cs with
    | some ('\'' :: rest) => some (afterSuffix rest)
    | _ => none
  | c :: '\'' :: rest => if kind.allows c then some (afterSuffix rest) else none
  | _ => none

/-- The digits of a mantissa, whether they held a dot, and the text after them. A second dot ends
it; a dot that another dot or a word follows makes it no mantissa. -/
def mantissa? (dot : Bool) : List Char → Option (Bool × List Char)
  | [] => some (dot, [])
  | '.' :: cs =>
    if dot then some (dot, '.' :: cs)
    else match cs with
      | c :: _ => if c == '.' || Text.isIdentifierStart c then none else mantissa? true cs
      | [] => some (true, [])
  | c :: cs => if c.isDigit || c == '_' then mantissa? dot cs else some (dot, c :: cs)

/-- The text after an exponent, if it has a digit. -/
def afterExponent? (cs : List Char) : Option (List Char) :=
  let cs := cs.dropWhile (· == '_')
  let digits (cs : List Char) : Option (List Char) :=
    if (cs.takeWhile fun c => c.isDigit || c == '_').any Char.isDigit then
      some (cs.dropWhile fun c => c.isDigit || c == '_')
    else none
  match cs with
  | '+' :: rest | '-' :: rest => digits rest
  | cs => digits cs

def afterFloatDigits? : List Char → Option (List Char)
  | c :: cs =>
    if !c.isDigit then none
    else match mantissa? false cs with
      | none => none
      | some (dot, rest) =>
        let plain := if dot then some rest else none
        match rest with
        | e :: power => if e == 'e' || e == 'E' then (afterExponent? power).or plain else plain
        | [] => plain
  | [] => none

/-- No further identifier character may follow a number and its suffix. -/
def closeNumber? (cs : List Char) : Option (List Char) :=
  let rest := afterSuffix cs
  match rest with
  | c :: _ => if Text.isIdentifierPart c then none else some rest
  | [] => some []

def afterFloat? (cs : List Char) : Option (List Char) := (afterFloatDigits? cs).bind closeNumber?

/-- The digits of a whole number in a base; a decimal digit that is too large for the base makes it
none. -/
def afterDigits? (base : Nat) (empty : Bool) : List Char → Option (List Char)
  | [] => if empty then none else some []
  | c :: cs =>
    if c == '_' then if empty && base == 10 then none else afterDigits? base empty cs
    else match Text.hexDigit? c with
      | some d =>
        if d < base then afterDigits? base false cs
        else if c.isDigit || empty then none
        else some (c :: cs)
      | none => if empty then none else some (c :: cs)

def afterInteger? (cs : List Char) : Option (List Char) :=
  (match cs with
    | '0' :: 'x' :: rest => afterDigits? 16 true rest
    | '0' :: 'o' :: rest => afterDigits? 8 true rest
    | '0' :: 'b' :: rest => afterDigits? 2 true rest
    | cs => afterDigits? 10 true cs).bind closeNumber?

/-- Any literal at the head of the text. -/
def afterLiteral? (cs : List Char) : Option (List Char) :=
  let quoted (kind : StringKind) (rest : List Char) : Option (List Char) :=
    afterQuoted? kind (rest.length + 1) rest
  let special := match cs with
    | '"' :: rest => quoted .text rest
    | 'r' :: rest => afterRaw? .text rest
    | 'b' :: '"' :: rest => quoted .bytes rest
    | 'b' :: 'r' :: rest => afterRaw? .bytes rest
    | 'c' :: '"' :: rest => quoted .zeroEnded rest
    | 'c' :: 'r' :: rest => afterRaw? .zeroEnded rest
    | 'b' :: '\'' :: rest => afterCharacter? .bytes rest
    | '\'' :: rest => afterCharacter? .text rest
    | _ => none
  special.or ((afterFloat? cs).or (afterInteger? cs))

/-- A literal of text. -/
def isStringLiteral (text : String) : Bool :=
  match text.toList.head? with
  | some c => c == '"' || c == 'r'
  | none => false

def isNumberLiteral (text : String) : Bool := text.toList.head?.any Char.isDigit

/-- The digits after the prefix of their base, which comes first. -/
def baseDigits : List Char → Nat × List Char
  | '0' :: 'x' :: cs => (16, cs)
  | '0' :: 'o' :: cs => (8, cs)
  | '0' :: 'b' :: cs => (2, cs)
  | cs => (10, cs)

/-- Whether a number is the index of a member: a whole number below 2^32 without a suffix. -/
def isIndex (cs : List Char) : Bool :=
  let (base, digits) := baseDigits cs
  digits.any (· != '_') && (Text.digitsValue? base digits).any (· < Nat.pow 2 32)

/-- Whether a number has a fraction or an exponent. -/
def isFloatLiteral (text : String) : Bool :=
  let cs := text.toList
  isNumberLiteral text && (baseDigits cs).1 == 10 &&
    match mantissa? false cs with
    | some (true, _) => true
    | some (false, e :: power) => (e == 'e' || e == 'E') && (afterExponent? power).isSome
    | _ => false

end ClassExport.Source
