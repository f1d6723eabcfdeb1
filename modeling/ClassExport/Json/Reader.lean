import ClassExport.Json.Value
import ClassExport.Text.Hex

/-! JSON text to JSON values. -/
namespace ClassExport.Json

def isSpace (c : Char) : Bool := c == ' ' || c == '\n' || c == '\t' || c == '\r'

def hexUnit? (a b c d : Char) : Option Nat := do
  return ((← Text.hexDigit? a) * 16 + (← Text.hexDigit? b)) * 256 +
    ((← Text.hexDigit? c) * 16 + (← Text.hexDigit? d))

/-- What stands in a string: a character, or a 16-bit unit written as `\uXXXX`. -/
inductive Unit16 where
  | char (c : Char)
  | unit (n : Nat)

def simpleEscape? : Char → Option Char
  | '"' => some '"'
  | '\\' => some '\\'
  | '/' => some '/'
  | 'b' => some '\x08'
  | 'f' => some '\x0c'
  | 'n' => some '\n'
  | 'r' => some '\r'
  | 't' => some '\t'
  | _ => none

def utf8Length (cs : List Char) : Nat := (String.ofList cs).utf8ByteSize

/-- The content of a string after its opening quote, with the text that follows or the fault that
cuts it off. -/
def stringUnits : List Char → List Unit16 × Except Fault (List Char)
  | [] => ([], .error .ended)
  | '"' :: rest => ([], .ok rest)
  | ['\\'] => ([], .error .ended)
  | '\\' :: 'u' :: a :: b :: c :: d :: rest =>
    match hexUnit? a b c d with
    | some n =>
      let (units, after) := stringUnits rest
      (.unit n :: units, after)
    | none => ([], .error .malformed)
  | '\\' :: 'u' :: rest => ([], .error (if utf8Length rest < 4 then .ended else .malformed))
  | '\\' :: e :: rest =>
    match simpleEscape? e with
    | some c =>
      let (units, after) := stringUnits rest
      (.char c :: units, after)
    | none => ([], .error .malformed)
  | c :: rest =>
    if c.toNat < 0x20 then ([], .error .malformed)
    else
      let (units, after) := stringUnits rest
      (.char c :: units, after)

/-- A unit that begins a pair of units for one character. -/
def isLeading (n : Nat) : Bool := 0xd800 ≤ n && n < 0xdc00

def isTrailing (n : Nat) : Bool := 0xdc00 ≤ n && n < 0xe000

/-- The characters of a string, or none when a unit of a pair stands alone. A leading unit at the
end stands alone only if the string is `complete`. -/
def unitChars? (complete : Bool) : List Unit16 → Option (List Char)
  | [] => some []
  | .char c :: us => (c :: ·) <$> unitChars? complete us
  | .unit n :: .unit m :: us =>
    if isLeading n && isTrailing m then
      (Char.ofNat (0x10000 + (n - 0xd800) * 0x400 + (m - 0xdc00)) :: ·) <$> unitChars? complete us
    else if isLeading n || isTrailing n then none
    else (Char.ofNat n :: ·) <$> unitChars? complete (.unit m :: us)
  | .unit n :: us =>
    if isTrailing n || (isLeading n && (complete || !us.isEmpty)) then none
    else (Char.ofNat n :: ·) <$> unitChars? complete us

/-- A string after its opening quote, and the text after it unless the text breaks off inside. -/
def readString (cs : List Char) : Json × Option (List Char) :=
  match stringUnits cs with
  | (units, .ok rest) =>
    match unitChars? true units with
    | some chars => (.string (String.ofList chars), some rest)
    | none => (.flawed .malformed none, some rest)
  | (units, .error fault) =>
    match unitChars? false units with
    | some _ => (broken fault, none)
    | none => (.flawed .malformed (some fault), none)

/-- A run of digits that must not be empty; a number cut off by the end of the text is judged by its
reader. -/
def readDigits (cs : List Char) : Except Json (List Char × List Char) :=
  match cs.span Char.isDigit with
  | ([], []) => .error (.flawed .ended (some .malformed))
  | ([], _) => .error (broken .malformed)
  | cut => .ok cut

def readPower (cs : List Char) : Except Json (List Char × List Char) :=
  match cs with
  | e :: rest =>
    if e == 'e' || e == 'E' then do
      let (sign, rest) := match rest with
        | '+' :: rest => (['+'], rest)
        | '-' :: rest => (['-'], rest)
        | rest => ([], rest)
      let (digits, rest) ← readDigits rest
      return (e :: sign ++ digits, rest)
    else .ok ([], cs)
  | [] => .ok ([], [])

def readFraction (cs : List Char) : Except Json (List Char × List Char) :=
  match cs with
  | '.' :: rest => do
    let (digits, rest) ← readDigits rest
    return ('.' :: digits, rest)
  | cs => .ok ([], cs)

/-- A number has no needless leading zero. -/
def readWhole (cs : List Char) : Except Json (List Char × List Char) :=
  match cs with
  | ['0'] => .ok (['0'], [])
  | '0' :: d :: rest => if d.isDigit then .error (broken .malformed) else .ok (['0'], d :: rest)
  | d :: _ => if d.isDigit then .ok (cs.span Char.isDigit) else .error (broken .malformed)
  | [] => .error (broken .malformed)

def readNumber (cs : List Char) : Json × Option (List Char) :=
  let (sign, body) := match cs with
    | '-' :: rest => (['-'], rest)
    | cs => ([], cs)
  let read : Except Json (List Char × List Char) := do
    let (whole, rest) ← readWhole body
    let (part, rest) ← readFraction rest
    let (power, rest) ← readPower rest
    return (sign ++ whole ++ part ++ power, rest)
  match read with
  | .ok (text, rest) => (.number (String.ofList text), some rest)
  | .error flaw => (flaw, none)

/-- One of the words `null`, `true` and `false`. -/
def readWord (value : Json) : List Char → List Char → Json × Option (List Char)
  | [], cs => (value, some cs)
  | _ :: _, [] => (broken .ended, none)
  | w :: ws, c :: cs => if w = c then readWord value ws cs else (broken .malformed, none)

mutual

/-- A value and the text after it; no text follows a value in which the text breaks off. -/
def readValue : Nat → List Char → Json × Option (List Char)
  | 0, _ => (broken .malformed, none)
  | fuel + 1, cs =>
    match cs.dropWhile isSpace with
    | [] => (broken .ended, none)
    | 'n' :: rest => readWord .null "ull".toList rest
    | 't' :: rest => readWord (.bool true) "rue".toList rest
    | 'f' :: rest => readWord (.bool false) "alse".toList rest
    | '"' :: rest => readString rest
    | '[' :: rest =>
      match rest.dropWhile isSpace with
      | ']' :: rest => (.array [] none, some rest)
      | _ =>
        let (items, tail, after) := readItems fuel rest
        (.array items tail, after)
    | '\x7b' :: rest =>
      match rest.dropWhile isSpace with
      | '\x7d' :: rest => (.object [], some rest)
      | _ =>
        let (members, after) := readMembers fuel rest
        (.object members, after)
    | c :: rest =>
      if c.isDigit || c == '-' then readNumber (c :: rest) else (broken .malformed, none)

/-- The items of an array, of which at least one is expected. -/
def readItems : Nat → List Char → List Json × Option Fault × Option (List Char)
  | 0, _ => ([broken .malformed], none, none)
  | fuel + 1, cs =>
    match readValue fuel cs with
    | (item, none) => ([item], none, none)
    | (item, some rest) =>
      match rest.dropWhile isSpace with
      | [] => ([item], some .ended, none)
      | ']' :: rest => ([item], none, some rest)
      | ',' :: rest =>
        let (items, tail, after) := readItems fuel rest
        (item :: items, tail, after)
      | _ => ([item], some .malformed, none)

/-- The members of an object, of which at least one is expected. -/
def readMembers : Nat → List Char → List (Json × Json) × Option (List Char)
  | 0, _ => ([(broken .malformed, .null)], none)
  | fuel + 1, cs =>
    match cs.dropWhile isSpace with
    | [] => ([(broken .ended, .null)], none)
    | '"' :: rest =>
      match readString rest with
      | (key, none) => ([(key, .null)], none)
      | (key, some rest) =>
        match rest.dropWhile isSpace with
        | [] => ([(key, broken .ended)], none)
        | ':' :: rest =>
          match readValue fuel rest with
          | (value, none) => ([(key, value)], none)
          | (value, some rest) =>
            match rest.dropWhile isSpace with
            | [] => ([(key, value), (broken .ended, .null)], none)
            | '\x7d' :: rest => ([(key, value)], some rest)
            | ',' :: rest =>
              let (members, after) := readMembers fuel rest
              ((key, value) :: members, after)
            | _ => ([(key, value), (broken .malformed, .null)], none)
        | _ => ([(key, broken .malformed)], none)
    | _ => ([(broken .malformed, .null)], none)

end

/-- Reads a whole text with `read`; only white space may follow the value. -/
def ofText (read : Json → Except Fault α) (text : String) : Except Fault α := do
  let cs := text.toList
  let (value, after) := readValue (2 * cs.length + 2) cs
  let result ← read value
  match after with
  | some rest => if rest.all isSpace then .ok result else .error .malformed
  | none => .error .malformed

end ClassExport.Json
