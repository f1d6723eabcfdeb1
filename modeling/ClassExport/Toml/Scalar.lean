import ClassExport.Decimal
import ClassExport.Text.Hex
import ClassExport.Text.Pieces
import ClassExport.Toml.Value

/-! Numbers, booleans, dates and times of TOML. -/
namespace ClassExport.Toml

/-- The value of digits of which underscores stand only between two. -/
def digits? (base : Nat) (cs : List Char) : Option Nat :=
  if (Text.pieces '_' cs).all fun piece => !piece.isEmpty then Text.digitsValue? base cs else none

/-- A decimal number without a needless leading zero. -/
def decimal? (cs : List Char) : Option Nat :=
  match cs with
  | '0' :: _ :: _ => none
  | cs => digits? 10 cs

def splitSign : List Char → Bool × List Char
  | '-' :: cs => (true, cs)
  | '+' :: cs => (false, cs)
  | cs => (false, cs)

def signed (negative : Bool) (n : Nat) : Int := if negative then -n else n

def integer? (cs : List Char) : Option Int :=
  match cs with
  | '0' :: 'x' :: cs => (digits? 16 cs).map Int.ofNat
  | '0' :: 'o' :: cs => (digits? 8 cs).map Int.ofNat
  | '0' :: 'b' :: cs => (digits? 2 cs).map Int.ofNat
  | cs =>
    let (negative, cs) := splitSign cs
    (decimal? cs).map (signed negative)

/-- The digits after a dot, if one is there. -/
def fraction? : List Char → Option (List Char)
  | '.' :: cs => (digits? 10 cs).map fun _ => cs.filter (· != '_')
  | [] => some []
  | _ => none

def power? : List Char → Option Int
  | e :: cs =>
    if e == 'e' || e == 'E' then
      let (negative, cs) := splitSign cs
      (digits? 10 cs).map (signed negative)
    else none
  | [] => some 0

/-- A number with a fraction or an exponent; tells whether it is in range. -/
def float? (cs : List Char) : Option Bool := do
  let (_, cs) := splitSign cs
  if cs = "inf".toList || cs = "nan".toList then return true
  let (whole, cs) := cs.span fun c => c != '.' && c != 'e' && c != 'E'
  if cs.isEmpty then none
  let (part, cs) := cs.span fun c => c != 'e' && c != 'E'
  let _ ← decimal? whole
  let places ← fraction? part
  let power ← power? cs
  return Decimal.fitsDouble (whole.filter Char.isDigit ++ places) (power - places.length)

/-- A number of exactly `count` digits up to `high`, and the text after it. -/
def fixed? (count high : Nat) (cs : List Char) : Option (Nat × List Char) :=
  let digits := cs.take count
  if digits.length = count && digits.all Char.isDigit then
    (Text.digitsValue? 10 digits).bind fun n => if n ≤ high then some (n, cs.drop count) else none
  else none

def expect? (c : Char) : List Char → Option (List Char)
  | d :: cs => if c = d then some cs else none
  | [] => none

def monthLength (year month : Nat) : Nat :=
  if month = 2 then if year % 4 = 0 && (year % 100 != 0 || year % 400 = 0) then 29 else 28
  else if [4, 6, 9, 11].contains month then 30
  else 31

def date? (cs : List Char) : Option (List Char) := do
  let (year, cs) ← fixed? 4 9999 cs
  let (month, cs) ← fixed? 2 12 (← expect? '-' cs)
  let (day, cs) ← fixed? 2 (monthLength year month) (← expect? '-' cs)
  if month = 0 || day = 0 then none else some cs

/-- A time of day; seconds may be left out, and can be a leap second. -/
def time? (cs : List Char) : Option (List Char) := do
  let (_, cs) ← fixed? 2 23 cs
  let (_, cs) ← fixed? 2 59 (← expect? ':' cs)
  match cs with
  | ':' :: cs =>
    let (_, cs) ← fixed? 2 60 cs
    match cs with
    | '.' :: cs =>
      match cs.span Char.isDigit with
      | ([], _) => none
      | (_, rest) => some rest
    | cs => some cs
  | cs => some cs

/-- What is left after the offset of a time; nothing must be. -/
def offset? : List Char → Option (List Char)
  | [] => some []
  | c :: cs =>
    if c == 'Z' || c == 'z' then some cs
    else if c == '+' || c == '-' then do
      let (_, cs) ← fixed? 2 23 cs
      let (_, cs) ← fixed? 2 59 (← expect? ':' cs)
      return cs
    else none

def isDateTime (cs : List Char) : Bool :=
  match date? cs with
  | some [] => true
  | some (t :: rest) =>
    (t == 'T' || t == 't' || t == ' ') && ((time? rest).bind offset?) == some []
  | none => time? cs == some []

def ofScalar? (cs : List Char) : Option Toml :=
  if cs = "true".toList then some (.boolean true)
  else if cs = "false".toList then some (.boolean false)
  else if isDateTime cs then some .dateTime
  else match integer? cs with
    | some n => some (.integer n)
    | none => (float? cs).map .float

def isScalarChar (c : Char) : Bool := c.isAlphanum || "+-_.:".toList.contains c

/-- A value that is neither string, array nor table. One blank may stand between a date and a
time. -/
def scalar? (cs : List Char) : Option (Toml × List Char) := do
  let (text, rest) := cs.span isScalarChar
  let (text, rest) := match date? text, rest with
    | some [], ' ' :: d :: more =>
      if d.isDigit then (text ++ ' ' :: d :: more.takeWhile isScalarChar,
        more.dropWhile isScalarChar)
      else (text, rest)
    | _, _ => (text, rest)
  return (← ofScalar? text, rest)

end ClassExport.Toml
