import ClassExport.Decimal

/-!
JSON as it is read: a tree that ends where the text stops being JSON. Reading takes the values in
the order of the text, so the first fault it meets, of shape or of syntax, is the one it reports.
-/
namespace ClassExport

/-- Why a JSON text was refused: it ended too early, is no JSON, or is JSON of the wrong shape. -/
inductive Json.Fault where
  | ended
  | malformed
  | mismatched
  | unknownModifier (keyword : String)
  | other (text : String)
deriving DecidableEq, Repr

def Json.Fault.message : Json.Fault → String
  | .ended => "the text ends inside a value"
  | .malformed => "the text is not JSON"
  | .mismatched => "a value has the wrong shape"
  | .unknownModifier keyword => "Invalid modifier: " ++ keyword
  | .other text => text

inductive Json where
  | null
  | bool (value : Bool)
  | number (text : String)
  | string (text : String)
  /-- `tail` is the fault found where a comma or the closing bracket should stand. -/
  | array (items : List Json) (tail : Option Json.Fault)
  /-- The keys are strings, or a flaw at the place of one. -/
  | object (members : List (Json × Json))
  /-- A value with a fault; one that is skipped is judged less strictly than one that is read. -/
  | flawed (whenRead : Json.Fault) (whenSkipped : Option Json.Fault)
deriving Repr, Inhabited

namespace Json

/-- A fault at which the text stops being JSON. -/
def broken (fault : Fault) : Json := .flawed fault (some fault)

/-- Whether a number lies in the range of 64-bit floating point. -/
def isInRange (text : String) : Bool :=
  let (mantissa, power) := text.toList.span fun c => c != 'e' && c != 'E'
  let (whole, part) := mantissa.span (· != '.')
  let places := (part.filter Char.isDigit).length
  let exponent : Int := Decimal.value (power.filter Char.isDigit)
  Decimal.fitsDouble ((whole ++ part).filter Char.isDigit)
    ((if power.contains '-' then -exponent else exponent) - places)

/-- The fault of a value whose kind is not the one asked for. -/
def misfit : Json → Fault
  | .flawed fault _ => fault
  | .number text => if isInRange text then .mismatched else .malformed
  | _ => .mismatched

mutual

/-- The fault met when a value is passed over. -/
def skipFault : Json → Option Fault
  | .array items tail => (skipFaultOfAll items).or tail
  | .object members => skipFaultOfMembers members
  | .flawed _ fault => fault
  | _ => none

def skipFaultOfAll : List Json → Option Fault
  | [] => none
  | j :: js => (skipFault j).or (skipFaultOfAll js)

def skipFaultOfMembers : List (Json × Json) → Option Fault
  | [] => none
  | (key, value) :: ms => ((skipFault key).or (skipFault value)).or (skipFaultOfMembers ms)

end

def skip (j : Json) : Except Fault Unit :=
  match j.skipFault with
  | some fault => .error fault
  | none => .ok ()

def asString : Json → Except Fault String
  | .string s => .ok s
  | j => .error j.misfit

def asBool : Json → Except Fault Bool
  | .bool b => .ok b
  | j => .error j.misfit

def asOption (read : Json → Except Fault α) : Json → Except Fault (Option α)
  | .null => .ok none
  | j => some <$> read j

def asList (read : Json → Except Fault α) : Json → Except Fault (List α)
  | .array items tail => do
    let values ← items.mapM read
    match tail with
    | some fault => .error fault
    | none => .ok values
  | j => .error j.misfit

end Json
end ClassExport
