import ClassExport.Json.Value

/-! Records in JSON: an object with named members, or an array of the members in order. -/
namespace ClassExport.Json

/-- One member of a record `σ`, read into a record that holds the defaults. -/
structure Slot (σ : Type) where
  key : String
  required : Bool
  read : Json → σ → Except Fault σ

/-- A member of an object: unknown keys are passed over, a known one may come only once. -/
def readMember (slots : List (Slot σ)) (state : σ × List String) (member : Json × Json) :
    Except Fault (σ × List String) := do
  let key ← member.1.asString
  match slots.find? (·.key = key) with
  | none =>
    member.2.skip
    return state
  | some slot =>
    if key ∈ state.2 then throw .mismatched
    return (← slot.read member.2 state.1, key :: state.2)

/-- Members by position; those missing at the end keep their defaults. -/
def readPositions (surplus : Fault) (record : σ) :
    List (Slot σ) → List Json → Option Fault → Except Fault σ
  | [], [], none => .ok record
  | _, [], some fault => .error fault
  | [], _ :: _, _ => .error surplus
  | slot :: slots, [], none =>
    if slot.required then .error .mismatched else readPositions surplus record slots [] none
  | slot :: slots, item :: items, tail => do
    let record ← slot.read item record
    readPositions surplus record slots items tail

/-- Reads a record; `surplus` is the fault of an array with too many members. -/
def asRecord (surplus : Fault) (slots : List (Slot σ)) (defaults : σ) : Json → Except Fault σ
  | .object members => do
    let (record, seen) ← members.foldlM (readMember slots) (defaults, [])
    if slots.any fun slot => slot.required && !seen.contains slot.key then throw .mismatched
    return record
  | .array items tail => readPositions surplus defaults slots items tail
  | j => .error j.misfit

end ClassExport.Json
