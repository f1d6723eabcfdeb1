/-!
TOML values. A table remembers how it came to be, which decides what may still be added to it: one
with a header of its own takes no dotted keys from elsewhere, and one written in braces takes
nothing.
-/
namespace ClassExport

/-- How a table came to be. -/
inductive TableOrigin where
  | header
  /-- Made by the header of a table inside it. -/
  | implied
  | dotted
  | inline
deriving DecidableEq, Repr

inductive Toml where
  | string (text : String)
  | integer (value : Int)
  /-- A float is only known to be in range or not. -/
  | float (inRange : Bool)
  | boolean (value : Bool)
  | dateTime
  | array (items : List Toml) (ofTables : Bool)
  | table (origin : TableOrigin) (entries : List (String × Toml))
deriving Repr, Inhabited

namespace Toml

abbrev Entries := List (String × Toml)

/-- Changes the value of a key, or adds one at the end. -/
def update (key : String) (change : Option Toml → Option Toml) : Entries → Option Entries
  | [] => (change none).map fun value => [(key, value)]
  | (k, old) :: rest =>
    if k = key then (change (some old)).map fun value => (k, value) :: rest
    else (update key change rest).map ((k, old) :: ·)

/-- Changes the table at a path, where tables that are missing are made: by a dotted key, or by a
header. A path through an array of tables goes into its last table. -/
def within (byDots : Bool) (change : TableOrigin → Entries → Option Entries) :
    List String → TableOrigin → Entries → Option Entries
  | [], origin, entries => change origin entries
  | key :: path, _, entries =>
    let enter (origin : TableOrigin) (entries : Entries) : Option Toml :=
      (within byDots change path origin entries).map (.table origin)
    update key (fun
      | none => enter (if byDots then .dotted else .implied) []
      | some (.table origin entries) =>
        if origin = .inline || (byDots && origin = .header) then none else enter origin entries
      | some (.array items true) =>
        match items.getLast? with
        | some (.table origin entries) =>
          (enter origin entries).map fun last => .array (items.dropLast ++ [last]) true
        | _ => none
      | some _ => none) entries

/-- Adds a value; a key with dots reaches only tables that such keys have made. -/
def insert (path : List String) (key : String) (value : Toml) (origin : TableOrigin)
    (entries : Entries) : Option Entries :=
  within true (fun origin entries =>
    if origin = .dotted ∧ path = [] ∨ origin ≠ .dotted ∧ path ≠ [] then none
    else update key (fun old => if old.isSome then none else some value) entries)
      path origin entries

/-- Opens the table of a header. -/
def openTable (path : List String) (key : String) (entries : Entries) : Option Entries :=
  within false (fun _ => update key fun
    | none => some (.table .header [])
    | some (.table .implied entries) => some (.table .header entries)
    | some _ => none) path .header entries

/-- Adds a table to the array of a header in double brackets. -/
def appendTable (path : List String) (key : String) (entries : Entries) : Option Entries :=
  within false (fun _ => update key fun
    | none => some (.array [.table .header []] true)
    | some (.array items true) => some (.array (items ++ [.table .header []]) true)
    | some _ => none) path .header entries

def get? (entries : Entries) (key : String) : Option Toml := entries.lookup key

mutual

/-- Whether every number is in range, integers between the two bounds. -/
def inRange (low high : Int) : Toml → Bool
  | .integer n => low ≤ n && n ≤ high
  | .float fits => fits
  | .array items _ => allInRange low high items
  | .table _ entries => entriesInRange low high entries
  | _ => true

def allInRange (low high : Int) : List Toml → Bool
  | [] => true
  | item :: items => inRange low high item && allInRange low high items

def entriesInRange (low high : Int) : List (String × Toml) → Bool
  | [] => true
  | (_, value) :: entries => inRange low high value && entriesInRange low high entries

end

end Toml
end ClassExport
