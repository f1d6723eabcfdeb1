import ClassExport.Failure
import ClassExport.Text.Blank

/-! Sets of field modifiers, kept as the access bits of class files. -/
namespace ClassExport

inductive Modifier where
  | publicAccess
  | privateAccess
  | protectedAccess
  | static
  | final
  | volatile
  | transient
deriving DecidableEq, Repr

namespace Modifier

/-- All modifiers, in the order in which they are written. -/
def all : List Modifier :=
  [publicAccess, privateAccess, protectedAccess, static, final, volatile, transient]

def keyword : Modifier → String
  | publicAccess => "public"
  | privateAccess => "private"
  | protectedAccess => "protected"
  | static => "static"
  | final => "final"
  | volatile => "volatile"
  | transient => "transient"

def mask : Modifier → UInt16
  | publicAccess => 0x01
  | privateAccess => 0x02
  | protectedAccess => 0x04
  | static => 0x08
  | final => 0x10
  | volatile => 0x40
  | transient => 0x80

def ofKeyword? (s : String) : Option Modifier := all.find? fun m => m.keyword = s

end Modifier

/-- A set of modifiers; bits that no keyword names are kept but never written. -/
structure Modifiers where
  bits : UInt16
deriving DecidableEq, Repr

namespace Modifiers

def empty : Modifiers := ⟨0⟩

def single (m : Modifier) : Modifiers := ⟨m.mask⟩

def contains (a b : Modifiers) : Bool := a.bits &&& b.bits == b.bits

def union (a b : Modifiers) : Modifiers := ⟨a.bits ||| b.bits⟩

def toList (a : Modifiers) : List Modifier := Modifier.all.filter fun m => a.contains (single m)

def keywords (a : Modifiers) : List String := a.toList.map Modifier.keyword

def text (a : Modifiers) : String := " ".intercalate a.keywords

/-- The set of the given keywords, each trimmed; the first that is none is reported as written. -/
def ofKeywords (words : List String) : Except Failure Modifiers :=
  words.foldlM (fun acc word =>
    match Modifier.ofKeyword? (Text.trim word) with
    | some m => .ok (acc.union (single m))
    | none => .error (.invalidModifier word)) empty

/-- Only the set of `public` alone counts as public. -/
def isPublic (a : Modifiers) : Bool := a == single .publicAccess

end Modifiers
end ClassExport
