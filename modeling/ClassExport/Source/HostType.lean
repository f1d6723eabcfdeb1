import ClassExport.Source.Imports
import ClassExport.TypeMapping

/-!
Rust types in the words of the type mapping. Wrappers are looked through; a sequence makes an array
of one level, so that a sequence of sequences has elements without a name.
-/
namespace ClassExport.Source

structure HostType where
  simpleName : String
  qualifiedName : Option String
  isArray : Bool
deriving DecidableEq, Repr

namespace HostType

/-- Types that mean no more than what they hold. -/
def wrappers : List String := ["Option", "Box", "Rc", "Arc", "Cow", "RefCell"]

/-- Types that are arrays of what they hold. -/
def sequences : List String := ["Vec", "VecDeque", "LinkedList", "HashSet", "BTreeSet", "IndexSet"]

def primitive? (name : String) : Option String :=
  if ["String", "str"].contains name then some "String"
  else if name = "bool" then some "boolean"
  else if ["i8", "u8"].contains name then some "byte"
  else if ["i16", "u16"].contains name then some "short"
  else if ["i32", "u32"].contains name then some "int"
  else if ["i64", "u64", "i128", "u128", "isize", "usize"].contains name then some "long"
  else if name = "f32" then some "float"
  else if name = "f64" then some "double"
  else none

def unnamed : HostType := ⟨"", none, false⟩

def arrayOf (element : HostType) : HostType := { element with isArray := true }

/-- A name stands for itself when it is primitive, and else for its path, written or imported. -/
def ofName (imports : Imports) (qualifiers : List String) (name : String) : HostType :=
  match primitive? name with
  | some host => ⟨host, none, false⟩
  | none =>
    let qualified :=
      if qualifiers.isEmpty then imports.getD name name else Imports.pathText (qualifiers ++ [name])
    ⟨name, some qualified, false⟩

/-- The type of an element, without the wrappers around it. -/
def ofElement (imports : Imports) : TypeSyntax → HostType
  | .reference target => ofElement imports target
  | .paren inner => ofElement imports inner
  | .named qualifiers name => ofName imports qualifiers name
  | .applied qualifiers name argument =>
    if wrappers.contains name then ofElement imports argument else ofName imports qualifiers name
  | _ => unnamed

def ofType (imports : Imports) : TypeSyntax → HostType
  | .reference target => ofType imports target
  | .paren inner => ofType imports inner
  | .array element => (ofElement imports element).arrayOf
  | .slice element => (ofElement imports element).arrayOf
  | .named qualifiers name => ofName imports qualifiers name
  | .applied qualifiers name argument =>
    if wrappers.contains name then ofType imports argument
    else if sequences.contains name then (ofElement imports argument).arrayOf
    else ofName imports qualifiers name
  | .other => unnamed

def mapped (t : HostType) : MappedType := mapType t.simpleName t.qualifiedName t.isArray

end HostType
end ClassExport.Source
