import ClassExport.Modifiers

/-! Classes to be exported, as their sources describe them. -/
namespace ClassExport

structure Field where
  name : String
  /-- The simple name of the element type. -/
  typeName : String
  qualifiedTypeName : Option String
  isArray : Bool
  modifiers : Modifiers
deriving DecidableEq, Repr

/-- A class with its fields in order of declaration. -/
structure Class where
  name : String
  package : String
  fields : List Field
deriving DecidableEq, Repr

def Class.qualifiedName (c : Class) : String :=
  if c.package = "" then c.name else c.package ++ "." ++ c.name

end ClassExport
