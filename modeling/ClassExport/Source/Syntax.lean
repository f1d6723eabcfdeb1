/-! What is kept of Rust source: structs, modules and imports with the types of fields. -/
namespace ClassExport.Source

/-- A type. Of a path only the written names and the first type argument of the last one are
kept. -/
inductive TypeSyntax where
  | named (qualifiers : List String) (name : String)
  | applied (qualifiers : List String) (name : String) (argument : TypeSyntax)
  | reference (target : TypeSyntax)
  /-- A type between delimiters, in parentheses or in a group that is not seen in the text. -/
  | paren (inner : TypeSyntax)
  | array (element : TypeSyntax)
  | slice (element : TypeSyntax)
  | other
deriving DecidableEq, Repr, Inhabited

inductive Visibility where
  | everywhere
  | restricted
  | inherited
deriving DecidableEq, Repr

structure FieldSyntax where
  visibility : Visibility
  name : String
  type : TypeSyntax
deriving DecidableEq, Repr

inductive StructBody where
  | named (fields : List FieldSyntax)
  | tuple
  | unit
deriving DecidableEq, Repr

/-- What a `use` item imports. -/
inductive UseTree where
  | path (name : String) (tree : UseTree)
  | name (name : String)
  | rename (name newName : String)
  | glob
  | group (trees : List UseTree)
deriving Repr, Inhabited

inductive Item where
  | struct (name : String) (body : StructBody)
  /-- A module with its content, or one whose content is in another file. -/
  | module (name : String) (content : Option (List Item))
  | use (tree : UseTree)
  | other
deriving Repr, Inhabited

end ClassExport.Source
