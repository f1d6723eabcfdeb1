import ClassExport.Failure
import ClassExport.Source.Grammar
import ClassExport.Source.HostType

/-!
The classes that Rust source declares: its structs with named fields or none, in order of
declaration, each in the package that the modules around it make.
-/
namespace ClassExport.Source

def Visibility.modifiers : Visibility → Modifiers
  | .everywhere => .single .publicAccess
  | .restricted => .single .protectedAccess
  | .inherited => .single .privateAccess

/-- An identifier without the mark of a raw one. -/
def dropRawMark : List Char → List Char
  | 'r' :: '#' :: cs => dropRawMark cs
  | cs => cs

def FieldSyntax.field (f : FieldSyntax) (imports : Imports) : Field :=
  let host := HostType.ofType imports f.type
  ⟨String.ofList (dropRawMark f.name.toList), host.simpleName, host.qualifiedName, host.isArray,
    f.visibility.modifiers⟩

/-- A struct with unnamed fields is no class. -/
def StructBody.fields? (imports : Imports) : StructBody → Option (List Field)
  | .named fields => some (fields.map (·.field imports))
  | .unit => some []
  | .tuple => none

def innerPackage (package name : String) : String :=
  if package = "" then name else package ++ "." ++ name

mutual

def itemClasses (package : String) (imports : Imports) : Item → List Class
  | .struct name body =>
    ((body.fields? imports).map fun fields => ⟨name, package, fields⟩).toList
  | .module name content => contentClasses (innerPackage package name) content
  | .use _ => []
  | .other => []

/-- The classes of a module; its own imports alone name the types of its fields. -/
def contentClasses (package : String) : Option (List Item) → List Class
  | none => []
  | some items => itemsClasses package (Imports.ofItems items) items

def itemsClasses (package : String) (imports : Imports) : List Item → List Class
  | [] => []
  | item :: items => itemClasses package imports item ++ itemsClasses package imports items

end

/-- The classes of a file's items. -/
def classesOf (package : String) (items : List Item) : List Class :=
  contentClasses package (some items)

/-- The classes that a text declares, if it is source text. -/
def classes (text package : String) : Except Failure (List Class) :=
  match items? text with
  | some items => .ok (classesOf package items)
  | none => .error (.source "unexpected token")

end ClassExport.Source
