import ClassExport.Descriptor
import ClassExport.Text.LetterCase

/-!
From the names of field types to TypeScript types. `String` and `Date` are recognised by an exact
beginning of the name, booleans and numbers by one in any letter case.
-/
namespace ClassExport

inductive Category where
  | string
  | boolean
  | number
  | any
deriving DecidableEq, Repr

def Category.text : Category → String
  | .string => "String"
  | .boolean => "boolean"
  | .number => "number"
  | .any => "any"

structure MappedType where
  category : Category
  isArray : Bool
  /-- What the mapping left out; empty when it left out nothing. -/
  comment : String
deriving DecidableEq, Repr

namespace MappedType

def targetType (m : MappedType) : String :=
  if m.isArray then "Array<" ++ m.category.text ++ ">" else m.category.text

def renderedComment (m : MappedType) : String := if m.comment = "" then "" else "// " ++ m.comment

end MappedType

namespace TypeMapping

/-- How a rule recognises the name of a type. -/
inductive Pattern where
  | begins (text : String)
  | beginsInAnyCase (texts : List String)

/-- What a rule notes beside the mapped type. -/
inductive Note where
  | nothing
  | qualifiedName
  | simpleName

structure Rule where
  pattern : Pattern
  category : Category
  note : Note

def Pattern.accepts (name : String) : Pattern → Bool
  | .begins text => text.toList.isPrefixOf name.toList
  | .beginsInAnyCase texts =>
    texts.any fun text => text.toList.isPrefixOf (Text.lowerChars name.toList)

/-- The first rule that accepts a name decides. -/
def rules : List Rule := [
  ⟨.begins "String", .string, .nothing⟩,
  ⟨.begins "Date", .string, .qualifiedName⟩,
  ⟨.beginsInAnyCase ["boolean"], .boolean, .nothing⟩,
  ⟨.beginsInAnyCase ["byte", "short", "int", "long", "float", "double"], .number, .simpleName⟩]

/-- A qualified name that is blank counts as none. -/
def Note.text (note : Note) (name : String) (qualified : Option String) (isArray : Bool) : String :=
  let brackets := if isArray then "[]" else ""
  match note with
  | .nothing => ""
  | .simpleName => name ++ brackets
  | .qualifiedName => (qualified.bind Text.nonBlank?).getD name ++ brackets

end TypeMapping

/-- A name that no rule accepts becomes `any`. -/
def mapType (name : String) (qualified : Option String) (isArray : Bool) : MappedType :=
  match TypeMapping.rules.find? (·.pattern.accepts name) with
  | some rule => ⟨rule.category, isArray, rule.note.text name qualified isArray⟩
  | none => ⟨.any, isArray, ""⟩

def Field.mapped (f : Field) : MappedType := mapType f.typeName f.qualifiedTypeName f.isArray

end ClassExport
