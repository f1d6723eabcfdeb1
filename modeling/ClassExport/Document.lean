import ClassExport.Emission
import ClassExport.Json.Printer
import ClassExport.Json.Reader
import ClassExport.Json.Record

/-!
Descriptor documents: classes as JSON. The same records are read from a text, where a member too
many is a fault of syntax, and from a value at hand, where it is one of shape.
-/
namespace ClassExport

open Json (Slot Fault)

def Modifiers.ofJson (j : Json) : Except Fault Modifiers := do
  match Modifiers.ofKeywords (← j.asList Json.asString) with
  | .ok modifiers => return modifiers
  | .error (.invalidModifier keyword) => throw (.unknownModifier keyword)
  | .error _ => throw .mismatched

def Field.slots : List (Slot Field) := [
  ⟨"name", true, fun j f => return { f with name := ← j.asString }⟩,
  ⟨"type", true, fun j f => return { f with typeName := ← j.asString }⟩,
  ⟨"qualified_type", false, fun j f =>
    return { f with qualifiedTypeName := ← j.asOption Json.asString }⟩,
  ⟨"array", false, fun j f => return { f with isArray := ← j.asBool }⟩,
  ⟨"modifiers", false, fun j f => return { f with modifiers := ← Modifiers.ofJson j }⟩]

/-- A field without modifiers of its own is public. -/
def Field.ofJson (surplus : Fault) (j : Json) : Except Fault Field :=
  j.asRecord surplus Field.slots ⟨"", "", none, false, .single .publicAccess⟩

def Class.slots (surplus : Fault) : List (Slot Class) := [
  ⟨"name", true, fun j c => return { c with name := ← j.asString }⟩,
  ⟨"package", false, fun j c => return { c with package := ← j.asString }⟩,
  ⟨"fields", false, fun j c => return { c with fields := ← j.asList (Field.ofJson surplus) }⟩]

def Class.ofJson (surplus : Fault) (j : Json) : Except Fault Class :=
  j.asRecord surplus (Class.slots surplus) ⟨"", "", []⟩

namespace Document

def slots (surplus : Fault) : List (Slot (List Class)) := [
  ⟨"classes", false, fun j _ => j.asList (Class.ofJson surplus)⟩]

/-- The classes of a document. -/
def ofText (text : String) : Except Fault (List Class) :=
  Json.ofText (fun j => j.asRecord .malformed (slots .malformed) []) text

end Document

def EmitSettings.slots : List (Slot EmitSettings) := [
  ⟨"output_folder", false, fun j s => return { s with outputFolder := ← j.asString }⟩,
  ⟨"filename_prefix", false, fun j s => return { s with filePrefix := ← j.asString }⟩,
  ⟨"filename_suffix", false, fun j s => return { s with fileSuffix := ← j.asString }⟩,
  ⟨"overwrite_existing", false, fun j s => return { s with overwrite := ← j.asBool }⟩,
  ⟨"wrap_in_namespace", false, fun j s => return { s with wrapInNamespace := ← j.asBool }⟩,
  ⟨"include_non_public_fields", false, fun j s =>
    return { s with includeNonPublic := ← j.asBool }⟩,
  ⟨"explicit_namespace", false, fun j s =>
    return { s with explicitNamespace := ← j.asOption Json.asString }⟩]

def EmitSettings.ofJson (surplus : Fault) (j : Json) : Except Fault EmitSettings :=
  j.asRecord surplus EmitSettings.slots {}

def Modifiers.toJson (m : Modifiers) : Json := .array (m.keywords.map .string) none

/-- A qualified type name is written only when there is one. -/
def Field.toJson (f : Field) : Json :=
  .object ([(.string "name", .string f.name), (.string "type", .string f.typeName)] ++
    (f.qualifiedTypeName.map fun q => (.string "qualified_type", .string q)).toList ++
    [(.string "array", .bool f.isArray), (.string "modifiers", f.modifiers.toJson)])

def Class.toJson (c : Class) : Json :=
  .object [(.string "name", .string c.name), (.string "package", .string c.package),
    (.string "fields", .array (c.fields.map Field.toJson) none)]

def Document.toText (classes : List Class) : String :=
  Json.text (.object [(.string "classes", .array (classes.map Class.toJson) none)])

end ClassExport
