import ClassExport.Text.Blank

/-! Names under which classes are asked for. -/
namespace ClassExport.ClassName

/-- Each pair of colons becomes a dot, from the left. -/
def dotted : List Char → List Char
  | ':' :: ':' :: cs => '.' :: dotted cs
  | c :: cs => c :: dotted cs
  | [] => []

/-- The form in which names are compared: trimmed, with dots between segments. -/
def normalize (name : String) : String := String.ofList (dotted (Text.trimChars name.toList))

/-- The name without one leading `crate` segment. -/
def tail (normalized : String) : String :=
  if "crate.".toList.isPrefixOf normalized.toList
    then String.ofList (normalized.toList.drop 6) else normalized

/-- Whether a qualified name is the tail or ends with it after a dot. -/
def endsWithTail (qualified tail : String) : Bool :=
  qualified = tail || ('.' :: tail.toList).isSuffixOf qualified.toList

end ClassExport.ClassName
