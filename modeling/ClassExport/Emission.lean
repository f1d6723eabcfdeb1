import ClassExport.Text.Blank
import ClassExport.TypeMapping

/-! The text of an exported class and the path of its file. -/
namespace ClassExport

structure EmitSettings where
  outputFolder : String := ""
  filePrefix : String := ""
  fileSuffix : String := ""
  overwrite : Bool := true
  wrapInNamespace : Bool := false
  includeNonPublic : Bool := true
  explicitNamespace : Option String := none
deriving DecidableEq, Repr

namespace EmitSettings

def folderText (s : EmitSettings) : String :=
  if !Text.isBlankText s.outputFolder && s.outputFolder.toList.getLast? != some '/'
    then s.outputFolder ++ "/"
  else s.outputFolder

def outputPath (s : EmitSettings) (className : String) : Path :=
  ⟨s.folderText ++ s.filePrefix ++ Text.lowerFirst className ++ s.fileSuffix ++ ".ts"⟩

/-- An explicit name that is blank gives way to the package. -/
def namespaceOf (s : EmitSettings) (c : Class) : String :=
  (s.explicitNamespace.bind Text.nonBlank?).getD c.package

def emits (s : EmitSettings) (f : Field) : Bool := s.includeNonPublic || f.modifiers.isPublic

end EmitSettings

/-- The space after the semicolon stays when there is no comment. -/
def Field.line (f : Field) : String :=
  "\tpublic " ++ f.name ++ ": " ++ f.mapped.targetType ++ "; " ++ f.mapped.renderedComment

def Class.lines (c : Class) (s : EmitSettings) : List String :=
  let declaration :=
    ("export class " ++ c.name ++ " \x7b") :: (c.fields.filter s.emits).map Field.line ++ ["\x7d"]
  if s.wrapInNamespace then ("namespace " ++ s.namespaceOf c ++ " \x7b") :: declaration ++ ["\x7d"]
  else declaration

/-- Every line ends with a line feed. -/
def Class.render (c : Class) (s : EmitSettings) : String := "\n".intercalate (c.lines s) ++ "\n"

end ClassExport
