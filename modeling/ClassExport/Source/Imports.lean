import Std.Data.TreeMap
import ClassExport.Source.Syntax

/-! The names that the imports of a module bind. -/
namespace ClassExport.Source

/-- From a bound name to the path that it stands for. -/
abbrev Imports := Std.TreeMap String String

namespace Imports

def pathText (segments : List String) : String := "::".intercalate segments

mutual

/-- Binds what the tree imports below the segments of `path`; a later binding replaces an earlier
one. -/
def bind (path : List String) : UseTree → Imports → Imports
  | .path name tree, table => bind (path ++ [name]) tree table
  | .name name, table => table.insert name (pathText (path ++ [name]))
  | .rename name newName, table => table.insert newName (pathText (path ++ [name]))
  | .glob, table => table
  | .group trees, table => bindAll path trees table

def bindAll (path : List String) : List UseTree → Imports → Imports
  | [], table => table
  | tree :: trees, table => bindAll path trees (bind path tree table)

end

/-- The imports among the items of one module; those of modules inside it do not count. -/
def ofItems (items : List Item) : Imports :=
  items.foldl (fun table item => match item with
    | .use tree => bind [] tree table
    | _ => table) ∅

end Imports
end ClassExport.Source
