import ClassExport.Text.Identifier
import ClassExport.Text.MarkRanges

/-! Characters with the marks that belong to them. -/
namespace ClassExport.Text

def isExtending (c : Char) : Bool := 0x80 ≤ c.toNat && inRanges extendingRanges c.toNat

/-- Cuts a text before every character that is no mark; a joiner holds on like a mark. -/
def clusters : List Char → List (List Char)
  | [] => []
  | c :: cs =>
    match clusters cs with
    | (d :: ds) :: rest =>
      if isExtending d || d = '\u200d' then (c :: d :: ds) :: rest else [c] :: (d :: ds) :: rest
    | rest => [c] :: rest

end ClassExport.Text
