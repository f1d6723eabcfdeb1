/-! Cutting text at a separator, and replacing one text by another. -/
namespace ClassExport.Text

/-- The pieces between the separators; there is always one more piece than separators. -/
def pieces (sep : Char) : List Char → List (List Char)
  | [] => [[]]
  | c :: cs =>
    if c = sep then [] :: pieces sep cs
    else match pieces sep cs with
      | [] => [[c]]
      | p :: ps => (c :: p) :: ps

/-- The text after `prior`, when the text begins with it. -/
def dropPrior? : List Char → List Char → Option (List Char)
  | [], cs => some cs
  | _ :: _, [] => none
  | p :: ps, c :: cs => if p = c then dropPrior? ps cs else none

/-- Skips `k` characters, then replaces every occurrence of `old` from the left, without overlap. -/
def replaceFrom (old new : List Char) : Nat → List Char → List Char
  | _, [] => []
  | k + 1, _ :: cs => replaceFrom old new k cs
  | 0, c :: cs =>
    if !old.isEmpty && old.isPrefixOf (c :: cs) then new ++ replaceFrom old new (old.length - 1) cs
    else c :: replaceFrom old new 0 cs

/-- Every occurrence of a non-empty `old`, from the left and without overlap, becomes `new`. -/
def replaceChars (old new cs : List Char) : List Char := replaceFrom old new 0 cs

end ClassExport.Text
