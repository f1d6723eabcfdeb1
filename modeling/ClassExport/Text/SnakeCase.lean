import ClassExport.Text.Cluster
import ClassExport.Text.LetterCase

/-!
Snake case: words are found by separators and by changes of letter case, then joined by underscores.
-/
namespace ClassExport.Text

/-- A character with its marks, as far as words are told apart by it. -/
inductive Glyph where
  | separator
  | digit
  | lower
  | upper
  | other
deriving DecidableEq, Repr

def glyphOf (cluster : List Char) : Glyph :=
  match cluster with
  | ['_'] | ['-'] | [' '] => .separator
  | cluster =>
    let raised := cluster.any isRaised
    let lowered := cluster.any isLowered
    if raised && !lowered then .lower
    else if lowered && !raised then .upper
    else if cluster.all Char.isDigit then .digit
    else .other

/-- Whether a word ends between two glyphs, the second followed by `after`: where lower case changes
to upper case, between letter and digit, and before the last capital of a run that a lower-case
letter follows. -/
def endsWord (after : Option Glyph) : Glyph → Glyph → Bool
  | .lower, .upper | .lower, .digit | .upper, .digit | .digit, .lower | .digit, .upper => true
  | .upper, .upper => after = some .lower
  | _, _ => false

/-- The words of a name; `word` holds the current one backwards. Every separator ends a word, so
words can be empty. -/
def wordsFrom (word : List (List Char)) : List (List Char) → List (List (List Char))
  | [] => [word.reverse]
  | c :: cs =>
    if glyphOf c = .separator then word.reverse :: wordsFrom [] cs
    else match cs with
      | d :: rest =>
        if endsWord (rest.head?.map glyphOf) (glyphOf c) (glyphOf d)
          then (c :: word).reverse :: wordsFrom [] (d :: rest)
        else wordsFrom (c :: word) (d :: rest)
      | [] => [(c :: word).reverse]

def snakeCase (s : String) : String :=
  "_".intercalate ((wordsFrom [] (clusters s.toList)).map fun word =>
    String.ofList (lowerChars word.flatten))

end ClassExport.Text
