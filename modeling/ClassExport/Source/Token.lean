import ClassExport.Text.Identifier

/-!
Tokens of Rust source. Brackets are tokens of their own; a reader is given only balanced ones.
-/
namespace ClassExport.Source

inductive Delimiter where
  | paren
  | bracket
  | brace
deriving DecidableEq, Repr

/-- An identifier, or a raw one with its `r#`. -/
def isWord : List Char → Bool
  | 'r' :: '#' :: cs => Text.isIdentifier cs
  | cs => Text.isIdentifier cs

theorem isWord_of_isIdentifier {cs : List Char} (h : Text.isIdentifier cs) : isWord cs := by
  rw [isWord.eq_def]
  split
  · have hash : Text.isIdentifierPart '#' = false := by decide
    simp [Text.isIdentifier, hash] at h
  · exact h

/-- Keywords are words too. -/
structure Word where
  text : String
  spelled : isWord text.toList
deriving DecidableEq, Repr

inductive Token where
  | word (word : Word)
  | lifetime (name : String)
  | literal (text : String)
  /-- A punctuation character is joint when another follows it at once. -/
  | punct (c : Char) (joint : Bool)
  | opening (d : Delimiter)
  | closing (d : Delimiter)
deriving DecidableEq, Repr

/-- The tokens after the group whose closing bracket lies `depth` levels up. -/
def afterGroup : Nat → List Token → List Token
  | _, [] => []
  | depth, .opening _ :: ts => afterGroup (depth + 1) ts
  | 0, .closing _ :: ts => ts
  | depth + 1, .closing _ :: ts => afterGroup depth ts
  | depth, _ :: ts => afterGroup depth ts

/-- The tokens after one token, or after one whole group; none at the end of the enclosing group. -/
def afterTree? : List Token → Option (List Token)
  | [] | .closing _ :: _ => none
  | .opening _ :: ts => some (afterGroup 0 ts)
  | _ :: ts => some ts

end ClassExport.Source
