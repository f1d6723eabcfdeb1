import ClassExport.Source.Literal
import ClassExport.Source.Token
import ClassExport.Source.Trivia

/-! Source text to tokens with balanced brackets. -/
namespace ClassExport.Source

def punctuation : List Char := "~!@#$%^&*-=+|;:,<.>/?'".toList

/-- A punctuation character; the slash of a comment is none. -/
def isPunctAt : List Char → Bool
  | '/' :: '/' :: _ | '/' :: '*' :: _ => false
  | c :: _ => punctuation.contains c
  | [] => false

/-- An identifier, raw or not; the words that name paths cannot be raw. -/
def afterIdentifier? : List Char → Option (List Char)
  | 'r' :: '#' :: cs =>
    match afterWord? cs with
    | some rest =>
      let word := String.ofList (cs.take (cs.length - rest.length))
      if ["_", "super", "self", "Self", "crate"].contains word then none else some rest
    | none => none
  | cs => afterWord? cs

/-- Beginnings of literals that are no identifiers even where the literal is not complete. -/
def literalPrefixes : List (List Char) :=
  ["r\"", "r#\"", "r##", "b\"", "b'", "br\"", "br#", "c\"", "cr\"", "cr#"].map String.toList

def afterWordToken? (cs : List Char) : Option (List Char) :=
  if literalPrefixes.any (·.isPrefixOf cs) then none else afterIdentifier? cs

/-- Whether a quote begins a lifetime: an identifier follows it, and no quote follows that. -/
def beginsLifetime (cs : List Char) : Bool :=
  match afterIdentifier? cs with
  | none | some ('\'' :: _) => false
  | some ('#' :: _) => "r#".toList.isPrefixOf cs
  | some _ => true

def before (cs rest : List Char) : String := String.ofList (cs.take (cs.length - rest.length))

theorem before_append (cs rest : List Char) : before (cs ++ rest) rest = String.ofList cs := by
  simp [before]

theorem exists_identifier {cs rest : List Char} (h : afterWord? cs = some rest) :
    ∃ word, cs = word ++ rest ∧ Text.isIdentifier word := by
  cases cs with
  | nil => cases h
  | cons c cs =>
    rw [afterWord?] at h
    split at h
    · rename_i hc
      cases h
      exact ⟨c :: cs.takeWhile Text.isIdentifierPart, by simp, by simp [Text.isIdentifier, hc]⟩
    · cases h

/-- What is taken for a word is one. -/
theorem isWord_before {cs rest : List Char} (h : afterWordToken? cs = some rest) :
    isWord (before cs rest).toList := by
  rw [afterWordToken?] at h
  split at h
  · cases h
  rw [afterIdentifier?.eq_def] at h
  split at h
  · rename_i cs _
    cases hw : afterWord? cs with
    | none => simp [hw] at h
    | some after =>
      simp only [hw] at h
      split at h
      · cases h
      · cases h
        obtain ⟨word, rfl, hi⟩ := exists_identifier hw
        have hraw : 'r' :: '#' :: (word ++ rest) = ('r' :: '#' :: word) ++ rest := rfl
        rw [hraw, before_append, String.toList_ofList]
        exact hi
  · obtain ⟨word, rfl, hi⟩ := exists_identifier h
    rw [before_append, String.toList_ofList]
    exact isWord_of_isIdentifier hi

/-- One token other than a bracket, and the text after it. -/
def leaf? (cs : List Char) : Option (Token × List Char) :=
  match afterLiteral? cs with
  | some rest => some (.literal (before cs rest), rest)
  | none =>
    match cs with
    | '\'' :: rest =>
      if !beginsLifetime rest then none
      else match afterLiteral? rest, afterWordToken? rest with
        | none, some after => some (.lifetime (before rest after), after)
        | _, _ => some (.punct '\'' true, rest)
    | c :: rest =>
      if isPunctAt cs then some (.punct c (isPunctAt rest), rest)
      else match h : afterWordToken? cs with
        | some after => some (.word ⟨before cs after, isWord_before h⟩, after)
        | none => none
    | [] => none

/-- A documentation comment is an attribute. -/
def DocComment.tokens (doc : DocComment) : List Token :=
  .punct '#' false :: (if doc.inner then [.punct '!' false] else []) ++
    [.opening .bracket, .word ⟨"doc", by decide⟩, .punct '=' false, .literal "\"\"",
      .closing .bracket]

def opened? : Char → Option Delimiter
  | '(' => some .paren
  | '[' => some .bracket
  | '\x7b' => some .brace
  | _ => none

def closed? : Char → Option Delimiter
  | ')' => some .paren
  | ']' => some .bracket
  | '\x7d' => some .brace
  | _ => none

/-- Stands for one literal that could not be written out. -/
def errorMark : List Char := "(/*ERROR*/)".toList

/-- The tokens of the text inside the groups of `stack`, the innermost first. -/
def tokensWithin : Nat → List Delimiter → List Char → Option (List Token)
  | 0, _, _ => none
  | fuel + 1, stack, cs =>
    let cs := skipTrivia cs
    match docComment? cs with
    | some doc => (doc.tokens ++ ·) <$> tokensWithin fuel stack doc.rest
    | none =>
      match cs with
      | [] => if stack.isEmpty then some [] else none
      | c :: rest =>
        if errorMark.isPrefixOf cs then
          (.literal (String.ofList errorMark) :: ·) <$> tokensWithin fuel stack
            (cs.drop errorMark.length)
        else match opened? c, closed? c, stack with
          | some d, _, _ => (.opening d :: ·) <$> tokensWithin fuel (d :: stack) rest
          | none, some d, e :: stack =>
            if d = e then (.closing d :: ·) <$> tokensWithin fuel stack rest else none
          | none, some _, [] => none
          | none, none, _ =>
            match leaf? cs with
            | some (token, rest) => (token :: ·) <$> tokensWithin fuel stack rest
            | none => none

def dropByteOrderMark : List Char → List Char
  | '\ufeff' :: cs => cs
  | cs => cs

/-- The tokens of a text, unless it holds something that is no token or its brackets do not
match. -/
def tokens? (cs : List Char) : Option (List Token) :=
  let cs := dropByteOrderMark cs
  tokensWithin (cs.length + 1) [] cs

end ClassExport.Source
