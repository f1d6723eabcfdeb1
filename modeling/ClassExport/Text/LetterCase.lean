import ClassExport.Text.CaseRanges
import ClassExport.Text.Identifier

/-! Lower-casing of characters and of texts, and which characters have another case. -/
namespace ClassExport.Text

def CaseRun.covers (r : CaseRun) (n : Nat) : Bool :=
  r.first ≤ n && n ≤ r.last && (n - r.first) % r.step == 0

/-- The lower-case form; only `İ` has one of two characters. -/
def lowerChar (c : Char) : List Char :=
  if c.toNat < 0x80 then [c.toLower]
  else if c = 'İ' then ['i', '\u0307']
  else match lowerRuns.find? (·.covers c.toNat) with
    | some r => [Char.ofNat (c.toNat + r.shift).toNat]
    | none => [c]

/-- The first character in lower case, the rest as written. -/
def lowerFirst (s : String) : String :=
  match s.toList with
  | [] => ""
  | c :: cs => String.ofList (lowerChar c ++ cs)

/-- Whether upper-casing changes the character. -/
def isRaised (c : Char) : Bool :=
  if c.toNat < 0x80 then c.isLower
  else raisedRuns.any fun (first, last, step) =>
    first ≤ c.toNat && c.toNat ≤ last && (c.toNat - first) % step == 0

def isLowered (c : Char) : Bool := lowerChar c != [c]

def isCased (c : Char) : Bool := isRaised c || isLowered c || inRanges casedExtraRanges c.toNat

/-- Whether a letter with a case comes next, characters that do not tell the end of a word apart. -/
def meetsCased (cs : List Char) : Bool :=
  (cs.find? fun c => !inRanges caseIgnorableRanges c.toNat).any isCased

/-- Lower-cases what follows `before`, which is kept backwards. A capital sigma at the end of a word
that it does not begin takes its final form. -/
def lowerFrom (before : List Char) : List Char → List Char
  | [] => []
  | c :: cs =>
    (if c = 'Σ' && meetsCased before && !meetsCased cs then ['ς'] else lowerChar c) ++
      lowerFrom (c :: before) cs

def lowerChars (cs : List Char) : List Char := lowerFrom [] cs

end ClassExport.Text
