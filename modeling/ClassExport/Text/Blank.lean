/-! White space in the sense of Unicode's `White_Space` property. -/
namespace ClassExport.Text

def isBlank (c : Char) : Bool :=
  let n := c.toNat
  (0x09 ≤ n && n ≤ 0x0d) || n == 0x20 || n == 0x85 || n == 0xa0 || n == 0x1680 ||
    (0x2000 ≤ n && n ≤ 0x200a) || n == 0x2028 || n == 0x2029 || n == 0x202f || n == 0x205f ||
    n == 0x3000

def trimChars (cs : List Char) : List Char :=
  ((cs.dropWhile isBlank).reverse.dropWhile isBlank).reverse

/-- The text without the white space at its two ends. -/
def trim (s : String) : String := String.ofList (trimChars s.toList)

/-- Text that is empty once trimmed counts as absent in most settings. -/
def isBlankText (s : String) : Bool := s.toList.all isBlank

/-- A setting that is blank is dropped; any other is kept as written. -/
def nonBlank? (s : String) : Option String := if isBlankText s then none else some s

end ClassExport.Text
