import ClassExport.Text.Cluster

/-! Text in quotes, with escapes for what would not be seen or would end the quotation. -/
namespace ClassExport.Text

def isHidden (c : Char) : Bool :=
  c.toNat < 0x20 || isExtending c || (0x7f ≤ c.toNat && inRanges hiddenRanges c.toNat)

def numberEscape (c : Char) : List Char :=
  "\\u\x7b".toList ++ Nat.toDigits 16 c.toNat ++ ['\x7d']

def quotedChar (c : Char) : List Char :=
  match c with
  | '\x00' => ['\\', '0']
  | '\t' => ['\\', 't']
  | '\r' => ['\\', 'r']
  | '\n' => ['\\', 'n']
  | '"' | '\'' | '\\' => ['\\', c]
  | c => if isHidden c then numberEscape c else [c]

def quoted (s : String) : String := String.ofList ('"' :: s.toList.flatMap quotedChar ++ ['"'])

end ClassExport.Text
