import ClassExport.Json.Value

/-! JSON values to indented text. -/
namespace ClassExport.Json

def hexChar (n : Nat) : Char :=
  if n < 10 then Char.ofNat ('0'.toNat + n) else Char.ofNat ('a'.toNat + (n - 10))

/-- Quotes, backslashes and control characters are escaped; every other character is written as it
is. -/
def escapeChar (c : Char) : List Char :=
  if c = '"' then ['\\', '"']
  else if c = '\\' then ['\\', '\\']
  else if c = '\x08' then ['\\', 'b']
  else if c = '\x0c' then ['\\', 'f']
  else if c = '\n' then ['\\', 'n']
  else if c = '\r' then ['\\', 'r']
  else if c = '\t' then ['\\', 't']
  else if c.toNat < 0x20 then ['\\', 'u', '0', '0', hexChar (c.toNat / 16), hexChar (c.toNat % 16)]
  else [c]

def quote (s : String) : List Char := '"' :: s.toList.flatMap escapeChar ++ ['"']

def newLine (depth : Nat) : List Char := '\n' :: List.replicate (2 * depth) ' '

mutual

/-- Two spaces a level; empty arrays and objects stay on one line. -/
def print (depth : Nat) : Json → List Char
  | .null | .flawed _ _ => "null".toList
  | .bool true => "true".toList
  | .bool false => "false".toList
  | .number text => text.toList
  | .string s => quote s
  | .array [] _ => ['[', ']']
  | .array (j :: js) _ =>
    '[' :: newLine (depth + 1) ++ print (depth + 1) j ++ printItems (depth + 1) js ++
      newLine depth ++ [']']
  | .object [] => ['\x7b', '\x7d']
  | .object ((k, v) :: ms) =>
    '\x7b' :: newLine (depth + 1) ++ print (depth + 1) k ++ [':', ' '] ++ print (depth + 1) v ++
      printMembers (depth + 1) ms ++ newLine depth ++ ['\x7d']

def printItems (depth : Nat) : List Json → List Char
  | [] => []
  | j :: js => ',' :: newLine depth ++ print depth j ++ printItems depth js

def printMembers (depth : Nat) : List (Json × Json) → List Char
  | [] => []
  | (k, v) :: ms =>
    ',' :: newLine depth ++ print depth k ++ [':', ' '] ++ print depth v ++ printMembers depth ms

end

def text (j : Json) : String := String.ofList (print 0 j)

end ClassExport.Json
