/-! Decimal digits with a power of ten, beside the range of 64-bit floating point. -/
namespace ClassExport.Decimal

def value (digits : List Char) : Nat := digits.foldl (fun n c => 10 * n + (c.toNat - '0'.toNat)) 0

/-- The least number that does not round to a double: it lies halfway between the largest one and
2^1024. -/
def doubleBound : Nat := Nat.pow 2 1024 - Nat.pow 2 970

/-- Whether the number that the digits write, times a power of ten, rounds to a double. -/
def fitsDouble (digits : List Char) (power : Int) : Bool :=
  let digits := digits.dropWhile (· == '0')
  let width := digits.length + power
  digits.isEmpty || width < 309 ||
    (width == 309 && value digits * Nat.pow 10 power.toNat <
      doubleBound * Nat.pow 10 (-power).toNat)

end ClassExport.Decimal
