import HandlerBundle.Text.CharSet

/-!
# Decimal digits

The decimal digits of all scripts. Each script has a block of ten, in order from zero.
-/

namespace HandlerBundle

/-- The decimal digits of all scripts; each range is made of whole blocks of ten. -/
def decimalDigitSet : CharSet := CharSet.ofGaps
  "30 9 627 9 87 9 c7 9 19d 9 77 9 77 9 77 9 77 9 77 9 77 9 77 9 77 9 77 9 61 9 77 9 47 9 117 9
    47 9 747 9 27 9 12d 9 81 9 a7 9 7 9 b7 9 57 9 87 9 7 9 89c7 9 2a7 9 27 9 c7 9 17 9 57 9 197
    9 5317 9 587 9 887 9 32d 9 81 9 3d 9 91 9 117 9 157 9 77 9 177 9 67 9 67 9 1a7 9 67 9 2f7 9
    f7 9 47 9 4cb7 9 57 9 87 9 6c75 31 941 9 1a7 9 657 9 1297 9"

/-- The value of a decimal digit of any script. -/
def digitValue? (c : Char) : Option Nat :=
  if c.toNat < 128 then
    if c.isDigit then some (c.toNat - 48) else none
  else
    (decimalDigitSet.ranges.find? fun r => r.1 ≤ c.toNat && c.toNat ≤ r.2).map fun r =>
      (c.toNat - r.1) % 10

end HandlerBundle
