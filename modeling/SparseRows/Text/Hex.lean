/-!
# Hexadecimal digits

Lower-case hexadecimal writing, and reading that takes both cases.
-/

namespace SparseRows.Text

/-- The lower-case digit of a number below sixteen. -/
def hexDigit (n : Nat) : Char :=
  if n < 10 then Char.ofNat ('0'.toNat + n) else Char.ofNat ('a'.toNat + (n - 10))

/-- The last four hexadecimal digits of a number. -/
def hexWord (n : Nat) : List Char :=
  [hexDigit (n / 4096 % 16), hexDigit (n / 256 % 16), hexDigit (n / 16 % 16), hexDigit (n % 16)]

/-- The number of a hexadecimal digit. -/
def readHexDigit (c : Char) : Option Nat :=
  if '0' ≤ c ∧ c ≤ '9' then some (c.toNat - '0'.toNat)
  else if 'a' ≤ c ∧ c ≤ 'f' then some (c.toNat - 'a'.toNat + 10)
  else if 'A' ≤ c ∧ c ≤ 'F' then some (c.toNat - 'A'.toNat + 10)
  else none

/-- The number of four hexadecimal digits. -/
def readHexWord (a b c d : Char) : Option Nat := do
  return ((← readHexDigit a) * 16 + (← readHexDigit b)) * 256 + (← readHexDigit c) * 16 + (← readHexDigit d)

end SparseRows.Text
