/-!
# Decimal integers

Whole numbers as text. Reading takes an optional sign and at least one digit, nothing else, and no number outside the 64-bit
range, be it signed or not; writing gives the digits without leading zeros, after a minus sign where the number is negative.
-/

namespace SparseRows.Text

/-- The most digits that a 64-bit word has. -/
def wordDigits : Nat := 20

/-- The number that a non-empty row of digits stands for, unless it has more digits than any word. Zeros at the start do not
count. -/
def readNatural (cs : List Char) : Option Nat :=
  if cs ≠ [] ∧ cs.all Char.isDigit ∧ (cs.dropWhile (· == '0')).length ≤ wordDigits then some (Nat.ofDigitChars 10 cs 0)
  else none

/-- The number that digits after an optional sign stand for. -/
def readInteger : List Char → Option Int
  | '-' :: digits => (readNatural digits).map fun n => -(n : Int)
  | '+' :: digits => (readNatural digits).map Int.ofNat
  | digits => (readNatural digits).map Int.ofNat

/-- The integer as a 64-bit word, if it is in range. -/
def toWord? (i : Int) : Option Int64 :=
  if Int64.minValue.toInt ≤ i ∧ i ≤ Int64.maxValue.toInt then some (Int64.ofInt i) else none

/-- The 64-bit word that a text stands for. -/
def readWord (cs : List Char) : Option Int64 :=
  (readInteger cs).bind toWord?

/-- The decimal text of a 64-bit word. -/
def writeWord (i : Int64) : String :=
  i.toInt.repr

end SparseRows.Text
