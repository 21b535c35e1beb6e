import SparseRows.Text.Decimal

/-!
# Column values

A column holds a text, an integer, a truth value or bytes. The views read a value as one of these: a text also reads as the
integer or truth value that it spells, because stores that keep text alone give every scalar back as text.
-/

namespace SparseRows

/-- Bytes in order. -/
abbrev Bytes := List UInt8

/-- A column value. -/
inductive Value where
  | text (s : String)
  | integer (i : Int64)
  | boolean (b : Bool)
  | binary (bytes : Bytes)
  deriving DecidableEq, Repr

namespace Value

/-- The text of a text value. -/
def asText? : Value → Option String
  | text s => some s
  | _ => none

/-- The integer of an integer value, or the one that a text value spells. -/
def asInteger? : Value → Option Int64
  | integer i => some i
  | text s => Text.readWord s.toList
  | _ => none

/-- The truth value that a text spells: `true` and `false` alone, in lower case. -/
def readBoolean (s : String) : Option Bool :=
  if s = "true" then some true else if s = "false" then some false else none

/-- The truth value of a truth value, or the one that a text value spells. -/
def asBoolean? : Value → Option Bool
  | boolean b => some b
  | text s => readBoolean s
  | _ => none

/-- The bytes of a binary value. -/
def asBytes? : Value → Option Bytes
  | binary bytes => some bytes
  | _ => none

/-- Whether the value holds bytes. -/
def isBinary : Value → Bool
  | binary _ => true
  | _ => false

/-- The text that stands for a value in a store of texts; bytes have none. -/
def toText? : Value → Option String
  | text s => some s
  | integer i => some (Text.writeWord i)
  | boolean b => some (if b then "true" else "false")
  | binary _ => none

/-- The value for a reader: its text, or the number of its bytes. -/
def describe : Value → String
  | binary bytes => "<" ++ bytes.length.repr ++ " bytes>"
  | text s => s
  | integer i => Text.writeWord i
  | boolean b => if b then "true" else "false"

/-- A value has no text exactly if it holds bytes. -/
theorem toText?_eq_none_iff {v : Value} : v.toText? = none ↔ v.isBinary = true := by
  cases v <;> simp [toText?, isBinary]

end Value

end SparseRows
