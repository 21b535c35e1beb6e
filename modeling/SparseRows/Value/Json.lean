import SparseRows.Json.Basic
import SparseRows.Value

/-!
# Column values in JSON

A value has no tag in JSON: a text is a string, an integer a number, a truth value itself, and bytes are an array of
numbers. Which one is meant shows in the shape alone.
-/

namespace SparseRows.Value

/-- The JSON of a value. -/
def toJson : Value → Json
  | text s => .ofText s
  | integer i => .ofInt i.toInt
  | boolean b => .boolean b
  | binary bytes => .array (bytes.map fun b => .ofInt b.toNat)

/-- The byte that a number stands for. -/
def byteOfJson (v : Json) : Option UInt8 :=
  v.integer?.bind fun i => if 0 ≤ i ∧ i < 256 then some (UInt8.ofNat i.toNat) else none

/-- The value that JSON stands for, if its shape is one of the four. -/
def ofJson : Json → Option Value
  | .string pieces => (Json.textOf pieces).map text
  | .number spelling => ((Json.integerOf spelling).bind Text.toWord?).map integer
  | .boolean b => some (boolean b)
  | .array items => (items.mapM byteOfJson).map binary
  | _ => none

end SparseRows.Value
