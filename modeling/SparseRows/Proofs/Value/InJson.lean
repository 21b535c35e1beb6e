import SparseRows.Proofs.Json.Compact
import SparseRows.Value.Json

/-!
# Values survive JSON

A value has no tag in JSON, and still its JSON text is read as the value that it was written of (`ofJson_of_toText`): the shape
tells texts, integers, truth values and bytes apart, and none of them loses anything on the way through characters.
-/

namespace SparseRows.Value

/-- A byte is read back from its number. -/
theorem byteOfJson_ofInt (b : UInt8) : byteOfJson (.ofInt b.toNat) = some b := by
  have hbound : b.toNat < 256 := b.toNat_lt
  have hdigits : (b.toNat : Int).natAbs < 10 ^ Text.wordDigits := Nat.lt_trans hbound (by decide)
  rw [byteOfJson, Json.integer?_ofInt hdigits, Option.bind_some, if_pos ⟨by omega, by omega⟩, Int.toNat_natCast, UInt8.ofNat_toNat]

/-- So are bytes from theirs. -/
theorem mapM_byteOfJson (bytes : Bytes) : (bytes.map fun b => Json.ofInt b.toNat).mapM byteOfJson = some bytes := by
  induction bytes with
  | nil => rfl
  | cons b bytes ih => simp [byteOfJson_ofInt, ih]

/-- A value is known by the shape and the parts of its JSON. -/
theorem ofJson_toJson (v : Value) : ofJson v.toJson = some v := by
  cases v with
  | text s => exact congrArg (Option.map text) (Json.textOf_piecesOf s)
  | integer i =>
    have hread : Json.integerOf i.toInt.repr.toList = some i.toInt := Json.integer?_ofInt (Text.natAbs_toInt_lt i)
    rw [toJson, Json.ofInt, ofJson, hread, Option.bind_some, Text.toWord?_toInt]
    rfl
  | boolean b => rfl
  | binary bytes => exact congrArg (Option.map binary) (mapM_byteOfJson bytes)

/-- What is written of a value is a text of its JSON. -/
theorem grammar_render (v : Value) : Json.Grammar.Value v.toJson v.toJson.render := by
  cases v with
  | text s => exact .ofText s
  | integer i => exact .ofInt i.toInt
  | boolean b =>
    cases b with
    | true => exact .yes
    | false => exact .no
  | binary bytes =>
    refine .array_render fun item hitem => ?_
    obtain ⟨b, -, rfl⟩ := List.mem_map.mp hitem
    exact .ofInt b.toNat

/-- A value is read back from its JSON text: the same text, integer, truth value or bytes, and the same of the four. -/
theorem ofJson_of_toText (v : Value) : (Json.parse v.toJson.toText).bind ofJson = some v := by
  rw [v.grammar_render.element_toText.parse_eq, Option.bind_some, ofJson_toJson]

end SparseRows.Value
