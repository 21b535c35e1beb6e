import SparseRows.Proofs.Decimal
import SparseRows.Value

/-!
# The views of a value in a store of texts

A store that keeps text alone gives back the text of every value. What a value reads as, an integer or a truth value, its
text reads as too, since integers are read back from their digits and no text spells both an integer and a truth value
(`readWord_of_readBoolean`).
-/

namespace SparseRows.Value

/-- What spells a truth value is its text. -/
theorem readBoolean_eq_some_iff {s : String} {b : Bool} : readBoolean s = some b ↔ (boolean b).toText? = some s := by
  unfold readBoolean toText?
  by_cases htrue : s = "true"
  · subst htrue
    cases b <;> decide
  by_cases hfalse : s = "false"
  · subst hfalse
    cases b <;> decide
  · rw [if_neg htrue, if_neg hfalse]
    constructor
    · intro hread
      cases hread
    · intro htext
      obtain rfl := Option.some.inj htext
      cases b with
      | true => exact absurd rfl htrue
      | false => exact absurd rfl hfalse

/-- What spells a truth value spells no integer. -/
theorem readWord_of_readBoolean {s : String} {b : Bool} (h : readBoolean s = some b) : Text.readWord s.toList = none := by
  obtain rfl := Option.some.inj (readBoolean_eq_some_iff.mp h)
  cases b <;> decide

/-- The text of an integer is no truth value. -/
theorem readBoolean_writeWord (i : Int64) : readBoolean (Text.writeWord i) = none := by
  rw [Option.eq_none_iff_forall_ne_some]
  intro b hread
  have hword := readWord_of_readBoolean hread
  rw [Text.readWord_writeWord] at hword
  cases hword

/-- No value reads both as an integer and as a truth value. -/
theorem asInteger?_eq_none_or_asBoolean?_eq_none (v : Value) : v.asInteger? = none ∨ v.asBoolean? = none := by
  cases v with
  | text s =>
    cases hread : readBoolean s with
    | none => exact .inr hread
    | some b => exact .inl (readWord_of_readBoolean hread)
  | integer i => exact .inr rfl
  | boolean b => exact .inl rfl
  | binary bytes => exact .inl rfl

/-- A value reads as a truth value just if its text is the text of that truth value. -/
theorem asBoolean?_eq_some_iff {v : Value} {b : Bool} : v.asBoolean? = some b ↔ v.toText? = (boolean b).toText? := by
  cases v with
  | text s => exact readBoolean_eq_some_iff.trans eq_comm
  | integer i =>
    constructor
    · intro hread
      cases hread
    · intro htext
      have hread := readBoolean_eq_some_iff.mpr htext.symm
      rw [readBoolean_writeWord] at hread
      cases hread
  | boolean b' => cases b <;> cases b' <;> decide
  | binary bytes => simp [asBoolean?, toText?]

/-- A store of texts keeps the views of every value but bytes: its text reads as the integer that the value reads as, or as
none if it reads as none, likewise as the truth value, and has itself as its text. So every integer, down to the least one,
is read back from its digits, and both truth values from their texts, which are the only ones that read so; and no value,
hence no text, reads both as an integer and as a truth value. -/
theorem views_kept_in_text :
    (∀ v : Value, v.isBinary = false → ∃ s, v.toText? = some s ∧
      (text s).asInteger? = v.asInteger? ∧ (text s).asBoolean? = v.asBoolean? ∧ (text s).toText? = v.toText?) ∧
    (∀ i : Int64, (integer i).toText? = some (Text.writeWord i) ∧ (text (Text.writeWord i)).asInteger? = some i) ∧
    (∀ b : Bool, ∃ s, (boolean b).toText? = some s ∧ (text s).asBoolean? = some b ∧
      ∀ v : Value, v.asBoolean? = some b ↔ v.toText? = some s) ∧
    ∀ v : Value, v.asInteger? = none ∨ v.asBoolean? = none := by
  refine ⟨fun v htextual => ?_, fun i => ⟨rfl, Text.readWord_writeWord i⟩, fun b => ?_, asInteger?_eq_none_or_asBoolean?_eq_none⟩
  · cases v with
    | text s => exact ⟨s, rfl, rfl, rfl, rfl⟩
    | integer i => exact ⟨_, rfl, Text.readWord_writeWord i, readBoolean_writeWord i, rfl⟩
    | boolean b =>
      have hread : readBoolean (if b then "true" else "false") = some b := readBoolean_eq_some_iff.mpr rfl
      exact ⟨_, rfl, readWord_of_readBoolean hread, hread, rfl⟩
    | binary bytes => cases htextual
  · have hread : (boolean b).toText? = some (if b then "true" else "false") := rfl
    exact ⟨_, hread, readBoolean_eq_some_iff.mpr hread, fun v => hread ▸ asBoolean?_eq_some_iff⟩

/-- The least integer, as a store of texts gives it back. -/
theorem views_kept_in_text_of_least :
    (integer Int64.minValue).isBinary = false ∧
      (text "-9223372036854775808").asInteger? = some Int64.minValue ∧ (text "-9223372036854775808").asBoolean? = none := by
  obtain ⟨s, htext, hinteger, hboolean, -⟩ := views_kept_in_text.1 (integer Int64.minValue) rfl
  obtain rfl : "-9223372036854775808" = s := Option.some.inj htext
  exact ⟨rfl, hinteger, hboolean⟩

end SparseRows.Value
