import Mathlib.Algebra.Group.Nat.Defs
import SparseRows.Text.Decimal

/-!
# Decimal integers that are read back

An integer in decimal is read as the integer, if a word has as many digits. So a store of texts loses no word, down to the least
one.
-/

namespace SparseRows.Text

/-- The digits of a number are read as the number, if a word has as many. -/
theorem readNatural_toDigits {n : Nat} (h : n < 10 ^ wordDigits) : readNatural (Nat.toDigits 10 n) = some n := by
  have hdigits : (Nat.toDigits 10 n).all Char.isDigit := by
    rw [List.all_eq_true]
    exact fun c hc => Nat.isDigit_of_mem_toDigits (by decide) (by decide) hc
  have hlength : ((Nat.toDigits 10 n).dropWhile (· == '0')).length ≤ wordDigits :=
    Nat.le_trans (List.dropWhile_sublist _).length_le ((Nat.length_toDigits_le_iff (by decide) (by decide)).mpr h)
  rw [readNatural, if_pos ⟨Nat.toDigits_ne_nil, hdigits, hlength⟩, Nat.ofDigitChars_toDigits (by decide) (by decide)]

/-- Only the digits of zero start with zero. -/
theorem head?_toDigits {n : Nat} (h : n ≠ 0) : (Nat.toDigits 10 n).head? ≠ some '0' := by
  induction n using Nat.strongRecOn with
  | ind n ih =>
    rw [Nat.toDigits_eq_if (by decide)]
    by_cases hone : n < 10
    · rw [if_pos hone]
      have hdigits : ∀ d < 10, d ≠ 0 → d.digitChar ≠ '0' := by decide
      exact fun heq => hdigits n hone h (Option.some.inj heq)
    · have hrest := ih (n / 10) (by omega) (by omega)
      obtain ⟨c, cs, hdigits⟩ := List.exists_cons_of_ne_nil (Nat.toDigits_ne_nil (n := n / 10) (b := 10))
      rw [if_neg hone, hdigits, List.cons_append]
      rwa [hdigits] at hrest

/-- A number is read as an integer without a sign. -/
theorem readInteger_toDigits {n : Nat} (h : n < 10 ^ wordDigits) : readInteger (Nat.toDigits 10 n) = some (n : Int) := by
  have hdigit : ∀ c ∈ Nat.toDigits 10 n, c.isDigit := fun c hc => Nat.isDigit_of_mem_toDigits (by decide) (by decide) hc
  have hread := readNatural_toDigits h
  unfold readInteger
  split
  · rename_i heq
    exact absurd (hdigit '-' (heq ▸ List.mem_cons_self)) (by decide)
  · rename_i heq
    exact absurd (hdigit '+' (heq ▸ List.mem_cons_self)) (by decide)
  · rw [hread]
    rfl

/-- An integer is read back from its text, if a word has as many digits. -/
theorem readInteger_repr {i : Int} (h : i.natAbs < 10 ^ wordDigits) : readInteger i.repr.toList = some i := by
  cases i with
  | ofNat n =>
    change readInteger (Nat.repr n).toList = _
    rw [Nat.toList_repr]
    exact readInteger_toDigits h
  | negSucc n =>
    have hread : readNatural (Nat.toDigits 10 (n + 1)) = some (n + 1) := readNatural_toDigits h
    change readInteger ("-" ++ Nat.repr (n + 1)).toList = _
    have hminus : "-".toList = ['-'] := rfl
    rw [String.toList_append, Nat.toList_repr, hminus, List.singleton_append, readInteger, hread]
    rfl

/-- A word is read back from its integer. -/
theorem toWord?_toInt (i : Int64) : toWord? i.toInt = some i := by
  rw [toWord?, if_pos ⟨Int64.minValue_le_toInt i, Int64.toInt_le i⟩, Int64.ofInt_toInt]

/-- No word has more digits than words have. -/
theorem natAbs_toInt_lt (i : Int64) : i.toInt.natAbs < 10 ^ wordDigits := by
  have hlow := i.le_toInt
  have hhigh := i.toInt_lt
  have hword : 2 ^ 63 < 10 ^ wordDigits := by decide
  omega

/-- A word is read back from its text. -/
theorem readWord_writeWord (i : Int64) : readWord (writeWord i).toList = some i := by
  rw [readWord, writeWord, readInteger_repr (natAbs_toInt_lt i), Option.bind_some, toWord?_toInt]

end SparseRows.Text
