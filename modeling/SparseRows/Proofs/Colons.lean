import Std.Data.String.ToNat
import SparseRows.Proofs.Lists
import SparseRows.RowHash

/-!
# Parts around a colon

Numbers are written next to texts with a colon in between. A decimal number has no colon, so the parts can be told apart
whatever colons and digits the text has: a number at the end is behind the last colon, and one at the start is before the
first.
-/

namespace SparseRows

namespace Text

/-- What a decimal text is made of. -/
theorem isDigit_of_mem_repr {n : Nat} {c : Char} (h : c ∈ n.repr.toList) : c.isDigit = true := by
  rw [Nat.toList_repr] at h
  exact Nat.isDigit_of_mem_toDigits (by decide) (by decide) h

/-- The decimal text of a number has no colon. -/
theorem colon_notMem_repr (n : Nat) : ':' ∉ n.repr.toList :=
  fun h => absurd (isDigit_of_mem_repr h) (by decide)

/-- The text before the last colon and the number behind it. -/
theorem numbered_inj {a b : String} {m n : Nat} (h : a ++ ":" ++ m.repr = b ++ ":" ++ n.repr) : a = b ∧ m = n := by
  have hlist : a.toList ++ ':' :: m.repr.toList = b.toList ++ ':' :: n.repr.toList := by
    have := congrArg String.toList h
    simpa [String.toList_append] using this
  have hreverse := congrArg List.reverse hlist
  simp only [List.reverse_append, List.reverse_cons, List.append_assoc, List.cons_append, List.nil_append] at hreverse
  have hm : ':' ∉ m.repr.toList.reverse := fun hmem => colon_notMem_repr m (List.mem_reverse.mp hmem)
  have hn : ':' ∉ n.repr.toList.reverse := fun hmem => colon_notMem_repr n (List.mem_reverse.mp hmem)
  obtain ⟨hnumber, htext⟩ := append_cons_inj_of_notMem hm hn hreverse
  exact ⟨String.toList_inj.mp (List.reverse_inj.mp htext), Nat.repr_injective (String.toList_inj.mp (List.reverse_inj.mp hnumber))⟩

end Text

namespace RowKey

/-- The bytes of a text determine it. -/
theorem utf8_inj {s t : String} (h : s.toUTF8.data.toList = t.toUTF8.data.toList) : s = t := by
  have hdata : s.toUTF8.data = t.toUTF8.data := Array.toList_inj.mp h
  exact String.toByteArray_inj.mp (ByteArray.ext hdata)

/-- The bytes of a decimal text have no colon among them. -/
theorem colon_notMem_utf8_repr (n : Nat) : 0x3a ∉ n.repr.toUTF8.data.toList := by
  intro h
  rw [String.toUTF8_eq_toByteArray, ← String.utf8Encode_toList] at h
  have hbytes : 0x3a ∈ n.repr.toList.flatMap String.utf8EncodeChar := by
    simpa [List.utf8Encode] using h
  obtain ⟨c, hc, hbyte⟩ := List.mem_flatMap.mp hbytes
  have hdigit := Text.isDigit_of_mem_repr hc
  simp only [Char.isDigit, Bool.and_eq_true, decide_eq_true_eq, ge_iff_le, UInt32.le_iff_toNat_le] at hdigit
  have hnine : c.val.toNat ≤ 57 := hdigit.2
  have hsize : c.utf8Size = 1 := Char.utf8Size_eq_one_iff.mpr (UInt32.le_iff_toNat_le.mpr (Nat.le_trans hnine (by decide)))
  rw [String.utf8EncodeChar_eq_singleton hsize, List.mem_singleton] at hbyte
  have hvalue := congrArg UInt8.toNat hbyte
  rw [UInt32.toNat_toUInt8, Nat.mod_eq_of_lt (by omega)] at hvalue
  exact absurd (hvalue ▸ hnine) (by decide)

/-- A text that is written after its length can be told from what follows. -/
theorem measured_append_inj {s t : String} {rest rest' : List UInt8} (h : measured s ++ rest = measured t ++ rest') :
    s = t ∧ rest = rest' := by
  simp only [measured, List.append_assoc, List.cons_append, List.nil_append] at h
  obtain ⟨hnumber, hrest⟩ := append_cons_inj_of_notMem (colon_notMem_utf8_repr _) (colon_notMem_utf8_repr _) h
  have hsize : s.utf8ByteSize = t.utf8ByteSize := Nat.repr_injective (utf8_inj hnumber)
  obtain ⟨htext, hrest⟩ := List.append_inj hrest hsize
  exact ⟨utf8_inj htext, hrest⟩

end RowKey

end SparseRows
