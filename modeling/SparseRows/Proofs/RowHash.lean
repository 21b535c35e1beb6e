import Mathlib.Logic.Function.Basic
import SparseRows.Proofs.Colons

/-!
# Row hashes tell keys apart

The text of a row hash determines the digest, and what is digested determines the key, because the name space and the table
go into it after their lengths. So two keys share a row of a table only if the digest takes two different inputs to the same
bytes (`hash_separates`), whatever colons and digits the keys have.
-/

namespace SparseRows

namespace Text

/-- Different numbers below 64 have different digits. -/
theorem base64Digit_inj {m n : Nat} (hm : m < 64) (hn : n < 64) (h : base64Digit m = base64Digit n) : m = n := by
  have hall : ∀ m < 64, ∀ n < 64, base64Digit m = base64Digit n → m = n := by decide +kernel
  exact hall m hm n hn h

/-- The first of two bytes is in the first digit and the upper part of the second. -/
theorem byte_of_digits {a a' : UInt8} {m m' : Nat} (hm : m < 16) (hm' : m' < 16)
    (h : base64Digit (a.toNat / 4) = base64Digit (a'.toNat / 4))
    (h' : base64Digit (a.toNat % 4 * 16 + m) = base64Digit (a'.toNat % 4 * 16 + m')) : a = a' ∧ m = m' := by
  have ha := a.toNat_lt
  have ha' := a'.toNat_lt
  have hhigh := base64Digit_inj (by omega) (by omega) h
  have hlow := base64Digit_inj (by omega) (by omega) h'
  exact ⟨UInt8.toNat_inj.mp (by omega), by omega⟩

/-- Different bytes have different texts. -/
theorem base64Url_injective : Function.Injective base64Url := by
  intro xs ys h
  have hlength : ys.length = xs.length := by
    have := congrArg List.length h
    rw [length_base64Url, length_base64Url] at this
    omega
  fun_induction base64Url xs generalizing ys with
  | case1 a b c xs ih =>
    obtain ⟨a', ys, rfl⟩ := List.exists_cons_of_length_eq_add_one hlength
    obtain ⟨b', ys, rfl⟩ := List.exists_cons_of_length_eq_add_one (Nat.succ.inj hlength)
    obtain ⟨c', ys, rfl⟩ := List.exists_cons_of_length_eq_add_one (Nat.succ.inj (Nat.succ.inj hlength))
    have hb := b.toNat_lt
    have hb' := b'.toNat_lt
    have hc := c.toNat_lt
    have hc' := c'.toNat_lt
    simp only [base64Url, List.cons.injEq] at h
    obtain ⟨h₁, h₂, h₃, h₄, hrest⟩ := h
    obtain ⟨ha, hhigh⟩ := byte_of_digits (by omega) (by omega) h₁ h₂
    have hmiddle := base64Digit_inj (by omega) (by omega) h₃
    have hlow := base64Digit_inj (by omega) (by omega) h₄
    have hbytes : b = b' ∧ c = c' := ⟨UInt8.toNat_inj.mp (by omega), UInt8.toNat_inj.mp (by omega)⟩
    rw [ha, hbytes.1, hbytes.2, ih hrest (by simpa using hlength)]
  | case2 a b =>
    obtain ⟨a', ys, rfl⟩ := List.exists_cons_of_length_eq_add_one hlength
    obtain ⟨b', rfl⟩ := List.length_eq_one_iff.mp (Nat.succ.inj hlength)
    have hb := b.toNat_lt
    have hb' := b'.toNat_lt
    simp only [base64Url, List.cons.injEq, and_true] at h
    obtain ⟨h₁, h₂, h₃⟩ := h
    obtain ⟨ha, hhigh⟩ := byte_of_digits (by omega) (by omega) h₁ h₂
    have hlow := base64Digit_inj (by omega) (by omega) h₃
    have hbyte : b = b' := UInt8.toNat_inj.mp (by omega)
    rw [ha, hbyte]
  | case3 a =>
    obtain ⟨a', rfl⟩ := List.length_eq_one_iff.mp hlength
    simp only [base64Url, List.cons.injEq, and_true] at h
    have hbyte : a = a' := (byte_of_digits (Nat.zero_lt_succ 15) (Nat.zero_lt_succ 15) h.1 h.2).1
    rw [hbyte]
  | case4 => exact (List.eq_nil_of_length_eq_zero hlength).symm

/-- The characters that need no escape in a URL: letters and digits of ASCII, the hyphen and the low line. -/
def isUrlSafe (c : Char) : Bool :=
  c.isAlphanum || c == '-' || c == '_'

theorem isUrlSafe_base64Digit (n : Nat) : isUrlSafe (base64Digit n) = true := by
  have hall : ∀ n < 64, isUrlSafe (base64Digit n) = true := by decide +kernel
  by_cases hn : n < 64
  · exact hall n hn
  · have hlast : base64Digit n = '_' := by
      unfold base64Digit
      rw [if_neg (by omega), if_neg (by omega), if_neg (by omega), if_neg (by omega)]
    rw [hlast]
    decide

/-- Every character of the text may stand in a URL as it is. -/
theorem all_isUrlSafe_base64Url (bytes : List UInt8) : (base64Url bytes).all isUrlSafe = true := by
  fun_induction base64Url bytes with
  | case1 a b c rest ih => simp only [List.all_cons, isUrlSafe_base64Digit, ih, Bool.and_self]
  | case2 | case3 => simp only [List.all_cons, isUrlSafe_base64Digit, List.all_nil, Bool.and_self]
  | case4 => rfl

end Text

namespace RowKey

/-- What is digested for a row, as text: the lengths are decimal numbers of bytes. -/
def measuredText (k : RowKey) : String :=
  k.space.utf8ByteSize.repr ++ ":" ++ k.space ++ k.table.utf8ByteSize.repr ++ ":" ++ k.table ++ ":" ++ k.key

/-- What is hashed are the bytes of the measured text of a key. -/
theorem hashInput_eq (k : RowKey) : k.hashInput = k.measuredText.toUTF8.data.toList := by
  have happend : ∀ s t : String, (s ++ t).toUTF8.data.toList = s.toUTF8.data.toList ++ t.toUTF8.data.toList := by
    intro s t
    simp [String.toUTF8_eq_toByteArray, String.toByteArray_append]
  have hcolon : ":".toUTF8.data.toList = [0x3a] := by decide
  simp only [measuredText, hashInput, measured, happend, hcolon, List.append_assoc]

/-- What is digested for a row determines its key. -/
theorem hashInput_injective : Function.Injective hashInput := by
  intro k k' h
  simp only [hashInput, List.append_assoc] at h
  obtain ⟨hspace, h⟩ := measured_append_inj h
  obtain ⟨htable, h⟩ := measured_append_inj h
  have hkey := utf8_inj (List.append_cancel_left h)
  obtain ⟨space, table, key⟩ := k
  obtain ⟨space', table', key'⟩ := k'
  simp only [mk.injEq]
  exact ⟨hspace, htable, hkey⟩

/-- The hashes of two keys are equal exactly if their digests are. -/
theorem hash_eq_iff_digest_eq {a : HashAlgorithm} {k k' : RowKey} :
    k.hash a = k'.hash a ↔ a.digest k.hashInput = a.digest k'.hashInput := by
  rw [hash, hash, String.ofList_inj]
  exact Text.base64Url_injective.eq_iff

/-- The digest takes different keys among these to different bytes. -/
def Separated (a : HashAlgorithm) (Known : RowKey → Prop) : Prop :=
  ∀ k k', Known k → Known k' → a.digest k.hashInput = a.digest k'.hashInput → k.hashInput = k'.hashInput

/-- Keys that the digest takes to different bytes have different hashes. -/
theorem Separated.eq_of_hash_eq {a : HashAlgorithm} {Known : RowKey → Prop} (h : Separated a Known) {k k' : RowKey} (hk : Known k)
    (hk' : Known k') (heq : k.hash a = k'.hash a) : k = k' :=
  hashInput_injective (h k k' hk hk' (hash_eq_iff_digest_eq.mp heq))

/-- Keys of any texts are told apart by their hashes, as far as the digest tells its inputs apart. What is digested is a
text that determines the key, and the text of a digest determines the digest, so two keys with the same hash are one key or
a collision of the digest. The hashes of an algorithm are all of one length and have characters that are safe in a URL and
no others. -/
theorem hash_separates (a : HashAlgorithm) :
    (∀ k : RowKey, k.hashInput = k.measuredText.toUTF8.data.toList) ∧
      Function.Injective hashInput ∧
      Function.Injective Text.base64Url ∧
      (∀ k k' : RowKey, k.hash a = k'.hash a ↔
        k = k' ∨ k.hashInput ≠ k'.hashInput ∧ a.digest k.hashInput = a.digest k'.hashInput) ∧
      ∀ k : RowKey, (k.hash a).length = a.hashLength ∧ (k.hash a).toList.all Text.isUrlSafe = true := by
  refine ⟨hashInput_eq, hashInput_injective, Text.base64Url_injective, fun k k' => ?_, fun k => ⟨length_hash k a, ?_⟩⟩
  · rw [hash_eq_iff_digest_eq]
    constructor
    · intro hdigest
      by_cases hinput : k.hashInput = k'.hashInput
      · exact .inl (hashInput_injective hinput)
      · exact .inr ⟨hinput, hdigest⟩
    · rintro (rfl | ⟨-, hdigest⟩)
      · rfl
      · exact hdigest
  · rw [hash, String.toList_ofList]
    exact Text.all_isUrlSafe_base64Url _

/-- Two keys of one text are digested as different texts. -/
example :
    (⟨"a:b", "c", "d"⟩ : RowKey).toText = (⟨"a", "b:c", "d"⟩ : RowKey).toText ∧
      (⟨"a:b", "c", "d"⟩ : RowKey).measuredText = "3:a:b1:c:d" ∧ (⟨"a", "b:c", "d"⟩ : RowKey).measuredText = "1:a3:b:c:d" := by
  decide

end RowKey

end SparseRows
