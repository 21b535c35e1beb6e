/-!
# Bytes as URL-safe text

The base 64 text of some bytes in the alphabet `A-Z a-z 0-9 - _`, without padding: three bytes make four characters, and one or
two left-over bytes make two or three.
-/

namespace SparseRows.Text

/-- The character of a number below 64. -/
def base64Digit (n : Nat) : Char :=
  if n < 26 then Char.ofNat ('A'.toNat + n)
  else if n < 52 then Char.ofNat ('a'.toNat + (n - 26))
  else if n < 62 then Char.ofNat ('0'.toNat + (n - 52))
  else if n = 62 then '-'
  else '_'

/-- The URL-safe base 64 text of some bytes. -/
def base64Url : List UInt8 → List Char
  | a :: b :: c :: rest =>
    base64Digit (a.toNat / 4) :: base64Digit (a.toNat % 4 * 16 + b.toNat / 16) ::
      base64Digit (b.toNat % 16 * 4 + c.toNat / 64) :: base64Digit (c.toNat % 64) :: base64Url rest
  | [a, b] =>
    [base64Digit (a.toNat / 4), base64Digit (a.toNat % 4 * 16 + b.toNat / 16), base64Digit (b.toNat % 16 * 4)]
  | [a] => [base64Digit (a.toNat / 4), base64Digit (a.toNat % 4 * 16)]
  | [] => []

/-- Every three bytes take four characters, and a rest takes one more than it has bytes. -/
theorem length_base64Url (bytes : List UInt8) : (base64Url bytes).length = (bytes.length * 4 + 2) / 3 := by
  fun_induction base64Url bytes with
  | case1 a b c rest ih => simp only [List.length_cons, ih]; omega
  | case2 => simp
  | case3 => simp
  | case4 => simp

end SparseRows.Text
