/-!
# Numbers in bytes

A number as a row of bytes, the most significant one first.
-/

namespace SparseRows

/-- A number in big-endian bytes, cut to the given number of bytes. -/
def bigEndian : Nat → Nat → List UInt8
  | 0, _ => []
  | size + 1, n => UInt8.ofNat (n >>> (8 * size)) :: bigEndian size n

/-- The number that big-endian bytes stand for. -/
def ofBigEndian (bytes : List UInt8) : Nat :=
  bytes.foldl (fun n b => 256 * n + b.toNat) 0

/-- A number takes as many bytes as it is given. -/
@[simp] theorem length_bigEndian (size n : Nat) : (bigEndian size n).length = size := by
  induction size with
  | zero => rfl
  | succ size ih => simp [bigEndian, ih]

end SparseRows
