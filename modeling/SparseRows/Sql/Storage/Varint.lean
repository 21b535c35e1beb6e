import SparseRows.Sql.Storage.Page

/-!
# Numbers of varying length

A number of up to 64 bits in one to nine bytes. The first eight bytes hold seven bits each, the most significant ones first,
and all but the last byte are marked by their highest bit; a ninth byte holds eight bits.
-/

namespace SparseRows.Sql

namespace Varint

/-- So many marked groups of seven bits, the most significant one first. -/
def marked : Nat → Nat → List UInt8
  | 0, _ => []
  | count + 1, n => marked count (n >>> 7) ++ [UInt8.ofNat (128 + n % 128)]

/-- The number of groups of seven bits that a number takes, so many at most. -/
def groupCount : Nat → Nat → Nat
  | 0, _ => 0
  | most + 1, n => if n < 128 then 1 else groupCount most (n / 128) + 1

/-- The bytes of a number. -/
def bytes (n : Nat) : List UInt8 :=
  let count := groupCount 9 n
  if count ≤ 8 then marked (count - 1) (n >>> 7) ++ [UInt8.ofNat (n % 128)]
  else marked 8 (n >>> 8) ++ [UInt8.ofNat n]

/-- The number at a place and the number of its bytes. -/
def read (page : Page) (place : Nat) : Nat × Nat :=
  go 8 place 0
where
  /-- Reads on where so many bytes of seven bits may follow. -/
  go : Nat → Nat → Nat → Nat × Nat
    | 0, next, n => (256 * n + page.get1 next, next + 1 - place)
    | most + 1, next, n =>
      let byte := page.get1 next
      if byte < 128 then (128 * n + byte, next + 1 - place) else go most (next + 1) (128 * n + (byte - 128))

end Varint

end SparseRows.Sql
