/-!
# Pages

A page is a row of bytes of fixed length, in which numbers stand with the most significant byte first. Reading behind the
end gives zeros, and what does not fit is not written, so every operation keeps the length.
-/

namespace SparseRows.Sql

/-- Rows of bytes are compared in one way, wherever they are. -/
instance (priority := 2000) decEqBytes : DecidableEq ByteArray :=
  ByteArray.instDecidableEq

/-- A page, or any other row of bytes with numbers at known places. -/
structure Page where
  bytes : ByteArray
  deriving DecidableEq

namespace Page

/-- The number of bytes. -/
def size (page : Page) : Nat :=
  page.bytes.size

/-- A page of zeros. -/
def blank (size : Nat) : Page :=
  ⟨⟨Array.replicate size 0⟩⟩

/-- The number in the byte at a place. -/
def get1 (page : Page) (place : Nat) : Nat :=
  if h : place < page.bytes.size then (page.bytes[place]).toNat else 0

/-- The number in two bytes. -/
def get2 (page : Page) (place : Nat) : Nat :=
  256 * page.get1 place + page.get1 (place + 1)

/-- The number in four bytes. -/
def get4 (page : Page) (place : Nat) : Nat :=
  65536 * page.get2 place + page.get2 (place + 2)

/-- The page with another number in a byte, of which the lowest eight bits count. -/
def put1 (page : Page) (place n : Nat) : Page :=
  if h : place < page.bytes.size then ⟨page.bytes.set place (UInt8.ofNat n)⟩ else page

/-- The page with another number in two bytes. -/
def put2 (page : Page) (place n : Nat) : Page :=
  (page.put1 place (n >>> 8)).put1 (place + 1) n

/-- The page with another number in four bytes. -/
def put4 (page : Page) (place n : Nat) : Page :=
  (page.put2 place (n >>> 16)).put2 (place + 2) n

/-- So many bytes from a place on, as far as there are any. -/
def slice (page : Page) (place length : Nat) : ByteArray :=
  page.bytes.extract place (place + length)

/-- The page with other bytes from a place on. -/
def paste (page : Page) (place : Nat) (bytes : ByteArray) : Page :=
  if place + bytes.size ≤ page.bytes.size then ⟨bytes.copySlice 0 page.bytes place bytes.size⟩ else page

/-- The page with some of its bytes copied to another place. -/
def move (page : Page) (place origin length : Nat) : Page :=
  page.paste place (page.slice origin length)

/-- The page with zeros from a place on. -/
def clear (page : Page) (place length : Nat) : Page :=
  page.paste place (blank length).bytes

/-- So many bytes from a place on, with zeros for those behind the end. -/
def padded (page : Page) (place length : Nat) : Page :=
  let found := page.slice place length
  if found.size = length then ⟨found⟩ else (blank length).paste 0 found

end Page

end SparseRows.Sql
