import SparseRows.Error
import SparseRows.Sql.Storage.Varint

/-!
# Records

What a row or an index entry holds: data of several kinds, one after the other. A record starts with the length of its head
and a code for each datum, which tells the kind and the length; the data follow.
-/

namespace SparseRows.Sql

/-- Something that a column holds. -/
inductive Datum where
  | null
  | integer (n : Int)
  /-- A floating point number, by its bits. -/
  | real (bits : UInt64)
  /-- A text, by its bytes. -/
  | text (bytes : ByteArray)
  | blob (bytes : ByteArray)
  deriving DecidableEq

namespace Datum

/-- A text. -/
def ofString (s : String) : Datum :=
  text s.toUTF8

/-- The text of a datum, if it is one. -/
def string? : Datum → Option String
  | text bytes => String.fromUTF8? bytes
  | _ => none

/-- The kinds in their order: nothing before numbers, these before texts, and bytes last. -/
def rank : Datum → Nat
  | null => 0
  | integer _ | real _ => 1
  | text _ => 2
  | blob _ => 3

/-- The number that bits stand for. -/
def float : Datum → Float
  | integer n => Float.ofInt n
  | real bits => Float.ofBits bits
  | _ => 0

/-- The order of rows of bytes. -/
def compareBytes (a b : ByteArray) : Ordering :=
  go (min a.size b.size) 0
where
  /-- Compares so many bytes from a place on. -/
  go : Nat → Nat → Ordering
    | 0, _ => compare a.size b.size
    | left + 1, place =>
      let x := (Page.mk a).get1 place
      let y := (Page.mk b).get1 place
      if x = y then go left (place + 1) else compare x y

/-- The order of data. -/
def order : Datum → Datum → Ordering
  | integer a, integer b => compare a b
  | text a, text b => compareBytes a b
  | blob a, blob b => compareBytes a b
  | a, b =>
    if a.rank = 1 ∧ b.rank = 1 then
      if a.float < b.float then .lt else if b.float < a.float then .gt else .eq
    else compare a.rank b.rank

/-- The number of bytes that an integer takes. -/
def width (n : Int) : Nat :=
  let n := if n < 0 then -n - 1 else n
  if n < 0x80 then 1
  else if n < 0x8000 then 2
  else if n < 0x800000 then 3
  else if n < 0x80000000 then 4
  else if n < 0x800000000000 then 6
  else 8

/-- The code of a datum. Since the fourth format, zero and one are all in their codes. -/
def code (format : Nat) : Datum → Nat
  | null => 0
  | integer n =>
    if 4 ≤ format ∧ n = 0 then 8
    else if 4 ≤ format ∧ n = 1 then 9
    else if width n ≤ 4 then width n
    else if width n = 6 then 5
    else 6
  | real _ => 7
  | blob b => 12 + 2 * b.size
  | text b => 13 + 2 * b.size

/-- The length of a datum with a code. -/
def lengthOf (code : Nat) : Nat :=
  if code ≤ 4 then code
  else if code = 5 then 6
  else if code ≤ 7 then 8
  else if code ≤ 11 then 0
  else (code - 12) / 2

/-- So many bytes of a number, the most significant one first. -/
def integerBytes : Nat → Nat → List UInt8
  | 0, _ => []
  | size + 1, n => UInt8.ofNat (n >>> (8 * size)) :: integerBytes size n

/-- The bytes of a datum behind the codes. -/
def bytes (format : Nat) (datum : Datum) : ByteArray :=
  match datum with
  | null => .empty
  | integer n => ⟨(integerBytes (lengthOf (code format datum)) (n % 0x10000000000000000).toNat).toArray⟩
  | real bits => ⟨(integerBytes 8 bits.toNat).toArray⟩
  | text b | blob b => b

/-- The number in so many bytes, the most significant one first. -/
def natAt (page : Page) (place size : Nat) : Nat :=
  (List.range size).foldl (fun n index => 256 * n + page.get1 (place + index)) 0

/-- The datum with a code at a place. -/
def readAt (page : Page) (place code : Nat) : Datum :=
  let length := lengthOf code
  if code = 0 ∨ code = 10 ∨ code = 11 then null
  else if code = 7 then real (UInt64.ofNat (natAt page place 8))
  else if code = 8 then integer 0
  else if code = 9 then integer 1
  else if code ≤ 6 then
    let n := natAt page place length
    integer (if n >>> (8 * length - 1) = 0 then n else (n : Int) - ((1 <<< (8 * length) : Nat) : Int))
  else if code % 2 = 0 then blob (page.slice place length)
  else text (page.slice place length)

end Datum

namespace Record

/-- The record of some data. -/
def ofData (format : Nat) (data : List Datum) : ByteArray :=
  let codes := data.flatMap fun datum => Varint.bytes (datum.code format)
  let length := if codes.length + 1 < 128 then codes.length + 1 else codes.length + 2
  data.foldl (fun bytes datum => bytes ++ datum.bytes format) ⟨(Varint.bytes length ++ codes).toArray⟩

/-- The codes in the head of a record, of which so many may follow before the end of the head. -/
def codes (record : Page) (last : Nat) : Nat → Nat → List Nat
  | 0, _ => []
  | most + 1, place =>
    if last ≤ place then []
    else
      let (code, width) := Varint.read record place
      code :: codes record last most (place + width)

/-- The data with some codes, from a place on. -/
def dataAt (record : Page) : List Nat → Nat → List Datum
  | [], _ => []
  | code :: rest, place => Datum.readAt record place code :: dataAt record rest (place + Datum.lengthOf code)

/-- The data of a record. -/
def data (record : ByteArray) : List Datum :=
  let page : Page := ⟨record⟩
  let (length, width) := Varint.read page 0
  let last := min length record.size
  dataAt page (codes page last last width) length

/-- The end of so many codes that begin at a place in a head, and the end of their data if these begin at another place. -/
def ends (record : Page) (last : Nat) : (count place dataPlace : Nat) → Nat × Nat
  | 0, place, dataPlace => (place, dataPlace)
  | left + 1, place, dataPlace =>
    if last ≤ place then (place, dataPlace)
    else
      let (code, width) := Varint.read record place
      ends record last left (place + width) (dataPlace + Datum.lengthOf code)

/-- Whether the first data of a record, so many of them, can be read: the codes are in the head, and the data in the record,
which ends with them if there are no more codes. An empty head is one without data. -/
def isSound (count : Nat) (record : ByteArray) : Bool :=
  let page : Page := ⟨record⟩
  let (length, width) := Varint.read page 0
  let (place, dataPlace) := ends page length count width length
  length = 0 ∨
    (length ≤ record.size ∧ dataPlace ≤ record.size ∧ (place < length ∨ (place = length ∧ dataPlace = record.size)))

/-- The data of a record of which the first ones, so many of them, are needed. -/
def read (count : Nat) (record : ByteArray) : Except EngineError (List Datum) :=
  if isSound count record then .ok (data record) else .error .malformed

/-- The order of data, where those at the end of the longer row do not count; where all others agree, the order is the one
said. -/
def order (tie : Ordering) : List Datum → List Datum → Ordering
  | a :: as, b :: bs => (a.order b).then (order tie as bs)
  | _, _ => tie

end Record

end SparseRows.Sql
