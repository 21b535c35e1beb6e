/-!
# Bytes that are no text

Where bytes cease to be UTF-8. A character takes one to four bytes, of which the first tells how many follow, and the second
of some characters is limited, so that no character has two spellings.
-/

namespace SparseRows.Text

/-- What is wrong with bytes that are no text. -/
structure Utf8Fault where
  /-- The number of bytes before it. -/
  offset : Nat
  /-- The number of wrong bytes, unless the text ends too early. -/
  length : Option Nat
  deriving DecidableEq, Repr

/-- The text of the fault. -/
def Utf8Fault.message (fault : Utf8Fault) : String :=
  match fault.length with
  | some length => "invalid utf-8 sequence of " ++ length.repr ++ " bytes from index " ++ fault.offset.repr
  | none => "incomplete utf-8 byte sequence from index " ++ fault.offset.repr

/-- The ranges of the bytes that follow the first one of a character, unless no character starts with it. -/
def following (first : UInt8) : Option (List (UInt8 × UInt8)) :=
  let any : UInt8 × UInt8 := (0x80, 0xbf)
  if first < 0x80 then some []
  else if first < 0xc2 then none
  else if first < 0xe0 then some [any]
  else if first < 0xf0 then
    some [(if first = 0xe0 then 0xa0 else 0x80, if first = 0xed then 0x9f else 0xbf), any]
  else if first < 0xf5 then
    some [(if first = 0xf0 then 0x90 else 0x80, if first = 0xf4 then 0x8f else 0xbf), any, any]
  else none

/-- The number of bytes that a character takes, or what is wrong with it, given how many of its bytes are right so far, the
ranges of those to come and what is there. -/
def characterLength (right : Nat) : List (UInt8 × UInt8) → List UInt8 → Except (Option Nat) Nat
  | [], _ => .ok right
  | _ :: _, [] => .error none
  | (least, most) :: ranges, byte :: rest =>
    if least ≤ byte ∧ byte ≤ most then characterLength (right + 1) ranges rest else .error (some right)

/-- What is wrong first with bytes that come after so many right ones, the first few of which belong to a character that is
right. -/
def utf8Fault (offset : Nat) : (skipped : Nat) → List UInt8 → Option Utf8Fault
  | _, [] => none
  | skipped + 1, _ :: rest => utf8Fault (offset + 1) skipped rest
  | 0, first :: rest =>
    match following first with
    | none => some ⟨offset, some 1⟩
    | some ranges =>
      match characterLength 1 ranges rest with
      | .ok length => utf8Fault (offset + 1) (length - 1) rest
      | .error length => some ⟨offset, length⟩

end SparseRows.Text
