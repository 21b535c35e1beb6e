import SparseRows.Text.Decimal

/-!
# JSON values

A JSON value as it is written: a number keeps its spelling, and a string may hold escaped halves of surrogate pairs that
stand for no character. The readers say what such a value stands for, if anything: a number is an integer only if it is
spelled as one, and a string is a text only if it has no lone half.
-/

namespace SparseRows

/-- A part of a JSON string. -/
inductive Json.Piece where
  | char (c : Char)
  /-- One half of a surrogate pair, written as an escape. -/
  | half (unit : Nat)
  deriving DecidableEq, Repr

/-- A JSON value. -/
inductive Json where
  | null
  | boolean (b : Bool)
  /-- A number, as spelled. -/
  | number (spelling : List Char)
  | string (pieces : List Json.Piece)
  | array (items : List Json)
  /-- Members in the order written; a name may come twice. -/
  | object (members : List (List Json.Piece × Json))
  deriving Repr

namespace Json

/-- The character of a piece. -/
def Piece.char? : Piece → Option Char
  | char c => some c
  | half _ => none

/-- The text that a string stands for, unless it has a lone half of a surrogate pair. -/
def textOf (pieces : List Piece) : Option String :=
  (pieces.mapM Piece.char?).map String.ofList

/-- The pieces of a text. -/
def piecesOf (s : String) : List Piece :=
  s.toList.map .char

/-- The integer that a spelling stands for: no fraction, no exponent, and not minus zero, which is a fraction by tradition. -/
def integerOf (spelling : List Char) : Option Int :=
  if spelling = ['-', '0'] then none else Text.readInteger spelling

/-- The text of a string value. -/
def text? : Json → Option String
  | string pieces => textOf pieces
  | _ => none

/-- The integer of a number value. -/
def integer? : Json → Option Int
  | number spelling => integerOf spelling
  | _ => none

/-- A text as a JSON string. -/
def ofText (s : String) : Json :=
  string (piecesOf s)

/-- An integer as a JSON number. -/
def ofInt (i : Int) : Json :=
  number i.repr.toList

/-- A text without escapes is what its pieces stand for. -/
theorem textOf_piecesOf (s : String) : textOf (piecesOf s) = some s := by
  have h : ∀ cs : List Char, (cs.map Piece.char).mapM Piece.char? = some cs := fun cs => by
    induction cs with
    | nil => rfl
    | cons c cs ih => simp [List.mapM_cons, Piece.char?, ih]
  simp [textOf, piecesOf, h]

end Json

end SparseRows
