import SparseRows.Json.Basic
import SparseRows.Text.Hex

/-!
# Writing JSON

The compact text of a JSON value: no space between tokens, quotes, backslashes and control characters escaped, all else as
it is.
-/

namespace SparseRows.Json

/-- A character as it stands in a string: quotes, backslashes and the 32 control characters are escaped. -/
def escape : Char → List Char
  | '"' => ['\\', '"']
  | '\\' => ['\\', '\\']
  | '\x08' => ['\\', 'b']
  | '\x0c' => ['\\', 'f']
  | '\n' => ['\\', 'n']
  | '\r' => ['\\', 'r']
  | '\t' => ['\\', 't']
  | c => if c.toNat < 0x20 then '\\' :: 'u' :: Text.hexWord c.toNat else [c]

/-- A part of a string as it is written. -/
def Piece.render : Piece → List Char
  | char c => escape c
  | half unit => '\\' :: 'u' :: Text.hexWord unit

/-- A string with its quotes. -/
def renderString (pieces : List Piece) : List Char :=
  '"' :: pieces.flatMap Piece.render ++ ['"']

mutual

/-- The compact text of a value. -/
def render : Json → List Char
  | null => ['n', 'u', 'l', 'l']
  | boolean true => ['t', 'r', 'u', 'e']
  | boolean false => ['f', 'a', 'l', 's', 'e']
  | number spelling => spelling
  | string pieces => renderString pieces
  | array [] => ['[', ']']
  | array (item :: items) => '[' :: render item ++ renderItems items ++ [']']
  | object [] => ['{', '}']
  | object ((name, v) :: members) =>
    '{' :: renderString name ++ ':' :: render v ++ renderMembers members ++ ['}']

/-- Each item after a comma. -/
def renderItems : List Json → List Char
  | [] => []
  | item :: items => ',' :: render item ++ renderItems items

/-- Each member after a comma. -/
def renderMembers : List (List Piece × Json) → List Char
  | [] => []
  | (name, v) :: members => ',' :: renderString name ++ ':' :: render v ++ renderMembers members

end

/-- The compact text of a value. -/
def toText (v : Json) : String :=
  String.ofList v.render

end SparseRows.Json
