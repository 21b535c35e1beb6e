import SparseRows.Text.Blank
import SparseRows.Text.Lines

/-!
# Schema scripts

A script is read by its lines alone: blanks at the end of a line and blank lines do not count, a line with `#` in its first
column is a comment, and a statement ends with the line whose last character is a semicolon. The lines of a statement are
joined by single spaces. What follows the last statement is dropped.
-/

namespace SparseRows.Dialect

/-- A part of a script, with the number of its last line. -/
inductive ScriptItem where
  | comment (line : Nat) (text : String)
  | statement (line : Nat) (sql : String)
  deriving DecidableEq, Repr

namespace Script

/-- A statement with one more line. -/
def joined (begun line : List Char) : List Char :=
  if begun.isEmpty then line else begun ++ ' ' :: line

/-- The parts in some lines, of which the first has this number and where `begun` has been read of a statement. -/
def items (number : Nat) (begun : List Char) : List (List Char) → List ScriptItem
  | [] => []
  | raw :: rest =>
    let line := Text.trimEnd raw
    if line.isEmpty then items (number + 1) begun rest
    else if line.head? == some '#' then .comment number (String.ofList line) :: items (number + 1) begun rest
    else if line.getLast? == some ';' then
      .statement number (String.ofList (joined begun line.dropLast)) :: items (number + 1) [] rest
    else items (number + 1) (joined begun line) rest

/-- The parts of a script. -/
def parse (s : String) : List ScriptItem :=
  items 1 [] (Text.lines s.toList)

end Script

end SparseRows.Dialect
