/-!
# Lines

The lines of a text. A line ends at a line feed; the line feed, and a carriage return right before it, are no part of the line.
What follows the last line feed is a line unless it is empty.
-/

namespace SparseRows.Text

/-- The lines of a text, in order. -/
def lines : List Char → List (List Char)
  | [] => []
  | '\n' :: rest => [] :: lines rest
  | '\r' :: '\n' :: rest => [] :: lines rest
  | c :: rest =>
    match lines rest with
    | [] => [[c]]
    | line :: more => (c :: line) :: more

end SparseRows.Text
