import Std.Data.ExtTreeMap
import SparseRows.Text.Blank
import SparseRows.Text.Lines

/-!
# Properties

A text of keys and values, one to a line. A line that ends in an odd number of backslashes is continued by the next one, without
the last backslash and without the blanks that start the next line. Blank lines and lines that start with `#` or `!` between the
entries are no entries; an entry that is continued past the last line is none either.
-/

namespace SparseRows.Dialect

open Std

/-- Values by key. -/
abbrev Properties := ExtTreeMap String String

namespace Properties

/-- Whether a line goes on in the next one. -/
def isContinued (line : List Char) : Bool :=
  (line.reverse.takeWhile (· == '\\')).length % 2 == 1

/-- Whether a line between two entries is no part of one. -/
def isIdle : List Char → Bool
  | [] => true
  | c :: _ => c == '#' || c == '!'

/-- The entries in some lines, each as one line, where `begun` has been read of the first. -/
def entries (begun : List Char) : List (List Char) → List (List Char)
  | [] => []
  | raw :: rest =>
    let line := Text.trimStart raw
    if begun.isEmpty && isIdle line then entries begun rest
    else if isContinued line then entries (begun ++ line.dropLast) rest
    else (begun ++ line) :: entries [] rest

/-- Whether a character ends a key. -/
def isSeparator (c : Char) : Bool :=
  c == '=' || c == ':'

/-- The key and the value of an entry, without the blanks around them. Without a separator all of it is the key. -/
def split (entry : List Char) : String × String :=
  (String.ofList (Text.trim (entry.takeWhile (!isSeparator ·))),
   String.ofList (Text.trim ((entry.dropWhile (!isSeparator ·)).drop 1)))

/-- Adds an entry in place of an earlier one with its key. An entry without a key counts for nothing. -/
def add (properties : Properties) (entry : List Char) : Properties :=
  if (split entry).1 = "" then properties else properties.insert (split entry).1 (split entry).2

/-- The properties that a text spells. -/
def parse (s : String) : Properties :=
  (entries [] (Text.lines s.toList)).foldl add ∅

end Properties

end SparseRows.Dialect
