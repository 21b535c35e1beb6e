/-!
# SQL tokens

A statement is a row of words and signs with blanks between them. A word is made of letters, digits and low lines; a
parameter is a question mark with the digits that follow it. Every token knows the number of bytes before it, for the text
of an error. U+0000 ends a statement.
-/

namespace SparseRows.Sql

/-- A token, as it is spelled, and the number of bytes before it. -/
structure Token where
  spelling : String
  offset : Nat
  deriving DecidableEq, Repr

namespace Token

/-- The token in lower case, for keywords. -/
def lower (token : Token) : String :=
  String.ofList (token.spelling.toList.map Char.toLower)

/-- A character of a word. -/
def isWordChar (c : Char) : Bool :=
  c.isAlphanum || c == '_' || 0x80 ≤ c.toNat

/-- A character that stands between tokens. -/
def isGap (c : Char) : Bool :=
  c == ' ' || c == '\t' || c == '\n' || c == '\x0c' || c == '\r'

/-- A character that no token starts with. -/
def isForeign (c : Char) : Bool :=
  c.toNat < 0x20 || c == '\x7f' || c == '\\' || c == ']' || c == '^' || c == '\x7b' || c == '\x7d'

/-- Whether the token is none, since nothing starts with its character. -/
def isNone (token : Token) : Bool :=
  token.spelling.toList.all isForeign

/-- Whether the token is a word that does not start with a digit. -/
def isWord (token : Token) : Bool :=
  match token.spelling.toList with
  | [] => false
  | c :: _ => isWordChar c && !c.isDigit

/-- The token of a word that ends before so many bytes, if any has begun. -/
def ended (word : List Char) (offset : Nat) : List Token :=
  if word.isEmpty then [] else [⟨String.ofList word, offset - (String.ofList word).utf8ByteSize⟩]

/-- The tokens of a text that comes after so many bytes, where a word has begun. -/
def scan (offset : Nat) (word : List Char) : List Char → List Token
  | [] => ended word offset
  | c :: rest =>
    if isWordChar c then scan (offset + c.utf8Size) (word ++ [c]) rest
    else if c = '?' then ended word offset ++ scan (offset + 1) [c] rest
    else if isGap c then ended word offset ++ scan (offset + c.utf8Size) [] rest
    else ended word offset ++ ⟨String.singleton c, offset⟩ :: scan (offset + c.utf8Size) [] rest

/-- The tokens of a statement. -/
def all (sql : String) : List Token :=
  scan 0 [] (sql.toList.takeWhile (· ≠ '\x00'))

end Token

end SparseRows.Sql
