import SparseRows.Error
import SparseRows.Sql.Token

/-!
# SQL statements

The statements that stores of rows are set up and worked with: a table and its indexes are made, and rows are selected,
inserted, updated and deleted where some columns equal some values. The types and constraints of columns are passed over. A
statement that is not one of these is refused at the first token that does not fit.
-/

namespace SparseRows.Sql

/-- A value in a statement. -/
inductive Term where
  /-- The parameter of this number, counted from one. -/
  | parameter (number : Nat)
  | null
  | literal (spelling : String)
  deriving DecidableEq, Repr

/-- What a query gives of a row. -/
inductive Selection where
  | everything
  /-- The number of rows, in one row, under the name that it is spelled with. -/
  | count (name : String)
  | columns (names : List String)
  | literal (spelling : String)
  deriving DecidableEq, Repr

/-- The names of the columns that are given of a table with these columns. -/
def Selection.names (columns : List String) : Selection → List String
  | everything => columns
  | count name => [name]
  | .columns names => names
  | literal spelling => [spelling]

/-- A column in the definition of a table. -/
structure Column where
  name : String
  /-- The type and the constraints, in lower case. -/
  traits : List String
  deriving DecidableEq, Repr

/-- Whether a column is another name for the number of the row. -/
def Column.isRowNumber (column : Column) : Bool :=
  ["integer", "primary", "key"].isPrefixOf column.traits

/-- Whether a column has to hold something. -/
def Column.isRequired (column : Column) : Bool :=
  (column.traits.zip column.traits.tail).contains ("not", "null")

/-- Whether the numbers in a column are never used again. -/
def Column.isSequence (column : Column) : Bool :=
  column.traits.contains "autoincrement"

/-- A statement. A condition is a list of columns with the values that they equal. -/
inductive Statement where
  /-- Nothing to do. -/
  | idle
  /-- The text of a definition is kept with what it makes. -/
  | createTable (table : Token) (unlessExists : Bool) (columns : List Column) (text : String)
  | createIndex (index table : String) (unique unlessExists : Bool) (columns : List String) (text : String)
  | select (selection : Selection) (table : Option String) (condition : List (String × Term))
  | insert (table : String) (columns : List String) (values : List Term)
  | update (table : String) (assignments condition : List (String × Term))
  | delete (table : String) (condition : List (String × Term))
  deriving DecidableEq, Repr

/-- A reader of tokens. It fails at a token, or at the end where there is none. -/
abbrev Reader := StateT (List Token) (Except (Option Token))

namespace Reader

/-- The next token. -/
def next : Reader Token := do
  match ← get with
  | [] => throw none
  | token :: rest =>
    set rest
    return token

/-- Whether the next token is this keyword or sign; if so it is taken. -/
def accept (spelling : String) : Reader Bool := do
  match ← get with
  | token :: rest =>
    if token.lower = spelling then
      set rest
      return true
    else return false
  | [] => return false

/-- Takes this keyword or sign. -/
def expect (spelling : String) : Reader Unit := do
  let token ← next
  if token.lower ≠ spelling then throw (some token)

/-- Takes these keywords and signs. -/
def expectAll (spellings : List String) : Reader Unit :=
  spellings.forM expect

/-- The words that are no names. -/
def keywords : List String :=
  ["create", "table", "index", "unique", "if", "not", "exists", "on", "select", "from", "where", "and", "insert", "into",
   "values", "update", "set", "delete", "null"]

/-- Takes a name. -/
def nameToken : Reader Token := do
  let token ← next
  if token.isWord && !keywords.contains token.lower then return token
  throw (some token)

/-- Takes a name. -/
def name : Reader String :=
  return (← nameToken).spelling

/-- Takes one thing or more, with this sign or keyword between them. No more are taken than tokens are left. -/
def separated {α : Type} (separator : String) (item : Reader α) : Reader (List α) := do
  go (← get).length
where
  /-- Takes at most so many. -/
  go : Nat → Reader (List α)
    | 0 => throw none
    | most + 1 => do
      let first ← item
      if ← accept separator then return first :: (← go most)
      return [first]

/-- Takes what has this sign before it and that sign behind it. -/
def between {α : Type} (opening closing : String) (item : Reader α) : Reader α := do
  expect opening
  let a ← item
  expect closing
  return a

/-- Takes names in brackets. -/
def names : Reader (List String) :=
  between "(" ")" (separated "," name)

/-- Takes `IF NOT EXISTS`, if it is there. -/
def unlessExists : Reader Bool := do
  if ← accept "if" then
    expectAll ["not", "exists"]
    return true
  return false

/-- The type and the constraints of a column, which end at a comma or bracket outside of brackets, and what follows them. -/
def traits : (depth : Nat) → List Token → List Token × List Token
  | _, [] => ([], [])
  | 0, token :: rest =>
    if token.spelling = "," ∨ token.spelling = ")" then ([], token :: rest)
    else
      let (words, after) := traits (if token.spelling = "(" then 1 else 0) rest
      (token :: words, after)
  | depth + 1, token :: rest =>
    let (words, after) :=
      traits (if token.spelling = "(" then depth + 2 else if token.spelling = ")" then depth else depth + 1) rest
    (token :: words, after)

/-- Takes the definition of a column. -/
def column : Reader Column := do
  let column ← name
  let (words, after) := traits 0 (← get)
  set after
  return ⟨column, words.map Token.lower⟩

/-- Takes a value. -/
def term : Reader Term := do
  let token ← next
  match token.spelling.toList with
  | '?' :: digits => return .parameter (Nat.ofDigitChars 10 digits 0)
  | cs =>
    if token.lower = "null" then return .null
    if cs.all Char.isDigit then return .literal token.spelling
    throw (some token)

/-- Takes a column and the value that it is to equal. -/
def equation : Reader (String × Term) := do
  let column ← name
  expect "="
  return (column, ← term)

/-- Takes a condition, if one is there. -/
def condition : Reader (List (String × Term)) := do
  if ← accept "where" then separated "and" equation else return []

/-- Takes what a query is to give. -/
def selection : Reader Selection := do
  match ← get with
  | token :: rest =>
    if token.spelling = "*" then
      set rest
      return .everything
    if token.spelling.toList.all Char.isDigit then
      set rest
      return .literal token.spelling
    if token.lower = "count" then
      set rest
      expectAll ["(", "*", ")"]
      return .count (token.spelling ++ "(*)")
    return .columns (← separated "," name)
  | [] => throw none

/-- The part of a text between two numbers of bytes. -/
def slice (sql : String) (first last : Nat) : String :=
  String.ofList (go 0 sql.toList)
where
  /-- The characters that are in the part, of some that come after so many bytes. -/
  go (offset : Nat) : List Char → List Char
    | [] => []
    | c :: rest =>
      if first ≤ offset ∧ offset < last then c :: go (offset + c.utf8Size) rest else go (offset + c.utf8Size) rest

/-- Takes what makes a table. -/
def createTable (sql : String) : Reader Statement := do
  let unlessExists ← unlessExists
  let table ← nameToken
  expect "("
  let columns ← separated "," column
  let closing ← next
  if closing.spelling ≠ ")" then throw (some closing)
  return .createTable table unlessExists columns ("CREATE TABLE " ++ slice sql table.offset (closing.offset + 1))

/-- Takes what makes an index. Its text goes on to the end of the statement. -/
def createIndex (sql : String) (unique : Bool) : Reader Statement := do
  let unlessExists ← unlessExists
  let index ← nameToken
  expect "on"
  let table ← name
  let columns ← names
  let last := ((← get).head?.map Token.offset).getD sql.utf8ByteSize
  let text := (if unique then "CREATE UNIQUE INDEX " else "CREATE INDEX ") ++ slice sql index.offset last
  return .createIndex index.spelling table unique unlessExists columns text

/-- Takes what follows the first word of a statement. -/
def statementAfter (sql : String) (first : Token) : Reader Statement := do
  match first.lower with
  | "create" =>
    let kind ← next
    match kind.lower with
    | "table" => createTable sql
    | "index" => createIndex sql false
    | "unique" =>
      expect "index"
      createIndex sql true
    | _ => throw (some kind)
  | "select" =>
    let selection ← selection
    let table ← if ← accept "from" then some <$> name else pure none
    return .select selection table (← condition)
  | "insert" =>
    expect "into"
    let table ← name
    let columns ← names
    expect "values"
    return .insert table columns (← between "(" ")" (separated "," term))
  | "update" =>
    let table ← name
    expect "set"
    let assignments ← separated "," equation
    return .update table assignments (← condition)
  | "delete" =>
    expect "from"
    let table ← name
    return .delete table (← condition)
  | _ => throw (some first)

/-- Takes a statement, with a semicolon behind it if one is there. Semicolons before it are passed over. -/
def statement (sql : String) : Reader Statement := do
  modify fun tokens => tokens.dropWhile (·.spelling == ";")
  match ← get with
  | [] => return .idle
  | first :: rest =>
    set rest
    let statement ← statementAfter sql first
    if (← get).isEmpty then return statement
    expect ";"
    return statement

end Reader

/-- Gives a parameter without a number the next one after the largest before it. -/
def numberParameters (largest : Nat) : List Token → List Token
  | [] => []
  | token :: rest =>
    match token.spelling.toList with
    | ['?'] => { token with spelling := "?" ++ (largest + 1).repr } :: numberParameters (largest + 1) rest
    | '?' :: digits => token :: numberParameters (max largest (Nat.ofDigitChars 10 digits 0)) rest
    | _ => token :: numberParameters largest rest

/-- The statement that a text spells. What follows a semicolon is not read. -/
def Statement.parse (sql : String) : Except EngineError Statement :=
  match (Reader.statement sql).run (numberParameters 0 (Token.all sql)) with
  | .ok (statement, _) => .ok statement
  | .error (some token) =>
    let place : SqlPlace := ⟨sql, token.offset⟩
    .error (if token.isNone then .noToken token.spelling place else .badToken token.spelling place)
  | .error none => .error .incomplete

/-- The number of a parameter, and zero for any other value. -/
def Term.number : Term → Nat
  | parameter number => number
  | _ => 0

namespace Statement

/-- Whether a statement is about tables. -/
def usesTables : Statement → Bool
  | idle | select _ none _ => false
  | _ => true

/-- Whether a statement is there to change rows. -/
def changesRows : Statement → Bool
  | insert _ _ _ | update _ _ _ | delete _ _ => true
  | _ => false

/-- Whether a statement makes an index. -/
def makesIndex : Statement → Bool
  | createIndex _ _ _ _ _ _ => true
  | _ => false

/-- The number of parameters that a statement takes. -/
def parameterCount (statement : Statement) : Nat :=
  let largest (terms : List Term) : Nat := (terms.map Term.number).foldl max 0
  match statement with
  | idle | createTable _ _ _ _ | createIndex _ _ _ _ _ _ => 0
  | select _ _ condition | delete _ condition => largest (condition.map (·.2))
  | insert _ _ values => largest values
  | update _ assignments condition => largest ((assignments ++ condition).map (·.2))

end Statement

end SparseRows.Sql
