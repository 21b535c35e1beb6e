import SparseRows.Json.Lexer

/-!
# Reading JSON

A JSON value is read from its tokens by a machine that keeps the arrays and objects that are still open on a stack, so nesting
has no limit. Commas stand between items only, and after the value nothing may follow.
-/

namespace SparseRows.Json

/-- An array or object that is still open, with what it holds so far, the latest first. -/
inductive Frame where
  | array (done : List Json)
  /-- The value of `name` is being read. -/
  | object (done : List (List Piece × Json)) (name : List Piece)

/-- What has been read, and so what may follow. -/
inductive State where
  /-- A value must follow. -/
  | value (stack : List Frame)
  /-- An array was opened: an item or its end may follow. -/
  | opened (stack : List Frame)
  /-- An object was opened: a name or its end may follow. -/
  | begun (stack : List Frame)
  /-- A name must follow. -/
  | member (done : List (List Piece × Json)) (stack : List Frame)
  /-- A colon must follow. -/
  | named (done : List (List Piece × Json)) (name : List Piece) (stack : List Frame)
  /-- A value is complete. -/
  | complete (v : Json) (stack : List Frame)

/-- A value starts with this token. -/
def State.start (stack : List Frame) : Token → Option State
  | .null => some (.complete .null stack)
  | .boolean b => some (.complete (.boolean b) stack)
  | .number spelling => some (.complete (.number spelling) stack)
  | .string pieces => some (.complete (.string pieces) stack)
  | .openArray => some (.opened stack)
  | .openObject => some (.begun stack)
  | _ => none

/-- The next token is read. -/
def State.step : State → Token → Option State
  | .value stack, token => start stack token
  | .opened stack, .closeArray => some (.complete (.array []) stack)
  | .opened stack, token => start (.array [] :: stack) token
  | .begun stack, .closeObject => some (.complete (.object []) stack)
  | .begun stack, .string name => some (.named [] name stack)
  | .member done stack, .string name => some (.named done name stack)
  | .named done name stack, .colon => some (.value (.object done name :: stack))
  | .complete v (.array done :: stack), .comma => some (.value (.array (v :: done) :: stack))
  | .complete v (.array done :: stack), .closeArray => some (.complete (.array (v :: done).reverse) stack)
  | .complete v (.object done name :: stack), .comma => some (.member ((name, v) :: done) stack)
  | .complete v (.object done name :: stack), .closeObject => some (.complete (.object ((name, v) :: done).reverse) stack)
  | _, _ => none

/-- The value that is read when no token is left. -/
def State.result? : State → Option Json
  | .complete v [] => some v
  | _ => none

/-- The value that some tokens spell. -/
def ofTokens (ts : List Token) : Option Json :=
  (ts.foldlM State.step (.value [])).bind State.result?

/-- The value that a text spells. -/
def parse (s : String) : Option Json :=
  (tokens s.toList).bind ofTokens

end SparseRows.Json
