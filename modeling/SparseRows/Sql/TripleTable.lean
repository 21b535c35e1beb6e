import SparseRows.Sql.Connection
import SparseRows.Text.Blank
import SparseRows.Text.Search

/-!
# A table of triples

The least that a relational store needs of a database: one table of row ids, column ids and values, on which the five row
statements act. Statements are told apart by their first word and the number of their parameters. Nothing keeps a row id and a
column id from standing in the table twice.
-/

namespace SparseRows

/-- A value in the table, with its row and its column. -/
structure Triple where
  rid : String
  cid : String
  v : String
  deriving DecidableEq, Repr

/-- Whether a triple stands for a column of a row. -/
def Triple.isAt (triple : Triple) (rid cid : String) : Bool :=
  triple.rid == rid && triple.cid == cid

/-- A connection to a table of triples. -/
structure TripleTable where
  /-- The triples, in the order in which they came to be. -/
  triples : List Triple := []
  /-- Whether the table has been created. -/
  created : Bool := false
  /-- The prepared statements, by handle. -/
  statements : List String := []
  /-- Pairs that every query gives besides its own. -/
  extra : List (String × String) := []
  deriving DecidableEq, Repr

namespace TripleTable

/-- The first word of a statement in lower case. -/
def firstWord (sql : String) : String :=
  String.ofList ((((Text.trimStart sql.toList).takeWhile (!Text.isBlank ·))).map Char.toLower)

/-- The statement of a handle. -/
def statement (handle : Nat) : Call TripleTable String := do
  match (← get).statements[handle]? with
  | some sql => return sql
  | none => throw (.unknownStatement handle)

/-- The pairs of a row, in the order of its triples. -/
def row (table : TripleTable) (rid : String) : List (String × String) :=
  (table.triples.filter (·.rid == rid)).map fun triple => (triple.cid, triple.v)

/-- The number of triples that a row statement reaches, and the triples after it. -/
def change (word : String) (params : List String) (triples : List Triple) : Except DriverError (Nat × List Triple) :=
  match word, params with
  | "update", [v, rid, cid] =>
    .ok (triples.countP (·.isAt rid cid), triples.map fun t => if t.isAt rid cid then { t with v } else t)
  | "insert", [v, rid, cid] => .ok (1, triples ++ [Triple.mk rid cid v])
  | "delete", [rid] => .ok (triples.countP (·.rid == rid), triples.filter (·.rid != rid))
  | "delete", [rid, cid] => .ok (triples.countP (·.isAt rid cid), triples.filter (!·.isAt rid cid))
  | _, _ => .error (.other "bad statement")

/-- Runs any other statement: one that creates makes the table, and one that selects from it needs it. -/
def run (sql : String) : Call TripleTable Bool := do
  let table ← get
  match firstWord sql with
  | "create" =>
    set { table with created := true }
    return false
  | "select" =>
    if Text.occursIn ['c', 's', 's'] sql.toList && !table.created then throw (.other "no such table: css")
    return true
  | _ => return false

instance : SqlConnection TripleTable where
  product := throw (.other "no metadata")
  execute := run
  prepare sql := do
    let table ← get
    set { table with statements := table.statements ++ [sql] }
    return table.statements.length
  query handle params := do
    let _ ← statement handle
    let table ← get
    return table.row (params.headD "") ++ table.extra
  update handle params := do
    let sql ← statement handle
    let table ← get
    let (reached, triples) ← change (firstWord sql) params table.triples
    set { table with triples }
    return reached
  release := modify fun table => { table with statements := [] }
  close := return ()

end TripleTable

end SparseRows
