import SparseRows.Sql.Schema

/-!
# Statements kept at hand

The statements that a connection has read and may be asked to run again, by their text. So many are kept; the one that was used
longest ago makes room for a new one.
-/

namespace SparseRows.Sql

/-- A statement that has been checked against the tables. It is run on these, as long as it is not stale. -/
structure Prepared where
  statement : Statement
  /-- The tables that it was checked against. -/
  schema : Schema := {}
  /-- How often the connection had forgotten the tables when it was checked. -/
  generation : Nat := 0
  /-- Whether it has to be checked again before it is run. -/
  isStale : Bool := false
  deriving DecidableEq, Repr

namespace Prepared

/-- Whether running the statement changes the tables that it was checked against. -/
def isWriting (prepared : Prepared) : Bool :=
  prepared.schema.isChangedBy prepared.statement

/-- Whether running the statement makes an index. -/
def makesIndex (prepared : Prepared) : Bool :=
  prepared.statement.makesIndex && prepared.isWriting

/-- The names of the columns of the rows that the statement gives, none if it does not give rows. -/
def names (prepared : Prepared) : List String :=
  match prepared.statement with
  | .select selection (some name) _ => selection.names (((prepared.schema.table name).toOption.map Table.columns).getD [])
  | .select selection none _ => selection.names []
  | _ => []

end Prepared

/-- Statements by their text, the latest used first. -/
structure StatementCache where
  entries : List (String × Prepared) := []
  deriving DecidableEq, Repr

namespace StatementCache

/-- The number of statements that are kept. -/
def capacity : Nat := 16

/-- The statement of a text, if it is kept. -/
def find? (cache : StatementCache) (sql : String) : Option Prepared :=
  cache.entries.lookup sql

/-- Keeps a statement as the latest used. -/
def keep (cache : StatementCache) (sql : String) (prepared : Prepared) : StatementCache :=
  ⟨((sql, prepared) :: cache.entries.filter (·.1 != sql)).take capacity⟩

/-- The statements, all of which have to be checked again. -/
def stale (cache : StatementCache) : StatementCache :=
  ⟨cache.entries.map fun (sql, prepared) => (sql, { prepared with isStale := true })⟩

end StatementCache

end SparseRows.Sql
