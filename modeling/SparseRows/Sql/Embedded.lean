import SparseRows.Sql.Connection
import SparseRows.Sql.Library

/-!
# Connections to embedded databases

A connection to a database that a library runs in the same program. It numbers its prepared statements, which it knows by
their texts until they are released, and has the library do the rest. When it is closed, the database is gone, and nothing
more can be asked of it.
-/

namespace SparseRows.Sql

/-- A connection to an embedded database. -/
structure Embedded (ω δ : Type) where
  /-- The files, as they are now. -/
  files : ω
  /-- The database, unless the connection is closed. -/
  database : Option δ
  /-- The texts of the prepared statements, by handle. -/
  statements : List String := []

namespace Embedded

variable {ω δ α : Type}

/-- Has the library work on the database, if the connection is not closed. -/
def work (task : LibraryM ω δ α) : Call (Embedded ω δ) α := fun connection =>
  match connection.database with
  | none => (.error (.other "connection closed"), connection)
  | some database =>
    let (result, files, database) := task.run (connection.files, database)
    (result.mapError .engine, { connection with files, database := some database })

/-- The text of the statement of a handle. -/
def statement (handle : Nat) : Call (Embedded ω δ) String := do
  match (← get).statements[handle]? with
  | some sql => return sql
  | none => throw (.unknownStatement handle)

variable [Library ω δ]

/-- The product behind the connection, with the version of the library. -/
def product : Call (Embedded ω δ) Product :=
  let version := UInt32.ofNat (Library.version ω δ).toNatClampNeg
  work (pure ⟨"SQLite", version / 1000000, version / 1000 % 1000⟩)

/-- Runs a statement once. Of what a query gives, only the first row is looked for. -/
def execute (sql : String) : Call (Embedded ω δ) Bool :=
  work do
    let statement ← Library.compile (ω := ω) (δ := δ) sql
    if 0 < Library.columnCount statement then
      let _ ← Library.first? statement
      return true
    else
      let _ ← Library.change statement []
      return false

/-- The pair that a row stands for, unless its value is nothing. -/
def pairOf (row : Library.Row ω δ) : Except EngineError (Option (String × String)) := do
  let column ← Library.text row 0
  return (← Library.text? row 1).map fun v => (column, v)

/-- Runs a query for pairs. -/
def query (sql : String) (params : List String) : LibraryM ω δ (List (String × String)) := do
  let rows ← Library.query (← Library.compileKept (ω := ω) (δ := δ) sql) params
  return (← rows.mapM pairOf).filterMap id

/-- Runs an update. -/
def update (sql : String) (params : List String) : LibraryM ω δ Nat := do
  Library.change (← Library.compileKept (ω := ω) (δ := δ) sql) params

/-- Forgets the prepared statements, and has the library do so if the connection is not closed. -/
def release : Call (Embedded ω δ) Unit := fun connection =>
  match connection.database with
  | none => (.ok (), { connection with statements := [] })
  | some database =>
    let ((), files, database) := Library.forget.run (connection.files, database)
    (.ok (), { files, database := some database, statements := [] })

/-- Ends the use of the database, if the connection is not closed. It is closed then, even if the library fails to. -/
def close : Call (Embedded ω δ) Unit := fun connection =>
  match connection.database with
  | none => (.ok (), { connection with statements := [] })
  | some database =>
    let ((), files, database) := Library.forget.run (connection.files, database)
    let (result, files, _) := Library.close.run (files, database)
    (result.mapError .engine, { files, database := none, statements := [] })

instance : SqlConnection (Embedded ω δ) where
  product
  execute
  prepare sql := do
    let _ ← work (Library.compileKept (ω := ω) (δ := δ) sql)
    let connection ← get
    set { connection with statements := connection.statements ++ [sql] }
    return connection.statements.length
  query handle params := do work (query (← statement handle) params)
  update handle params := do work (update (← statement handle) params)
  release
  close

/-- The files once the connection is let go without a call. -/
def abandoned (connection : Embedded ω δ) : ω :=
  ((close (δ := δ)).run connection).2.files

end Embedded

end SparseRows.Sql
