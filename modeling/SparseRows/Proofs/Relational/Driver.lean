import SparseRows.Proofs.Relational.Bag
import SparseRows.Sql.Connection

/-!
# Drivers

What is assumed of the outside of a relational store. Connections share a database with a table of triples. A driver that is
faithful to a dialect prepares the five row statements and runs them on the bag of triples as they are written: it gives the
columns of a row in some order and tells how many triples a statement reached. Calls do not fail. Nothing is assumed that
would keep a row id and a column id from standing in the table twice.
-/

namespace SparseRows

/-- The templates of the row statements. -/
def Template.ofRows : List Template :=
  [deleteRow, selectRow, insertColumn, updateColumn, removeColumn]

/-- How connections of one type see a database that they share. -/
structure Driver (κ δ : Type) where
  /-- The connection once others have made this of the database. -/
  attach : κ → δ → κ
  /-- The database behind a connection. -/
  database : κ → δ
  /-- The triples in the table of a database. -/
  triples : δ → Bag
  /-- Whether a connection is open and in order. -/
  Usable : κ → Prop
  /-- Whether a handle is that of a statement which does what a template is for. -/
  Runs : κ → Nat → Template → Prop

namespace Driver

variable {κ δ : Type}

/-- The triples that a connection sees. -/
def bag (driver : Driver κ δ) (connection : κ) : Bag :=
  driver.triples (driver.database connection)

/-- What remains of a connection through a call, or through what others do to the database: it is in order, and its handles are
good. -/
structure Keeps (driver : Driver κ δ) (before after : κ) : Prop where
  usable : driver.Usable after
  runs {handle : Nat} {template : Template} (h : driver.Runs before handle template) : driver.Runs after handle template

theorem Keeps.trans {driver : Driver κ δ} {a b c : κ} (h : driver.Keeps a b) (h' : driver.Keeps b c) : driver.Keeps a c :=
  ⟨h'.usable, fun hruns => h'.runs (h.runs hruns)⟩

/-- The driver runs the row statements of a dialect on the bag of triples, and its calls do not fail. -/
structure Faithful [SqlConnection κ] (driver : Driver κ δ) (dialect : Dialect) : Prop where
  /-- What others do to the database is seen and does no harm. -/
  attach {connection : κ} (database : δ) (h : driver.Usable connection) :
    driver.database (driver.attach connection database) = database ∧ driver.Keeps connection (driver.attach connection database)
  /-- The statement of a row template is prepared. -/
  prepare {template : Template} (h : template ∈ Template.ofRows) :
    ∃ sql, dialect.sql template = .ok sql ∧ ∀ connection, driver.Usable connection →
      ∃ handle after, (SqlConnection.prepare sql : Call κ Nat).run connection = (.ok handle, after) ∧
        driver.Runs after handle template ∧ driver.Keeps connection after ∧ driver.bag after = driver.bag connection
  /-- The query gives the columns of a row. -/
  query {connection : κ} {handle : Nat} (rid : String) (h : driver.Usable connection)
    (hruns : driver.Runs connection handle .selectRow) :
    ∃ pairs after, (SqlConnection.query handle [rid] : Call κ (List (String × String))).run connection = (.ok pairs, after) ∧
      (pairs : Multiset (String × String)) = (driver.bag connection).columns rid ∧ driver.Keeps connection after ∧
      driver.bag after = driver.bag connection
  /-- An update has its effect and tells its reach. -/
  update {connection : κ} {handle : Nat} {template : Template} {params : List String} {reached : Nat} {bag : Bag}
    (h : driver.Usable connection) (hruns : driver.Runs connection handle template)
    (heffect : template.effect params (driver.bag connection) = some (reached, bag)) :
    ∃ after, (SqlConnection.update handle params : Call κ Nat).run connection = (.ok reached, after) ∧
      driver.Keeps connection after ∧ driver.bag after = bag
  /-- The statements are released. -/
  release {connection : κ} (h : driver.Usable connection) :
    ∃ after, (SqlConnection.release : Call κ Unit).run connection = (.ok (), after) ∧ driver.Usable after ∧
      driver.bag after = driver.bag connection

end Driver

end SparseRows
