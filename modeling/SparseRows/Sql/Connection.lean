import SparseRows.Error
import SparseRows.Sql.Product

/-!
# Connections

What a relational store asks of a connection to a database. Any type can be one: the store goes by the answers alone, each of
which may be a failure, and a failing call may change the connection or leave it.
-/

namespace SparseRows

/-- A call of a connection. -/
abbrev Call (κ : Type) := ExceptT DriverError (StateM κ)

/-- A type of connections. -/
class SqlConnection (κ : Type) where
  /-- The database behind the connection. -/
  product : Call κ Product
  /-- Runs a statement and says whether it gave a result set. -/
  execute (sql : String) : Call κ Bool
  /-- Prepares a statement and gives the handle to run it by, until the statements are released. -/
  prepare (sql : String) : Call κ Nat
  /-- Runs a prepared query for pairs of a column name and a value. -/
  query (handle : Nat) (params : List String) : Call κ (List (String × String))
  /-- Runs a prepared update and gives the number of rows that it reached. -/
  update (handle : Nat) (params : List String) : Call κ Nat
  /-- Forgets the prepared statements. -/
  release : Call κ Unit
  /-- Ends the use of the connection. -/
  close : Call κ Unit

namespace Call

variable {κ ι α : Type}

/-- Makes a call of a connection that is part of another one. -/
def within (inner : κ → ι) (replace : κ → ι → κ) (call : Call ι α) : Call κ α :=
  fun connection =>
    let (result, after) := call.run (inner connection)
    (result, replace connection after)

variable {β : Type} {call : Call κ α} {next : α → Call κ β} {connection after : κ}

/-- After a call that is answered, the next one is made. -/
theorem run_bind_ok {a : α} (h : call.run connection = (.ok a, after)) : (call >>= next).run connection = (next a).run after := by
  have hrun : StateT.run call.run connection = (.ok a, after) := h
  have hbind : (call >>= next).run connection = StateT.run (call.run >>= ExceptT.bindCont next) connection := rfl
  rw [hbind, StateT.run_bind, hrun]
  rfl

/-- After a call that fails, none is made. -/
theorem run_bind_error {e : DriverError} (h : call.run connection = (.error e, after)) :
    (call >>= next).run connection = (.error e, after) := by
  have hrun : StateT.run call.run connection = (.error e, after) := h
  have hbind : (call >>= next).run connection = StateT.run (call.run >>= ExceptT.bindCont next) connection := rfl
  rw [hbind, StateT.run_bind, hrun]
  rfl

end Call

end SparseRows
