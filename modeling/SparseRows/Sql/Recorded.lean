import SparseRows.Sql.Connection

/-!
# Recorded connections

A connection that keeps a record of the calls made of it and passes them on. Rules can say that a certain call fails, or answers
without being passed on, and another product can be reported than the one behind it.
-/

namespace SparseRows

/-- A call with its arguments. -/
inductive SqlCall where
  | product
  | execute (sql : String)
  | prepare (sql : String)
  | query (handle : Nat) (params : List String)
  | update (handle : Nat) (params : List String)
  | release
  | close
  deriving DecidableEq, Repr

namespace SqlCall

/-- A kind of calls. -/
inductive Kind where
  | product
  | execute
  | prepare
  | query
  | update
  | release
  | close
  deriving DecidableEq, Repr

/-- The kind of a call. -/
def kind : SqlCall → Kind
  | product => .product
  | execute _ => .execute
  | prepare _ => .prepare
  | query _ _ => .query
  | update _ _ => .update
  | release => .release
  | close => .close

/-- What a rule makes of a call. -/
inductive Outcome where
  /-- It fails. -/
  | fails (e : DriverError)
  /-- It answers with a number of rows, if it is a call that can. -/
  | counts (rows : Nat)
  deriving DecidableEq, Repr

/-- What becomes of the call of a kind that comes at a place, counted from one; place zero stands for all of them. -/
structure Rule where
  kind : Kind
  place : Nat
  outcome : Outcome
  deriving DecidableEq, Repr

/-- Whether a rule is about the call of a kind at a place. -/
def Rule.covers (rule : Rule) (kind : Kind) (place : Nat) : Bool :=
  rule.kind == kind && (rule.place == 0 || rule.place == place)

end SqlCall

/-- A connection with a record of its calls. -/
structure Recorded (κ : Type) where
  inner : κ
  /-- The product to report, if not that of the inner connection. -/
  reported : Option Product := none
  /-- Rules, of which the first that covers a call decides. -/
  rules : List SqlCall.Rule := []
  /-- The calls made, in order. -/
  calls : List SqlCall := []

namespace Recorded

variable {κ α : Type}

/-- The number of calls made of a kind. -/
def count (connection : Recorded κ) (kind : SqlCall.Kind) : Nat :=
  connection.calls.countP (·.kind == kind)

/-- Passes a call on. -/
def pass (call : Call κ α) : Call (Recorded κ) α :=
  Call.within Recorded.inner (fun connection inner => { connection with inner }) call

/-- Records a call and answers it by the rules or passes it on. -/
def record (call : SqlCall) (ofCount : Nat → Option α) (answer : Call (Recorded κ) α) : Call (Recorded κ) α := do
  let connection ← get
  set { connection with calls := connection.calls ++ [call] }
  match connection.rules.find? (·.covers call.kind (connection.count call.kind + 1)) with
  | some ⟨_, _, .fails e⟩ => throw e
  | some ⟨_, _, .counts rows⟩ =>
    match ofCount rows with
    | some a => return a
    | none => answer
  | none => answer

instance [SqlConnection κ] : SqlConnection (Recorded κ) where
  product := record .product (fun _ => none) do
    match (← get).reported with
    | some product => return product
    | none => pass SqlConnection.product
  execute sql := record (.execute sql) (fun rows => some (0 < rows)) (pass (SqlConnection.execute sql))
  prepare sql := record (.prepare sql) (fun _ => none) (pass (SqlConnection.prepare sql))
  query handle params := record (.query handle params) (fun _ => none) (pass (SqlConnection.query handle params))
  update handle params := record (.update handle params) some (pass (SqlConnection.update handle params))
  release := record .release (fun _ => none) (pass SqlConnection.release)
  close := record .close (fun _ => none) (pass SqlConnection.close)

end Recorded

end SparseRows
