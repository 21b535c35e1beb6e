import SparseRows.Proofs.Relational.Driver
import SparseRows.Proofs.Relational.Traced

/-!
# The course of an operation

What the operations of a relational client may ask of the connection. A `Move` is one thing that a client does with its
connection, with the phase that it comes to by that, and a `Course` is a row of moves. What is to be said of all calls of a
client is said of moves.
-/

namespace SparseRows

namespace Statements

/-- The handles in the order in which the statements are prepared. -/
def handles (statements : Statements) : List Nat :=
  [statements.deleteRow, statements.selectRow, statements.insertColumn, statements.updateColumn, statements.removeColumn]

/-- The handle of the statement of a template. -/
def handle? (statements : Statements) : Template → Option Nat
  | .deleteRow => some statements.deleteRow
  | .selectRow => some statements.selectRow
  | .insertColumn => some statements.insertColumn
  | .updateColumn => some statements.updateColumn
  | .removeColumn => some statements.removeColumn
  | .checkSchema | .validate => none

end Statements

namespace Dialect

/-- Calls that prepare the statements of some templates, one after the other, and give these handles. -/
inductive Prepares (dialect : Dialect) : List Template → List Nat → List Seen → Prop
  | nil : Prepares dialect [] [] []
  | snoc {templates : List Template} {handles : List Nat} {calls : List Seen} {template : Template} {sql : String} {handle : Nat}
      (h : Prepares dialect templates handles calls) (hsql : dialect.sql template = .ok sql) :
      Prepares dialect (templates ++ [template]) (handles ++ [handle]) (calls ++ [.prepare sql (.ok handle)])

/-- Calls that prepare row statements up to one that is not to be had, with the error that it makes: the dialect lacks it or
the connection refuses to prepare it. -/
inductive Lacks (dialect : Dialect) : List Seen → StorageError → Prop
  | missing {templates rest : List Template} {handles : List Nat} {calls : List Seen} {template : Template} {e : StorageError}
      (h : Prepares dialect templates handles calls) (hnext : templates ++ template :: rest = Template.ofRows)
      (hsql : dialect.sql template = .error e) : Lacks dialect calls e
  | refused {templates rest : List Template} {handles : List Nat} {calls : List Seen} {template : Template} {sql : String}
      {e : DriverError} (h : Prepares dialect templates handles calls) (hnext : templates ++ template :: rest = Template.ofRows)
      (hsql : dialect.sql template = .ok sql) : Lacks dialect (calls ++ [.prepare sql (.error e)]) (.driver e)

/-- Calls that prepare row statements up to one that is not to be had. -/
def BreaksOff (dialect : Dialect) (calls : List Seen) : Prop :=
  ∃ e, dialect.Lacks calls e

variable {dialect : Dialect} {templates : List Template} {handles : List Nat} {calls : List Seen}

/-- Calls that prepare statements do nothing else. -/
theorem Prepares.isPrepare (h : dialect.Prepares templates handles calls) : ∀ call ∈ calls, call.isPrepare = true := by
  induction h with
  | nil => exact List.forall_mem_nil _
  | snoc _ _ ih => exact List.forall_mem_append.mpr ⟨ih, List.forall_mem_singleton.mpr rfl⟩

/-- Nor do calls that are to prepare statements and break off. -/
theorem BreaksOff.isPrepare (h : dialect.BreaksOff calls) : ∀ call ∈ calls, call.isPrepare = true := by
  obtain ⟨e, hlacks⟩ := h
  cases hlacks with
  | missing h _ _ => exact h.isPrepare
  | refused h _ _ => exact List.forall_mem_append.mpr ⟨h.isPrepare, List.forall_mem_singleton.mpr rfl⟩

end Dialect

/-- What can be asked of a relational client. -/
inductive ClientOp where
  | checkSchema
  | activate
  | passivate
  | validate
  | get (key : RowKey)
  | insert (key : RowKey) (changes : Changes)
  | remove (key : RowKey)
  | close

/-- Why an operation of a relational client has failed. -/
inductive ClientFailure where
  | storage (e : StorageError)
  | pool (e : PoolError)

namespace ClientFailure

/-- The lower failure behind it. -/
def cause : ClientFailure → Option Cause
  | storage e => e.cause
  | pool e => e.cause

end ClientFailure

namespace ClientOp

/-- Does what is asked of a client, and gives the failure if it fails. -/
def run {κ : Type} [SqlConnection κ] (client : RelationalClient) : ClientOp → Step (Session κ) (Option ClientFailure)
  | checkSchema => (errorOf? · |>.map .pool) <$> client.checkSchema.attempt
  | activate => (errorOf? · |>.map .storage) <$> client.activate.attempt
  | passivate => (fun _ => none) <$> client.passivate
  | validate => (fun _ => none) <$> client.validate
  | get key => (errorOf? · |>.map .storage) <$> (client.get key).attempt
  | insert key changes => (errorOf? · |>.map .storage) <$> (client.insert key changes).attempt
  | remove key => (errorOf? · |>.map .storage) <$> (client.remove key).attempt
  | close => (fun _ => none) <$> client.close

/-- The phase at the end of an operation whose last move led to a phase: a check of the schema that succeeds has found it. -/
def finish : ClientOp → Option ClientFailure → Phase → Phase
  | checkSchema, none, phase => phase.schemaFound
  | _, _, phase => phase

/-- In an operation that has made some calls, the next call is for what a template does: a query gives a row, an update
removes a row or a column or saves a text in a column. The text is for the statement that overwrites a column at first, and
where this has reached none, for the one that inserts it. -/
inductive Needs (client : RelationalClient) : ClientOp → List Seen → Seen → Template → Prop
  | select {key : RowKey} {done : List Seen} {handle : Nat} {answer : Except DriverError (List (String × String))} :
      Needs client (.get key) done (.query handle [client.rowId key] answer) .selectRow
  | delete {key : RowKey} {done : List Seen} {handle : Nat} {answer : Except DriverError Nat} :
      Needs client (.remove key) done (.update handle [client.rowId key] answer) .deleteRow
  | remove {key : RowKey} {changes : Changes} {column : String} {done : List Seen} {handle : Nat} {answer : Except DriverError Nat}
      (h : changes.get? column = some .remove) :
      Needs client (.insert key changes) done (.update handle [client.rowId key, column] answer) .removeColumn
  | update {key : RowKey} {changes : Changes} {column text : String} {v : Value} {done : List Seen} {handle : Nat}
      {answer : Except DriverError Nat} (h : changes.get? column = some (.put v)) (htext : v.toText? = some text)
      (hfirst : ∀ earlier reached, Seen.update earlier [text, client.rowId key, column] reached ∉ done) :
      Needs client (.insert key changes) done (.update handle [text, client.rowId key, column] answer) .updateColumn
  | insert {key : RowKey} {changes : Changes} {column text : String} {v : Value} {done : List Seen} {handle earlier : Nat}
      {answer : Except DriverError Nat} (h : changes.get? column = some (.put v)) (htext : v.toText? = some text)
      (hmissed : done.getLast? = some (.update earlier [text, client.rowId key, column] (.ok 0))) :
      Needs client (.insert key changes) done (.update handle [text, client.rowId key, column] answer) .insertColumn

/-- What a client does with its connection, in an operation that has made some calls so far: the phase it is in, the calls
it makes and the phase it comes to. -/
inductive Move (client : RelationalClient) (op : ClientOp) (done : List Seen) : Phase → List Seen → Phase → Prop
  /-- It has a statement executed that need not be prepared. -/
  | execute {phase : Phase} {sql : String} {answer : Except DriverError Bool} (h : phase ≠ .closed) :
      Move client op done phase [.execute sql answer] phase
  /-- It prepares all row statements. -/
  | startUp {phase : Phase} {statements : Statements} {calls : List Seen} (h : phase = .schemaChecked ∨ phase = .passive)
      (hcalls : client.dialect.Prepares Template.ofRows statements.handles calls) :
      Move client op done phase calls (.active statements)
  /-- It prepares row statements, cannot go on, and has those before released. -/
  | breakOff {phase : Phase} {calls : List Seen} {answer : Except DriverError Unit} (h : phase = .schemaChecked ∨ phase = .passive)
      (hcalls : client.dialect.BreaksOff calls) : Move client op done phase (calls ++ [.release answer]) phase
  /-- It runs the statement of a template. -/
  | ask {statements : Statements} {call : Seen} {template : Template} {handle : Nat} (h : Needs client op done call template)
      (hcall : call.handle? = some handle) (hhandle : statements.handle? template = some handle) :
      Move client op done (.active statements) [call] (.active statements)
  /-- It has the statements released. -/
  | release {statements : Statements} {answer : Except DriverError Unit} :
      Move client op done (.active statements) [.release answer] .passive
  /-- It closes the connection. -/
  | close {phase : Phase} {answer : Except DriverError Unit} (h : phase ≠ .closed)
      (hidle : ∀ statements, phase ≠ .active statements) :
      Move client op done phase [.close answer] .closed

/-- The calls that an operation has made, move after move, and the phase that the client has come to. -/
inductive Course (client : RelationalClient) (op : ClientOp) (start : Phase) : List Seen → Phase → Prop
  | start : Course client op start [] start
  | move {done calls : List Seen} {phase phase' : Phase} (h : Course client op start done phase)
      (hmove : Move client op done phase calls phase') : Course client op start (done ++ calls) phase'

/-- A single move is a course. -/
theorem Course.once {client : RelationalClient} {op : ClientOp} {start phase : Phase} {calls : List Seen}
    (h : Move client op [] start calls phase) : Course client op start calls phase := by
  have hcourse := Course.move .start h
  rwa [List.nil_append] at hcourse

end ClientOp

end SparseRows
