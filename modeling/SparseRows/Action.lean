import SparseRows.Error
import SparseRows.Log.Logger
import SparseRows.Row

/-!
# Actions

Work on a state that also writes log lines. A step cannot fail; an action can, and what it did before it failed remains done.
Failure is a value, so a caller who catches it sees the state and the journal as they were left.
-/

namespace SparseRows

/-- A state together with what has been written while working on it. -/
structure Logged (σ : Type) where
  state : σ
  journal : Journal := {}

/-- Work that cannot fail. -/
abbrev Step (σ : Type) := StateM (Logged σ)

/-- Work that may fail. -/
abbrev Action (σ ε : Type) := ExceptT ε (Step σ)

/-- A step as an action, which it is without failure. -/
def Step.toAction {σ ε α : Type} (step : Step σ α) : Action σ ε α :=
  ExceptT.lift step

/-- An action as a step that gives the failure, if there is one, as its result. -/
def Action.attempt {σ ε α : Type} (action : Action σ ε α) : Step σ (Except ε α) :=
  ExceptT.run action

/-- A result as an action that changes nothing. -/
def Action.ofExcept {σ ε α : Type} (result : Except ε α) : Action σ ε α :=
  ExceptT.mk (pure result)

variable {σ : Type} {m : Type → Type} [MonadState (Logged σ) m]

/-- Writes a log line. -/
def log (logger : Logger) (severity : Severity) (event : Event) (fields : List (String × String)) : m Unit :=
  modify fun s => { s with journal := logger.log severity event fields s.journal }

/-- The state worked on. -/
def currentState [Monad m] : m σ :=
  return (← get).state

/-- Replaces the state worked on. -/
def setState (state : σ) : m Unit :=
  modify fun s => { s with state }

/-- How rows of some store are reached, for work that only needs them as rows. -/
structure RowAccess (σ : Type) where
  /-- The row of a key, empty if there is none. -/
  get : RowKey → Action σ StorageError Row
  /-- Makes changes to the columns of a row. -/
  insert : RowKey → Changes → Action σ StorageError Unit
  /-- Removes a row, whether it was there or not. -/
  remove : RowKey → Action σ StorageError Unit
  /-- A number of rows that the store does not exceed. -/
  mostRows : σ → Nat

end SparseRows
