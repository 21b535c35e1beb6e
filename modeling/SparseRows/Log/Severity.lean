/-!
# Severities

How grave a log line or an error is, from a detail that only helps in a search to a failure that ends the use of its owner.
-/

namespace SparseRows

/-- How grave something is. -/
inductive Severity where
  /-- Detail for a search. -/
  | trace
  /-- Normal operation. -/
  | info
  /-- Something to look at; work goes on. -/
  | warn
  /-- An operation failed. -/
  | error
  /-- What reported it cannot be used again. -/
  | fatal
  deriving DecidableEq, Repr

namespace Severity

/-- Every severity, the least grave first. -/
def all : List Severity := [trace, info, warn, error, fatal]

/-- The text of a severity. -/
def text : Severity → String
  | trace => "TRACE"
  | info => "INFO"
  | warn => "WARN"
  | error => "ERROR"
  | fatal => "FATAL"

/-- The severity with this text. -/
def ofText (s : String) : Option Severity :=
  all.find? (·.text == s)

/-- The name of a severity in a description. -/
def label : Severity → String
  | trace => "Trace"
  | info => "Info"
  | warn => "Warn"
  | error => "Error"
  | fatal => "Fatal"

/-- The place of a severity in the order. -/
def rank : Severity → Nat
  | trace => 0
  | info => 1
  | warn => 2
  | error => 3
  | fatal => 4

instance : LE Severity := ⟨fun a b => a.rank ≤ b.rank⟩

instance (a b : Severity) : Decidable (a ≤ b) := inferInstanceAs (Decidable (a.rank ≤ b.rank))

/-- A severity is read back from its text. -/
theorem ofText_text (s : Severity) : ofText s.text = some s := by
  cases s <;> rfl

end Severity

end SparseRows
