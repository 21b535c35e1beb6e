import SparseRows.Log.Line
import SparseRows.Text.Quoted

/-!
# Loggers

A logger is a handle that lines are written through: it has a component name, a destination and a threshold below which
nothing is written. Handles are derived from one another and share the destination. What was written is kept in a `Journal`.
-/

namespace SparseRows

/-- Where lines go. -/
inductive Destination where
  /-- Lines are kept. -/
  | memory
  /-- Lines go to the standard output, failures to the standard error. -/
  | standard
  /-- Lines are dropped. -/
  | discard
  deriving DecidableEq, Repr

/-- What has been written, by destination. -/
structure Journal where
  /-- The lines kept, in order. -/
  lines : Array String := #[]
  /-- The text on the standard output. -/
  output : String := ""
  /-- The text on the standard error. -/
  errors : String := ""
  deriving Repr

namespace Journal

/-- Writes a line to a destination. -/
def write (journal : Journal) (destination : Destination) (severity : Severity) (line : String) : Journal :=
  match destination with
  | .memory => { journal with lines := journal.lines.push line }
  | .standard =>
    if .error ≤ severity then { journal with errors := journal.errors ++ line ++ "\n" }
    else { journal with output := journal.output ++ line ++ "\n" }
  | .discard => journal

/-- Whether a kept line reports the event. -/
def contains (journal : Journal) (event : Event) : Bool :=
  journal.lines.any (Log.mentions · event)

end Journal

/-- A handle to write log lines through. -/
structure Logger where
  component : String
  destination : Destination
  /-- The least grave severity that is written. -/
  threshold : Severity
  deriving DecidableEq, Repr

namespace Logger

/-- A handle whose lines are kept. -/
def memory (component : String) (threshold : Severity) : Logger :=
  ⟨component, .memory, threshold⟩

/-- A handle to the standard output and error, without detail. -/
def standard (component : String) : Logger :=
  ⟨component, .standard, .info⟩

/-- A handle that drops everything. -/
def discard : Logger :=
  ⟨"discard", .discard, .fatal⟩

/-- A handle for a part of the component. -/
def child (logger : Logger) (part : String) : Logger :=
  { logger with component := logger.component ++ "." ++ part }

/-- The handle with another threshold. -/
def withThreshold (logger : Logger) (threshold : Severity) : Logger :=
  { logger with threshold }

/-- Whether lines of a severity are written. -/
def enabled (logger : Logger) (severity : Severity) : Bool :=
  logger.threshold ≤ severity

/-- Writes a line that reports an event. -/
def log (logger : Logger) (severity : Severity) (event : Event) (fields : List (String × String)) (journal : Journal) :
    Journal :=
  if logger.enabled severity then
    journal.write logger.destination severity (Log.renderLine severity event logger.component fields)
  else journal

/-- A handle in words. -/
def describe (logger : Logger) : String :=
  "Logger \x7b component: " ++ Text.quoted logger.component ++ ", min_severity: " ++ logger.threshold.label ++ " \x7d"

end Logger

end SparseRows
