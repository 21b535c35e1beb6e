/-!
# Events

Everything that a log line can report. A line reports exactly one event; `eq_of_name_eq` says that the names tell them apart.
-/

namespace SparseRows

/-- What a log line reports. -/
inductive Event where
  /-- A dialect resource was found. -/
  | dialectResolved
  /-- A place that could hold a dialect resource has none. -/
  | dialectMissing
  /-- No place holds a dialect resource. -/
  | dialectUnavailable
  /-- The query that looks for the schema failed, so the schema is made. -/
  | schemaCheckFailed
  /-- A comment of a schema script was passed over. -/
  | schemaComment
  /-- A statement of a schema script ran. -/
  | schemaStatementOk
  /-- A statement of a schema script failed and was passed over. -/
  | schemaStatementFailed
  /-- The schema script is through. -/
  | schemaBootstrapComplete
  /-- There is no schema script. -/
  | schemaBootstrapFailed
  /-- The statements were prepared. -/
  | connectionActivated
  /-- The statements were released. -/
  | connectionPassivated
  /-- The query that tests the connection failed. -/
  | connectionValidateFailed
  /-- The connection was closed. -/
  | connectionClosed
  /-- A row was read. -/
  | rowRead
  /-- A row came to be, empty, because it was asked for. -/
  | rowCreated
  /-- Changes were made to a row. -/
  | rowUpdated
  /-- A row was removed. -/
  | rowRemoved
  /-- A column came to be. -/
  | columnInserted
  /-- A column was overwritten. -/
  | columnUpdated
  /-- A column was removed. -/
  | columnRemoved
  /-- A column to be removed was not there. -/
  | columnAbsent
  /-- An operation on a row failed. -/
  | storageOpFailed
  /-- Something could not be released after use. -/
  | cleanupFailed
  /-- A body was stored. -/
  | bodyWritten
  /-- A body was opened for reading. -/
  | bodyRead
  /-- A content item was set back to a stored row. -/
  | contentReset
  /-- A child was left out of a traversal. -/
  | childSkipped
  /-- A traversal of children ended early. -/
  | childTraversalAborted
  deriving DecidableEq, Repr

namespace Event

/-- Every event. -/
def all : List Event :=
  [dialectResolved, dialectMissing, dialectUnavailable, schemaCheckFailed, schemaComment, schemaStatementOk,
   schemaStatementFailed, schemaBootstrapComplete, schemaBootstrapFailed, connectionActivated, connectionPassivated,
   connectionValidateFailed, connectionClosed, rowRead, rowCreated, rowUpdated, rowRemoved, columnInserted, columnUpdated,
   columnRemoved, columnAbsent, storageOpFailed, cleanupFailed, bodyWritten, bodyRead, contentReset, childSkipped,
   childTraversalAborted]

/-- The name of an event. -/
def name : Event → String
  | dialectResolved => "DIALECT_RESOLVED"
  | dialectMissing => "DIALECT_MISSING"
  | dialectUnavailable => "DIALECT_UNAVAILABLE"
  | schemaCheckFailed => "SCHEMA_CHECK_FAILED"
  | schemaComment => "SCHEMA_COMMENT"
  | schemaStatementOk => "SCHEMA_STATEMENT_OK"
  | schemaStatementFailed => "SCHEMA_STATEMENT_FAILED"
  | schemaBootstrapComplete => "SCHEMA_BOOTSTRAP_COMPLETE"
  | schemaBootstrapFailed => "SCHEMA_BOOTSTRAP_FAILED"
  | connectionActivated => "CONNECTION_ACTIVATED"
  | connectionPassivated => "CONNECTION_PASSIVATED"
  | connectionValidateFailed => "CONNECTION_VALIDATE_FAILED"
  | connectionClosed => "CONNECTION_CLOSED"
  | rowRead => "ROW_READ"
  | rowCreated => "ROW_CREATED"
  | rowUpdated => "ROW_UPDATED"
  | rowRemoved => "ROW_REMOVED"
  | columnInserted => "COLUMN_INSERTED"
  | columnUpdated => "COLUMN_UPDATED"
  | columnRemoved => "COLUMN_REMOVED"
  | columnAbsent => "COLUMN_ABSENT"
  | storageOpFailed => "STORAGE_OP_FAILED"
  | cleanupFailed => "CLEANUP_FAILED"
  | bodyWritten => "BODY_WRITTEN"
  | bodyRead => "BODY_READ"
  | contentReset => "CONTENT_RESET"
  | childSkipped => "CHILD_SKIPPED"
  | childTraversalAborted => "CHILD_TRAVERSAL_ABORTED"

/-- The event with this name. -/
def ofName (s : String) : Option Event :=
  all.find? (·.name == s)

/-- Whether the event means that what reports it cannot be used. -/
def isFatal : Event → Bool
  | dialectUnavailable => true
  | schemaBootstrapFailed => true
  | _ => false

/-- An event is found by its name. -/
theorem ofName_name (e : Event) : ofName e.name = some e := by
  cases e <;> decide

/-- So no two events have one name. -/
theorem eq_of_name_eq {a b : Event} (h : a.name = b.name) : a = b := by
  have := ofName_name a
  rw [h, ofName_name b] at this
  exact (Option.some.inj this).symm

end Event

end SparseRows
