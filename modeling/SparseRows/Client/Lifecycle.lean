/-!
# Lifecycle of a relational client

A client is made, then the schema is checked, and from then on it is either active, with its statements prepared, or
passive, until it is closed for good. The statements are part of the phase, so only an active client has any.
-/

namespace SparseRows

/-- The handles of the five row statements. -/
structure Statements where
  deleteRow : Nat
  selectRow : Nat
  insertColumn : Nat
  updateColumn : Nat
  removeColumn : Nat
  deriving DecidableEq, Repr

/-- Where a client is in its life. -/
inductive Phase where
  /-- Made; nothing is known of the schema. -/
  | created
  /-- The schema is there. -/
  | schemaChecked
  /-- The statements are prepared. -/
  | active (statements : Statements)
  /-- The statements are released. -/
  | passive
  /-- The connection is closed. -/
  | closed
  deriving DecidableEq, Repr

namespace Phase

/-- The text of a phase. -/
def text : Phase → String
  | created => "CREATED"
  | schemaChecked => "SCHEMA_CHECKED"
  | active _ => "ACTIVE"
  | passive => "PASSIVE"
  | closed => "CLOSED"

/-- The name of a phase in a description. -/
def label : Phase → String
  | created => "Created"
  | schemaChecked => "SchemaChecked"
  | active _ => "Active"
  | passive => "Passive"
  | closed => "Closed"

/-- Whether the schema is there and the connection is not closed. -/
def isAlive : Phase → Bool
  | schemaChecked | active _ | passive => true
  | created | closed => false

/-- The phase once the schema is known to be there. -/
def schemaFound : Phase → Phase
  | created => schemaChecked
  | phase => phase

end Phase

end SparseRows
