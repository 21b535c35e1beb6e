import SparseRows.Body.Files
import SparseRows.Client.Lifecycle
import SparseRows.Config
import SparseRows.Dialect.Basic
import SparseRows.Dialect.Script
import SparseRows.Sql.Connection

/-!
# Rows in a relational database

All rows are in one table of row ids, column ids and values, where the row id is the hash of the row key and every value is
a text. A client owns one connection. It works on it through five prepared statements, which it prepares when they are first
needed and the schema has been checked. What the connection refuses is reported with its cause; what fails while something
is released is only logged. Bodies are kept in files.
-/

namespace SparseRows

open Dialect

/-- A connection and what its client has done with it. -/
structure Session (κ : Type) where
  connection : κ
  phase : Phase := .created

/-- A client of a relational store. -/
structure RelationalClient where
  registry : Registry
  /-- The places of resources for the database, the best first. -/
  candidates : List String
  dialect : Dialect
  /-- The algorithm of the row hashes. -/
  algorithm : HashAlgorithm
  bodies : Body.FileBodies
  logger : Logger

namespace RelationalClient

/-- The algorithm of the row hashes: the one in the settings, else the one that the dialect names, else SHA-256. -/
def chooseAlgorithm (config : Config) (dialect : Dialect) : Except StorageError HashAlgorithm :=
  match config.rowHash, dialect.property? hashProperty with
  | some algorithm, _ => .ok algorithm
  | none, some name =>
    if name = "" then .ok .sha256 else Config.readAlgorithm name
  | none, none => .ok .sha256

variable {κ : Type} [SqlConnection κ]

/-- A client for a connection. It asks the connection for its product, and fails if there is no dialect for that. -/
def ofConnection (registry : Registry) (config : Config) (logger : Logger) : Action κ StorageError RelationalClient := do
  config.validate
  let (result, connection) := (SqlConnection.product : Call κ Product).run (← currentState)
  setState connection
  match result with
  | .error e => throw (.driver e)
  | .ok product =>
    let candidates := product.candidates
    let dialect ← Dialect.resolve registry candidates logger
    let algorithm ← chooseAlgorithm config dialect
    return { registry, candidates, dialect, algorithm, bodies := ⟨config.bodyDirectory, logger.child "body"⟩, logger }

/-- Makes a call of the connection. -/
def call {α : Type} (request : Call κ α) : Step (Session κ) (Except DriverError α) := do
  let session ← currentState
  let (result, connection) := request.run session.connection
  setState { session with connection }
  return result

/-- Goes on to another phase. -/
def enter (phase : Phase) : Step (Session κ) Unit := do
  setState { ← currentState with phase }

variable (client : RelationalClient)

/-- The row id of a key. -/
def rowId (key : RowKey) : String :=
  key.hash client.algorithm

/-! ## Schema -/

/-- Runs a part of a schema script. A statement that fails is logged and passed over. -/
def runItem (resource : String) : ScriptItem → Step (Session κ) Unit
  | .comment line text =>
    log client.logger .trace .schemaComment [("line", line.repr), ("resource", resource), ("text", text)]
  | .statement line sql => do
    match ← call (SqlConnection.execute sql) with
    | .ok _ =>
      log client.logger .info .schemaStatementOk [("line", line.repr), ("resource", resource), ("sql", sql)]
    | .error e =>
      log client.logger .warn .schemaStatementFailed
        [("line", line.repr), ("reason", e.message), ("resource", resource), ("sql", sql)]

/-- Notes that the schema is there. -/
def noteSchema : Step (Session κ) Unit := do
  enter (← currentState).phase.schemaFound

/-- Sets up the schema by the first script there is; `cause` is why it was not found. -/
def bootstrap (cause : Option DriverError) : Action (Session κ) PoolError Unit := do
  match client.registry.script? client.candidates with
  | none =>
    log client.logger .fatal .schemaBootstrapFailed [("tried", ", ".intercalate client.candidates)]
    throw { fault := .noScript client.candidates, cause := cause.map .driver }
  | some (resource, script) =>
    ((Script.parse script).forM (client.runItem resource)).toAction
    log client.logger .info .schemaBootstrapComplete [("resource", resource)]
    noteSchema.toAction

/-- Makes sure that the schema is there: asks for it if the dialect says how, and sets it up otherwise. -/
def checkSchema : Action (Session κ) PoolError Unit := do
  if (← currentState).phase = .closed then
    throw { fault := .connectionClosed }
  match client.dialect.property? Template.checkSchema.name with
  | none => client.bootstrap none
  | some sql =>
    match ← (call (SqlConnection.execute sql)).toAction with
    | .ok true => noteSchema.toAction
    | .ok false => client.bootstrap none
    | .error e =>
      log client.logger .trace .schemaCheckFailed [("reason", e.message)]
      client.bootstrap (some e)

/-! ## Statements -/

/-- Logs that something could not be released. -/
def noteCleanup (resource : String) : Except DriverError Unit → Step (Session κ) Unit
  | .ok _ => return ()
  | .error e => log client.logger .trace .cleanupFailed [("reason", e.message), ("resource", resource)]

/-- Releases the prepared statements. -/
def release : Step (Session κ) Unit := do
  client.noteCleanup "prepared statements" (← call SqlConnection.release)

/-- Prepares the statement of a template. -/
def prepare (template : Template) : Action (Session κ) StorageError Nat := do
  let sql ← client.dialect.sql template
  match ← (call (SqlConnection.prepare sql)).toAction with
  | .ok handle => return handle
  | .error e => throw (.driver e)

/-- Prepares the five row statements. -/
def prepareAll : Action (Session κ) StorageError Statements := do
  let deleteRow ← client.prepare .deleteRow
  let selectRow ← client.prepare .selectRow
  let insertColumn ← client.prepare .insertColumn
  let updateColumn ← client.prepare .updateColumn
  let removeColumn ← client.prepare .removeColumn
  return { deleteRow, selectRow, insertColumn, updateColumn, removeColumn }

/-- The prepared statements of a client whose schema has been checked; they are prepared if they are not. If one cannot be
prepared, those before it are released. -/
def startUp : Action (Session κ) StorageError Statements := do
  match (← currentState).phase with
  | .active statements => return statements
  | .created => throw (.of .schemaUnchecked)
  | .closed => throw (.of .connectionClosed)
  | .schemaChecked | .passive =>
    match ← client.prepareAll.attempt.toAction with
    | .error e =>
      client.release.toAction
      throw e
    | .ok statements =>
      (enter (.active statements)).toAction
      log client.logger .info .connectionActivated [("dialect", client.dialect.location)]
      return statements

/-- Makes the client ready for row operations. -/
def activate : Action (Session κ) StorageError Unit := do
  let _ ← client.startUp

/-- Releases the statements of an active client. -/
def passivate : Step (Session κ) Unit := do
  if let .active _ := (← currentState).phase then
    client.release
    enter .passive
    log client.logger .info .connectionPassivated [("dialect", client.dialect.location)]

/-- Closes the connection, once. -/
def close : Step (Session κ) Unit := do
  if (← currentState).phase ≠ .closed then
    client.passivate
    client.noteCleanup "connection" (← call SqlConnection.close)
    enter .closed
    log client.logger .info .connectionClosed [("dialect", client.dialect.location)]

/-- Whether the connection works. -/
def validate : Step (Session κ) Bool := do
  if (← currentState).phase = .closed then return false
  match client.dialect.sql .validate with
  | .error e =>
    log client.logger .warn .connectionValidateFailed [("reason", e.fault.message)]
    return false
  | .ok sql =>
    match ← call (SqlConnection.execute sql) with
    | .ok _ => return true
    | .error e =>
      log client.logger .warn .connectionValidateFailed [("reason", e.message)]
      return false

/-! ## Rows -/

/-- Makes a call for an operation on a row. -/
def perform {α : Type} (operation : String) (key : RowKey) (request : Call κ α) : Action (Session κ) StorageError α := do
  match ← (call request).toAction with
  | .ok a => return a
  | .error e =>
    log client.logger .warn .storageOpFailed [("operation", operation), ("reason", e.message), ("row", key.toText)]
    throw (StorageError.ofDriver (.operationFailed operation) e |>.forRow key)

/-- The row of a key, empty if there is none. All its values are texts. -/
def get (key : RowKey) : Action (Session κ) StorageError Row := do
  let statements ← client.startUp
  let pairs ← client.perform "get" key (SqlConnection.query statements.selectRow [client.rowId key])
  return Row.ofList (pairs.map fun (column, text) => (column, .text text))

/-- The text that a change leaves in a column, none if the column is removed. -/
def textOf : String × Change → Except StorageError (String × Option String)
  | (column, .remove) => .ok (column, none)
  | (column, .put v) =>
    match v.toText? with
    | some text => .ok (column, some text)
    | none => .error (.of (.binaryColumn column))

/-- Makes the change to a column of a row: a text overwrites the one that is there or comes to be. -/
def saveColumn (statements : Statements) (key : RowKey) : String × Option String → Action (Session κ) StorageError Unit
  | (column, some text) => do
    let params := [text, client.rowId key, column]
    let updated ← client.perform "insert" key (SqlConnection.update statements.updateColumn params)
    if 0 < updated then
      log client.logger .trace .columnUpdated [("column", column), ("row", key.toText)]
    else
      let inserted ← client.perform "insert" key (SqlConnection.update statements.insertColumn params)
      if inserted = 0 then
        throw (StorageError.of (.columnNotSaved column) |>.forRow key)
      log client.logger .trace .columnInserted [("column", column), ("row", key.toText)]
  | (column, none) => do
    let removed ←
      client.perform "insert" key (SqlConnection.update statements.removeColumn [client.rowId key, column])
    log client.logger .trace (if removed = 0 then .columnAbsent else .columnRemoved)
      [("column", column), ("row", key.toText)]

/-- Makes changes to the columns of a row, in the order of their names. Bytes in any column are refused before anything else. -/
def insert (key : RowKey) (changes : Changes) : Action (Session κ) StorageError Unit := do
  let texts ← Action.ofExcept ((changes.toList.mapM textOf).mapError (·.forRow key))
  let statements ← client.startUp
  texts.forM (client.saveColumn statements key)

/-- Removes a row, whether it was there or not. -/
def remove (key : RowKey) : Action (Session κ) StorageError Unit := do
  let statements ← client.startUp
  let _ ← client.perform "remove" key (SqlConnection.update statements.deleteRow [client.rowId key])
  log client.logger .trace .rowRemoved [("row", key.toText)]

/-- The store as rows. Rows of a table are numbered by 64-bit words. -/
def access : RowAccess (Session κ) where
  get := client.get
  insert := client.insert
  remove := client.remove
  mostRows _ := UInt64.size

/-- The rows with certain columns: hashes cannot be turned back into keys, so they cannot be looked for. -/
def find (_space _table : String) (_criteria : Row) : Except StorageError (List Row) :=
  .error (.of (.unsupported "find"))

/-- A client in words. -/
def describe (session : Session κ) : String :=
  "RelationalStorageClient \x7b dialect: " ++ Text.quoted client.dialect.location ++ ", state: " ++ session.phase.label ++
    ", hash: " ++ client.algorithm.label ++ " \x7d"

end RelationalClient

end SparseRows
