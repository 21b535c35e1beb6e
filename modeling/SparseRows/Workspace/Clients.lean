import SparseRows.Content.Children
import SparseRows.Content.Stored
import SparseRows.Workspace.Basic

/-!
# Work with clients

What can be asked of a client by its name, whichever kind of store it is a client of: a client in memory is always ready, so
that making it ready, or closing it, does nothing.
-/

namespace SparseRows.Workspace

/-- Closes a client for good. -/
def giveUp (id : String) : Client → Work Unit
  | .memory _ _ => return ()
  | .relational client session => onSession id client session client.close

/-- Keeps a client under a name; an older one of that name is closed. -/
def install (id : String) (client : Client) : Work Unit := do
  if let some older := (← get).clients[id]? then giveUp id older
  modify fun workspace => { workspace with clients := workspace.clients.insert id client }

/-- Closes the client of a name and forgets it, and says whether there was one. -/
def drop (id : String) : Work Bool := do
  match (← get).clients[id]? with
  | none => return false
  | some client =>
    giveUp id client
    modify fun workspace => { workspace with clients := workspace.clients.erase id }
    return true

/-- A new connection to the database in a file. -/
def openFile (path : String) : Work AnyConnection := do
  let place ← demand (← onFiles (Sql.openFile path).attempt)
  let files := (← get).files.medium place
  return .file place { files, database := some { pager := Sql.Pager.opened files } }

/-- Makes a relational client for a connection. -/
def makeRelational (id : String) (connection : AnyConnection) (registry : Dialect.Registry) (config : Config)
    (logger : Logger) : Work Unit := do
  let before ← checkOut connection
  let workspace ← get
  let made : Action AnyConnection StorageError RelationalClient := RelationalClient.ofConnection registry config logger
  let (result, after) := made.attempt.run ⟨before, workspace.journal⟩
  set { workspace with journal := after.journal }
  checkIn before after.state
  install id (.relational (← demand result) { connection := after.state })

/-- Makes a client ready for row operations. -/
def activate (id : String) : Work Unit := do
  if let .relational client session ← client id then
    demand (← onSession id client session client.activate.attempt)

/-- Lets a client rest. -/
def passivate (id : String) : Work Unit := do
  if let .relational client session ← client id then onSession id client session client.passivate

/-- Closes a client, which remains under its name. -/
def close (id : String) : Work Unit := do
  giveUp id (← client id)

/-- Makes sure that the schema of a relational client is there. -/
def checkSchema (id : String) : Work Unit := do
  let (client, session) ← relational id
  match ← onSession id client session client.checkSchema.attempt with
  | .ok _ => return ()
  | .error e => throw (.pool e)

/-- Whether the connection of a relational client works. -/
def validate (id : String) : Work Bool := do
  let (client, session) ← relational id
  onSession id client session client.validate

/-- Whether a store in memory has a row for a key. -/
def contains (id : String) (key : RowKey) : Work Bool := do
  match ← client id with
  | .memory store _ => return decide (key ∈ (← get).store store)
  | .relational _ _ => throw .noClient

/-- The rows of a table with certain columns. -/
def find (id : String) (space table : String) (criteria : Row) : Work (List Row) := do
  match ← client id with
  | .memory _ _ => demand (MemoryClient.find space table criteria)
  | .relational _ _ => demand (RelationalClient.find space table criteria)

/-- Stores a body by a layout, whose rows are those of a client. -/
def writeBody (layout : BodyLayout) (id : String) (content : RowKey) (blockId : String) (source : Body.Source)
    (stamp : Body.Stamp) : Work Row := do
  match layout with
  | .sets layout => demand (← onRows id fun rows => layout.write rows content blockId source stamp.now)
  | .files layout => demand (← onFiles (layout.write content blockId source stamp).attempt)

/-- Opens a body by a layout, whose rows are those of a client, and gives what reading it gives. -/
def readBody (layout : BodyLayout) (id : String) (content : RowKey) (blockId : String) (record : Row) :
    Work (Except IoError Bytes) := do
  match layout with
  | .sets layout => return .ok (← demand (← onRows id fun rows => layout.read rows content blockId record))
  | .files layout => demand (← onFiles (layout.read blockId record).attempt)

end SparseRows.Workspace
