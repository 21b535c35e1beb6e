import SparseRows.Client.Memory
import SparseRows.Client.Relational
import SparseRows.Content.Basic
import SparseRows.Sql.AnyConnection
import SparseRows.Sql.DatabaseFile

/-!
# Workspaces

Everything that the clients of one program share: the stores in memory, the files, the journal, and the clients, body layouts,
content items and bare connections themselves, each under a name. Work in a workspace names what it is about, and fails if there
is nothing of that name.
-/

namespace SparseRows

open Std

/-- A client of either kind of store. -/
inductive Client where
  /-- A client of the store in memory of this name. -/
  | memory (store : String) (client : MemoryClient)
  | relational (client : RelationalClient) (session : Session AnyConnection)

/-- A way to store bodies. -/
inductive BodyLayout where
  | sets (layout : Body.BlockSets)
  | files (layout : Body.FileBodies)

/-- The way in which a client stores bodies. -/
def Client.layout : Client → BodyLayout
  | memory _ client => .sets client.bodies
  | relational client _ => .files client.bodies

/-- What the clients of one program share. -/
structure Workspace where
  journal : Journal := {}
  files : FileTree := {}
  stores : ExtTreeMap String MemoryStore := ∅
  clients : ExtTreeMap String Client := ∅
  layouts : ExtTreeMap String BodyLayout := ∅
  contents : ExtTreeMap String Content := ∅
  connections : ExtTreeMap String AnyConnection := ∅
  /-- The calls of connections on record, in order. -/
  calls : List SqlCall := []

/-- Why work in a workspace failed. -/
inductive WorkFault where
  | noClient
  | noContent
  | noLayout
  | noConnection
  | storage (e : StorageError)
  | pool (e : PoolError)
  | driver (e : DriverError)
  deriving DecidableEq, Repr

/-- Work in a workspace. -/
abbrev Work := ExceptT WorkFault (StateM Workspace)

namespace Workspace

/-- The store of a name, empty if there is none yet. -/
def store (workspace : Workspace) (name : String) : MemoryStore :=
  (workspace.stores[name]?).getD ∅

/-- The value of a result, whose error ends the work. -/
def demand {α : Type} : Except StorageError α → Work α
  | .ok a => return a
  | .error e => throw (.storage e)

/-- The client of a name. -/
def client (id : String) : Work Client := do
  match (← get).clients[id]? with
  | some client => return client
  | none => throw .noClient

/-- The relational client of a name. -/
def relational (id : String) : Work (RelationalClient × Session AnyConnection) := do
  match ← client id with
  | .relational client session => return (client, session)
  | .memory _ _ => throw .noClient

/-- The layout of a name. -/
def layout (id : String) : Work BodyLayout := do
  match (← get).layouts[id]? with
  | some layout => return layout
  | none => throw .noLayout

/-- The content of a name. -/
def content (id : String) : Work Content := do
  match (← get).contents[id]? with
  | some content => return content
  | none => throw .noContent

/-- Keeps content under a name. -/
def putContent (id : String) (content : Content) : Work Unit :=
  modify fun workspace => { workspace with contents := workspace.contents.insert id content }

/-! ## Work on the parts -/

/-- Works on nothing but the journal. -/
def onJournal {α : Type} (step : Step Unit α) : Work α := do
  let workspace ← get
  let (a, after) := step.run ⟨(), workspace.journal⟩
  set { workspace with journal := after.journal }
  return a

/-- Works on a store in memory. -/
def onStore {α : Type} (name : String) (step : Step MemoryStore α) : Work α := do
  let workspace ← get
  let (a, after) := step.run ⟨workspace.store name, workspace.journal⟩
  set { workspace with stores := workspace.stores.insert name after.state, journal := after.journal }
  return a

/-- Works on the files. -/
def onFiles {α : Type} (step : Step FileTree α) : Work α := do
  let workspace ← get
  let (a, after) := step.run ⟨workspace.files, workspace.journal⟩
  set { workspace with files := after.state, journal := after.journal }
  return a

/-- A connection with the database that its file holds now. -/
def checkOut (connection : AnyConnection) : Work AnyConnection := do
  match connection with
  | .file place inner => return .file place { inner with files := (← get).files.medium place }
  | connection => return connection

/-- Keeps what a connection has done since it was looked at: its file holds the database, and its calls are on record. -/
def checkIn (before after : AnyConnection) : Work Unit :=
  modify fun workspace =>
    { workspace with
      files := match after with
        | .file place inner => workspace.files.keepMedium place inner.files
        | _ => workspace.files
      calls := workspace.calls ++ after.calls.drop before.calls.length }

/-- Lets go of a connection without a call. The log of its file, if there is one, has one user less. -/
def abandon (connection : AnyConnection) : Work Unit := do
  if let .file place inner ← checkOut connection then
    modify fun workspace => { workspace with files := workspace.files.keepMedium place inner.abandoned }

/-- Keeps a connection under a name; an older one of that name is let go. -/
def putConnection (id : String) (connection : AnyConnection) : Work Unit := do
  let older := (← get).connections[id]?
  modify fun workspace => { workspace with connections := workspace.connections.insert id connection }
  older.forM abandon

/-- Works on the session of a relational client. -/
def onSession {α : Type} (id : String) (client : RelationalClient) (session : Session AnyConnection)
    (step : Step (Session AnyConnection) α) : Work α := do
  let connection ← checkOut session.connection
  let workspace ← get
  let (a, after) := step.run ⟨{ session with connection }, workspace.journal⟩
  set
    { workspace with
      clients := workspace.clients.insert id (.relational client after.state)
      journal := after.journal }
  checkIn connection after.state.connection
  return a

/-- Works on the rows that a client reaches. -/
def onRows {ε α : Type} (id : String) (action : {σ : Type} → RowAccess σ → Action σ ε α) : Work (Except ε α) := do
  match ← client id with
  | .memory store client => onStore store (action client.access).attempt
  | .relational client session => onSession id client session (action client.access).attempt

/-- Makes a call of a bare connection. -/
def onConnection {α : Type} (id : String) (request : Call AnyConnection α) : Work α := do
  match (← get).connections[id]? with
  | none => throw .noConnection
  | some held =>
    let connection ← checkOut held
    let (result, after) := request.run connection
    modify fun workspace => { workspace with connections := workspace.connections.insert id after }
    checkIn connection after
    match result with
    | .ok a => return a
    | .error e => throw (.driver e)

end Workspace

end SparseRows
