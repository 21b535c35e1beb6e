import SparseRows.Sql.Access
import SparseRows.Sql.Embedded
import SparseRows.Sql.Execute
import SparseRows.Sql.StatementCache
import SparseRows.Text.Blank

/-!
# An engine for embedded databases

A library for databases in the same program, which reads and runs the statements that stores of rows need. A statement is
checked when it is first read, against the tables as the engine knows them, and it remembers these. When it is run and the
file has tables of another edition, since the database may be shared and have changed in between, it is checked again. Only
the first check can tell the place of what is wrong.
-/

namespace SparseRows.Sql

/-- A database that an engine has opened. -/
structure Engine where
  pager : Pager := {}
  /-- The tables as they were when last looked at. -/
  known : Option Schema := none
  /-- How often the tables have been forgotten. -/
  generation : Nat := 0
  /-- Whether an attempt to look at the tables has failed and no statement has succeeded since. -/
  isUnsure : Bool := false
  cache : StatementCache := {}
  /-- The number of rows that the latest statement to change rows has changed. -/
  changes : Nat := 0

/-- Work of an engine that may fail. What it did before it failed remains done. -/
abbrev EngineM := ExceptT EngineError (StateM Engine)

namespace Engine

/-- The result of work, which is a failure where the work fails. -/
def attempt {α : Type} (work : EngineM α) : StateM Engine (Except EngineError α) :=
  work.run

/-- A result as work. -/
def lift {α : Type} (result : Except EngineError α) : EngineM α :=
  ExceptT.mk (pure result)

/-- Work on the files as they are now. -/
def onFiles {α : Type} (work : EngineM α) : LibraryM Medium Engine α := fun (files, engine) =>
  let (result, after) := work.run { engine with pager := { engine.pager with medium := files } }
  (result, (after.pager.medium, after))

/-! ## Looking at the file -/

/-- Works on the pages at hand. -/
def storage {α : Type} (work : StorageM α) : EngineM α := do
  let engine ← get
  let (result, pager) := work.run engine.pager
  set { engine with pager }
  lift result

/-- Forgets the tables. -/
def forget : StateM Engine Unit :=
  modify fun engine =>
    if engine.known.isSome then { engine with known := none, generation := engine.generation + 1 } else engine

/-- The tables that the connection knows; it looks for them if it knows none. -/
def learn : EngineM Schema := do
  match (← get).known with
  | some known => return known
  | none =>
    tryCatch
      (do
        let known ← storage do Schema.read (← Pager.look)
        modify fun engine => { engine with known }
        return known)
      fun e => do
        modify fun engine => { engine with isUnsure := true }
        throw e

/-! ## Statements -/

/-- A statement that is right for the tables that are known. -/
def preparedOn (statement : Statement) (schema : Schema) : EngineM Prepared := do
  return { statement, schema, generation := (← get).generation }

/-- Checks a statement against the tables. What is known of them decides. Where it speaks against the statement and the file has
tables of another edition, these do, unless it is about an index that is known already. -/
def check (sql : Option String) (statement : Statement) : EngineM Prepared := do
  if !statement.usesTables then return { statement }
  let known ← learn
  match known.check sql statement with
  | .ok _ => preparedOn statement known
  | .error e =>
    if let .indexExists _ := e then throw e
    let edition ← tryCatch (storage Pager.look) fun _ => throw e
    if edition = known.edition then throw e
    forget
    let known ← learn
    lift (known.check sql statement)
    preparedOn statement known

/-- Reads a statement that can be run. -/
def compile (sql : String) : EngineM Prepared := do
  check (some sql) (← lift (Statement.parse sql))

/-- Runs a statement about tables, and completes what it has changed. -/
def runOn (prepared : Prepared) (params : List String) : EngineM Outcome := do
  let some known := (← get).known | throw .malformed
  let outcome ← storage (prepared.schema.run params prepared.statement)
  let hasWritten := !(← get).pager.changed.isEmpty
  let after ←
    if hasWritten && outcome = .done then
      tryCatch (storage (known.following prepared.schema prepared.statement)) fun e => do
        forget
        throw e
    else pure known
  storage Pager.commit
  modify fun engine =>
    { engine with
      known := some after
      isUnsure := false
      cache := if hasWritten && prepared.makesIndex then engine.cache.stale else engine.cache
      changes := match outcome with | .changed count => count | _ => engine.changes }
  return outcome

/-- Lets go of what the connection knows of the tables, if it is not sure of it. -/
def forgetIfUnsure : StateM Engine Unit := do
  if (← get).isUnsure then
    forget
    modify fun engine => { engine with isUnsure := false, cache := engine.cache.stale }

/-- Gives up what a statement has changed. -/
def giveUp : StateM Engine Unit :=
  modify fun engine => { engine with pager := engine.pager.rolledBack }

/-- Work with a statement about tables. If it fails, nothing has been changed. -/
def settling {α : Type} (statement : Statement) (work : EngineM α) : EngineM α :=
  tryCatch work fun e => do
    giveUp
    forgetIfUnsure
    if statement.changesRows then modify fun engine => { engine with changes := 0 }
    throw e

/-- Looks at the file for a statement, and gives the edition of its tables. -/
def lookFor (prepared : Prepared) : EngineM Nat := do
  settling prepared.statement
    (storage (if prepared.isWriting then Pager.lookToWrite else Pager.look))

/-- How often a statement is checked again in one run, at most. -/
def mostChecks : Nat := 50

/-- Runs a statement about tables, and gives it back as it is then known. If it is stale, or turns out to be, it is checked
again and remains stale if that fails. -/
def runOnTables (params : List String) :
    (checks : Nat) → Prepared → StateM Engine (Prepared × Except EngineError Outcome)
  | 0, prepared => return (prepared, .error .changedMeanwhile)
  | checks + 1, prepared => do
    let current ← if prepared.isStale then attempt (check none prepared.statement) else pure (.ok prepared)
    match current with
    | .error e => return (prepared, .error e)
    | .ok prepared =>
      match ← attempt (lookFor prepared) with
      | .error e => return (prepared, .error e)
      | .ok edition =>
        let engine ← get
        if edition = prepared.schema.edition ∧ engine.generation = prepared.generation then
          let outcome ← attempt (settling prepared.statement (runOn prepared params))
          return ({ prepared with isStale := outcome.isOk && prepared.makesIndex }, outcome)
        else
          giveUp
          if engine.known.map Schema.edition ≠ some edition then forget
          forgetIfUnsure
          runOnTables params checks { prepared with isStale := true }

/-- Runs a statement with parameters, and gives it back as it is then known. Of too many parameters the first is noticed. -/
def run (prepared : Prepared) (params : List String) : StateM Engine (Prepared × Except EngineError Outcome) := do
  let wanted := prepared.statement.parameterCount
  if params.length ≠ wanted then
    return (prepared, .error (.wrongParameterCount (min params.length (wanted + 1)) wanted))
  else if prepared.statement.usesTables then runOnTables params mostChecks prepared
  else return (prepared, ← attempt (storage (Schema.run {} params prepared.statement)))

/-! ## Statements at hand -/

/-- A statement that has been read, with the text under which it is kept at hand, if it is. -/
structure Compiled where
  text : Option String
  prepared : Prepared

/-- Keeps a statement at hand under its text, unless it does nothing. -/
def keep (text : String) (prepared : Prepared) : StateM Engine Unit := do
  if prepared.statement ≠ .idle then
    modify fun engine => { engine with cache := engine.cache.keep text prepared }

/-- Reads a statement, blanks around it apart, unless it is at hand. -/
def fetch (sql : String) : EngineM Compiled := do
  let text := String.ofList (Text.trim sql.toList)
  let prepared ← match (← get).cache.find? text with
    | some prepared => pure prepared
    | none => compile text
  keep text prepared
  return ⟨some text, prepared⟩

/-- Runs a statement with parameters, and keeps it at hand if it was. -/
def runCompiled (compiled : Compiled) (params : List String) : EngineM Outcome := do
  let (prepared, outcome) ← run compiled.prepared params
  compiled.text.forM (keep · prepared)
  lift outcome

/-- A row, with the names of its columns. -/
structure NamedRow where
  names : List String
  data : List Datum

namespace NamedRow

/-- The text in a column, if there is something. -/
def text? (row : NamedRow) (index : Nat) : Except EngineError (Option String) :=
  match row.data[index]? with
  | none => .error (.noColumnAt index)
  | some .null => .ok none
  | some (.text bytes) =>
    match String.fromUTF8? bytes, Text.utf8Fault 0 0 bytes.toList with
    | none, some fault => .error (.notUtf8 index fault)
    | text, _ => .ok text
  | some datum => .error (.wrongKind datum.kind index ((row.names[index]?).getD ""))

/-- The text in a column, where nothing is not enough. -/
def text (row : NamedRow) (index : Nat) : Except EngineError String := do
  match ← row.text? index with
  | some text => return text
  | none => throw (.wrongKind .null index ((row.names[index]?).getD ""))

end NamedRow

/-- Runs a statement with parameters for its rows. -/
def query (compiled : Compiled) (params : List String) : EngineM (List NamedRow) := do
  match ← runCompiled compiled params with
  | .rows names rows => return rows.map (⟨names, ·⟩)
  | _ => return []

instance : Library Medium Engine where
  Compiled := Compiled
  Row := NamedRow
  version := Int32.ofNat Pager.engineVersion
  compile sql := onFiles do return ⟨none, ← compile sql⟩
  compileKept sql := onFiles (fetch sql)
  columnCount compiled := compiled.prepared.names.length
  first? compiled := onFiles do return (← query compiled []).head?
  query compiled params := onFiles do return ⟨← query compiled params, none⟩
  change compiled params := onFiles do
    match ← runCompiled compiled params with
    | .rows _ (_ :: _) => throw .returnedRows
    | _ => return (← get).changes
  text? := NamedRow.text?
  text := NamedRow.text
  forget := modify fun (files, engine) => (files, { engine with cache := {} })
  close := onFiles (modify fun engine => { engine with pager := engine.pager.leaveLog })

end Engine

/-- Connections to the databases of the engine. -/
abbrev EngineConnection :=
  Embedded Medium Engine

/-- A connection to an empty database that is in no file. -/
instance : EmptyCollection EngineConnection :=
  ⟨{ files := {}, database := some {} }⟩

end SparseRows.Sql
