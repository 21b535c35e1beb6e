import SparseRows.Sql.Statement
import SparseRows.Sql.Storage.Search

/-!
# Tables and indexes

What a database is made of. The tree at the first page is a table of definitions: each row tells the kind of a thing, its
name, the table that it belongs to, its page and the statement that made it. A statement is checked against the tables and
indexes before it is run.
-/

namespace SparseRows.Sql

/-- A table. -/
structure Table where
  name : String
  definition : List Column
  /-- The page of its tree. -/
  root : Nat
  deriving DecidableEq, Repr

/-- An index of a table, which knows the rows by their data in some columns. -/
structure Index where
  name : String
  table : String
  unique : Bool
  columns : List String
  /-- The page of its tree. -/
  root : Nat
  deriving DecidableEq, Repr

/-- Tables and their indexes. -/
structure Schema where
  edition : Nat := 0
  tables : List Table := []
  /-- The indexes, the latest first. -/
  indexes : List Index := []
  deriving DecidableEq, Repr

namespace Table

/-- The names of the columns. -/
def columns (table : Table) : List String :=
  table.definition.map Column.name

/-- Whether the numbers of the rows are never used again, which needs a record of them. -/
def isSequenced (table : Table) : Bool :=
  table.definition.any Column.isSequence

/-- Refuses columns that the table lacks. -/
def checkColumns (table : Table) (columns : List String) : Except EngineError Unit :=
  match columns.find? (!table.columns.contains ·) with
  | some column => .error (.noSuchColumn column)
  | none => .ok ()

end Table

/-- The number of the first columns of an index that are among some columns. -/
def Index.reach (index : Index) (columns : List String) : Nat :=
  (index.columns.takeWhile columns.contains).length

namespace Schema

/-- The table of a name. -/
def table (schema : Schema) (name : String) : Except EngineError Table :=
  match schema.tables.find? (·.name == name) with
  | some table => .ok table
  | none => .error (.noSuchTable name)

/-- Whether there is an index of a name. -/
def hasIndex (schema : Schema) (name : String) : Bool :=
  schema.indexes.any (·.name == name)

/-- The indexes of a table, the latest first. -/
def indexesOf (schema : Schema) (table : Table) : List Index :=
  schema.indexes.filter (·.table == table.name)

/-- The index that helps most with a condition on some columns of a table, if one does. -/
def indexFor (schema : Schema) (table : Table) (columns : List String) : Option Index :=
  (schema.indexesOf table).foldl
    (fun best index => if (best.map (·.reach columns)).getD 0 < index.reach columns then some index else best) none

/-! ## Checks -/

/-- The name of the table in which the last row numbers of others are kept. -/
def sequenceName : String := "sqlite_sequence"

/-- Refuses a definition of an index that does not fit the tables. -/
def checkIndex (schema : Schema) (index table : String) (unlessExists : Bool) (columns : List String) :
    Except EngineError Unit := do
  match schema.table table with
  | .ok table => table.checkColumns columns
  | .error _ => throw (.noSuchTable ("main." ++ table))
  if !unlessExists && schema.hasIndex index then throw (.indexExists index)

/-- Refuses a statement that cannot be run, because of what the database has or lacks. The text of the statement is for telling
the place where that shows. -/
def check (schema : Schema) (sql : Option String) : Statement → Except EngineError Unit
  | .createTable name unlessExists _ _ =>
    if !unlessExists && (schema.table name.spelling).isOk then
      .error (.tableExists name.spelling (sql.map (⟨·, name.offset⟩)))
    else .ok ()
  | .createIndex index name _ unlessExists columns _ => schema.checkIndex index name unlessExists columns
  | .select selection name condition => do
    match name with
    | some name =>
      let table ← schema.table name
      match selection with
      | .columns columns => table.checkColumns columns
      | _ => pure ()
      table.checkColumns (condition.map (·.1))
    | none => return ()
  | .insert name columns _ => do
    let table ← schema.table name
    table.checkColumns columns
    if table.isSequenced && !(schema.table sequenceName).isOk then throw .malformed
  | .update name assignments condition => do
    (← schema.table name).checkColumns ((assignments ++ condition).map (·.1))
  | .delete name condition => do
    (← schema.table name).checkColumns (condition.map (·.1))
  | .idle => .ok ()

/-- Whether a statement is one that changes a database with these tables and indexes. -/
def isChangedBy (schema : Schema) : Statement → Bool
  | .createTable name _ _ _ => !(schema.table name.spelling).isOk
  | .createIndex index _ _ _ _ _ => !schema.hasIndex index
  | .insert _ _ _ | .update _ _ _ | .delete _ _ => true
  | .select _ _ _ | .idle => false

/-! ## The table of definitions -/

/-- A row of the table of definitions. -/
structure Definition where
  kind : Datum
  name : Datum
  table : Datum
  root : Datum
  text : Datum

namespace Definition

/-- The definition in a row. -/
def ofData (data : List Datum) : Definition :=
  let datum (place : Nat) : Datum := (data[place]?).getD .null
  ⟨datum 0, datum 1, datum 2, datum 3, datum 4⟩

/-- The failure that a definition is. -/
def fault (definition : Definition) (reason : Option String) : EngineError :=
  .malformedDefinition (definition.name.string?.getD "?") reason

/-- The page of what is defined. -/
def page? (definition : Definition) (pageCount : Nat) : Option Nat :=
  match definition.root with
  | .integer n => if 0 ≤ n ∧ n ≤ pageCount then some n.toNat else none
  | _ => none

/-- Whether the definition is of a thing of this kind, of this name. -/
def isNamed (definition : Definition) (kind name : String) : Bool :=
  definition.kind = .ofString kind && definition.name = .ofString name

/-- Whether the definition is of a thing of this kind, of this name, for this table. -/
def isOf (definition : Definition) (kind name table : String) : Bool :=
  definition.isNamed kind name && definition.table = .ofString table

/-- Refuses a definition with a reason. -/
def explained {α : Type} (definition : Definition) (result : Except EngineError α) : Except EngineError α :=
  result.mapError fun e => definition.fault (some e.reason)

/-- The text of the statement that made what is defined, if it can be one. -/
def sql? (definition : Definition) : Option String :=
  definition.text.string?.filter fun sql => (sql.toList.take 2).map Char.toLower = ['c', 'r']

end Definition

/-- The tables and indexes with one more, in a database of so many pages. -/
def withDefinition (schema : Schema) (pageCount : Nat) (definition : Definition) : Except EngineError Schema := do
  if definition.root = .null then throw (definition.fault none)
  let some sql := definition.sql? | throw (definition.fault none)
  let some root := definition.page? pageCount | throw (definition.fault (some "invalid rootpage"))
  let statement ← definition.explained (Statement.parse sql)
  match statement with
  | .createTable name _ columns _ =>
    if !definition.isOf "table" name.spelling name.spelling then throw (definition.fault none)
    definition.explained (schema.check none statement)
    return { schema with tables := schema.tables ++ [⟨name.spelling, columns, root⟩] }
  | .createIndex name table unique unlessExists columns _ =>
    if !definition.isOf "index" name table then throw (definition.fault none)
    definition.explained (schema.checkIndex name table unlessExists columns)
    if schema.indexes.any fun index => index.table = table ∧ index.root = root then
      throw (definition.fault (some "invalid rootpage"))
    return { schema with indexes := ⟨name, table, unique, columns, root⟩ :: schema.indexes }
  | _ => throw (definition.fault none)

/-- The latest format of rows. -/
def latestFormat : Nat := 4

/-- The tables and indexes with those of the definitions that are meant, and the number of these. -/
def readMore (schema : Schema) (isMeant : Definition → Bool) : StorageM (Schema × Nat) := do
  let pageCount := (← get).pageCount
  let rows ← if pageCount = 0 then pure [] else Tree.rows 1
  Pager.lift <| rows.foldlM
    (fun (schema, count) (_, record) => do
      let definition := Definition.ofData (← Record.read 5 record)
      if isMeant definition then return (← schema.withDefinition pageCount definition, count + 1) else return (schema, count))
    (schema, 0)

/-- The tables and indexes of a database, as the pages tell them. -/
def read (edition : Nat) : StorageM Schema := do
  if latestFormat < (← Pager.page 1).get4 Header.format % 256 then throw .laterFormat
  return (← readMore { edition } fun _ => true).1

/-- The tables and indexes with those of the new definitions that are meant. -/
def readNew (schema : Schema) (isMeant : Definition → Bool) : StorageM Schema := do
  let (schema, count) ← schema.readMore isMeant
  if count = 0 then throw .malformed
  return schema

/-- Whether a new table needs a table of last row numbers that is not there yet. -/
def needsSequence (schema : Schema) (columns : List Column) : Bool :=
  columns.any Column.isSequence && !(schema.table sequenceName).isOk

/-- The number of the next edition. -/
def nextEdition (schema : Schema) : Nat :=
  (schema.edition + 1) % UInt32.size

/-- The tables and indexes that are known, with what a statement has made that was run on others. -/
def following (schema ranOn : Schema) (statement : Statement) : StorageM Schema := do
  let next := { schema with edition := ranOn.nextEdition }
  match statement with
  | .createTable name _ columns _ =>
    let next ← if ranOn.needsSequence columns then next.readNew (·.table = .ofString sequenceName) else pure next
    next.readNew (·.table = .ofString name.spelling)
  | .createIndex index _ _ _ _ _ => next.readNew fun definition => definition.isNamed "index" index
  | _ => return next

end Schema

end SparseRows.Sql
