import SparseRows.Sql.Schema
import SparseRows.Sql.Storage.Tree

/-!
# Running statements

What a statement about tables does to their trees. Each row of a table has a number; the record of a row holds its data, and
each index of the table has a record of the data in its columns with the number of the row behind them. Rows are found
through the index that helps with the condition, in its order, or else in the order of their numbers.
-/

namespace SparseRows.Sql

/-- What a statement gives: rows to read under the names of their columns, the number of rows that it changed, or nothing. -/
inductive Outcome where
  | rows (names : List String) (rows : List (List Datum))
  | changed (count : Nat)
  | done
  deriving DecidableEq

/-- A row with its number. -/
structure Numbered where
  number : Int
  data : List Datum
  deriving DecidableEq

namespace Datum

/-- What a query gives of a number in a statement. -/
def ofLiteral (spelling : String) : Datum :=
  integer (Nat.ofDigitChars 10 spelling.toList 0)

/-- The integer of a datum, if it is one. -/
def integer? : Datum → Option Int
  | integer n => some n
  | _ => none

/-- The kind of a datum. -/
def kind : Datum → DatumKind
  | null => .null
  | integer _ => .integer
  | real _ => .real
  | text _ => .text
  | blob _ => .blob

end Datum

/-- The datum of a term, given the parameters. Columns hold texts. -/
def Term.datum (params : List String) : Term → Datum
  | parameter number => ((params[number - 1]?).map Datum.ofString).getD .null
  | null => .null
  | literal spelling => .ofString spelling

namespace Table

/-- The number of the first columns up to the last one of some columns. -/
def reach (table : Table) (columns : List String) : Nat :=
  table.definition.zipIdx.foldl (fun reach (column, place) => if columns.contains column.name then place + 1 else reach) 0

/-- The row that a record is, of which some columns are needed. -/
def read (table : Table) (columns : List String) (number : Int) (record : ByteArray) : Except EngineError Numbered := do
  return ⟨number, ← Record.read (table.reach columns) record⟩

/-- The datum in a column of a row. A column that is another name for the number of the row holds nothing itself. -/
def datum (table : Table) (row : Numbered) (column : String) : Datum :=
  match table.definition.findIdx? (·.name == column) with
  | none => .null
  | some place =>
    if (table.definition[place]?).any Column.isRowNumber then .integer row.number else (row.data[place]?).getD .null

/-- The data of a row, with others in some columns. -/
def assigned (table : Table) (row : Numbered) (assignments : List (String × Datum)) : List Datum :=
  table.definition.map fun column =>
    if column.isRowNumber then .null else (assignments.lookup column.name).getD (table.datum row column.name)

/-- Whether a row has these data in these columns. -/
def fits (table : Table) (condition : List (String × Datum)) (row : Numbered) : Bool :=
  condition.all fun (column, datum) => datum ≠ .null && table.datum row column == datum

/-- Refuses a row without a datum in a column that has to have one. -/
def checkPresent (table : Table) (row : Numbered) : Except EngineError Unit :=
  match table.definition.find? fun column => column.isRequired && table.datum row column.name == .null with
  | some column => .error (.missingValue table.name column.name)
  | none => .ok ()

end Table

namespace Index

/-- The data by which an index knows a row. -/
def key (index : Index) (table : Table) (row : Numbered) : List Datum :=
  index.columns.map (table.datum row)

/-- The record of a row. -/
def record (index : Index) (table : Table) (row : Numbered) : List Datum :=
  index.key table row ++ [.integer row.number]

/-- The number of the row that a record is of. -/
def rowOf (record : List Datum) : StorageM Int :=
  match record.getLast?.bind Datum.integer? with
  | some number => return number
  | none => throw .malformed

/-- Refuses a row whose data in the columns of a unique index are those of another row. -/
def checkNew (index : Index) (table : Table) (row : Numbered) : StorageM Unit := do
  let key := index.key table row
  if index.unique && !key.contains .null then
    for record in ← Tree.records index.root key do
      if (← rowOf record) ≠ row.number then throw (.notUnique table.name index.columns)

end Index

/-- The rows of a table, of which some columns are needed. -/
def Table.rows (table : Table) (columns : List String) : StorageM (List Numbered) := do
  (← Tree.rows table.root).mapM fun (number, record) => Pager.lift (table.read columns number record)

/-- The columns that a query gives. -/
def Selection.columnsOf (table : Table) : Selection → List String
  | everything => table.columns
  | columns names => names
  | count _ | literal _ => []

/-- The format of rows in the file. -/
def Pager.format : StorageM Nat := do
  return max 1 ((← page 1).get4 Header.format % 256)

/-- The number of the next new row. -/
def Tree.nextRow (root : Nat) : StorageM Int := do
  return ((← lastRow? root).getD 0) + 1

namespace Schema

variable (schema : Schema)

/-! ## Finding rows -/

/-- The row of a table that a record of an index is of, of which some columns are needed. The record tells those of the
index. -/
def rowBehind (table : Table) (index : Index) (columns : List String) (record : List Datum) : StorageM Numbered := do
  let number ← Index.rowOf record
  let some stored ← Tree.row? table.root number | throw .malformed
  let row ← Pager.lift (table.read (columns.filter (!index.columns.contains ·)) number stored)
  return ⟨number, table.assigned row (index.columns.zip record)⟩

/-- The rows of a table for which a condition holds, in the order in which they are found through an index, if one helps. Some
columns of them are needed. -/
def find (table : Table) (condition : List (String × Datum)) (needed : List String) : StorageM (List Numbered) := do
  let columns := condition.map (·.1) ++ needed
  match schema.indexFor table (condition.map (·.1)) with
  | none => return (← table.rows columns).filter (table.fits condition)
  | some index =>
    let key := (index.columns.take (index.reach (condition.map (·.1)))).map fun column => (condition.lookup column).getD .null
    if key.contains .null then return []
    return (← (← Tree.records index.root key).mapM (rowBehind table index columns)).filter (table.fits condition)

/-- The number of rows of a table, counted in the smallest index or in the table if it has none. -/
def count (table : Table) : StorageM Nat := do
  let smallest := (schema.indexesOf table).foldl
    (fun (best : Option Index) index =>
      if best.all (index.columns.length < ·.columns.length) then some index else best) none
  match smallest with
  | some index => return (← Tree.records index.root []).length
  | none => return (← Tree.rows table.root).length

/-- What a query gives. -/
def answer (table : Table) (condition : List (String × Datum)) (selection : Selection) : StorageM Outcome := do
  if let (.count name, []) := (selection, condition) then return .rows [name] [[.integer (← schema.count table)]]
  let found ← schema.find table condition (selection.columnsOf table)
  match selection with
  | .everything => return .rows table.columns (found.map fun row => table.columns.map (table.datum row))
  | .count name => return .rows [name] [[.integer found.length]]
  | .columns names => return .rows names (found.map fun row => names.map (table.datum row))
  | .literal spelling => return .rows [spelling] (found.map fun _ => [.ofLiteral spelling])

/-! ## Changing rows -/

/-- Puts the records of a row into indexes. -/
def putRecords (table : Table) (indexes : List Index) (row : Numbered) : StorageM Unit := do
  let format ← Pager.format
  indexes.forM fun index => Tree.putRecord format index.root (index.record table row)

/-- Takes the records of a row out of indexes. -/
def deleteRecords (table : Table) (indexes : List Index) (row : Numbered) : StorageM Unit :=
  indexes.forM fun index => Tree.deleteRecord index.root (index.record table row)

/-- The row with the last number of the rows of a table that there have been, its own number and that last one, if it is
there. -/
def sequence? (sequence table : Table) : StorageM (Option (Int × Int)) := do
  match (← sequence.rows sequence.columns).find? fun row => row.data.head? = some (.ofString table.name) with
  | none => return none
  | some row => return some (row.number, (row.data[1]?.bind Datum.integer?).getD 0)

/-- The number for a new row, and what remains to be done once the row is there. -/
def numberFor (table : Table) : StorageM (Int × StorageM Unit) := do
  let next ← Tree.nextRow table.root
  if !table.isSequenced then return (next, return ())
  let .ok sequence := schema.table sequenceName | throw .malformed
  let earlier ← sequence? sequence table
  let last := (earlier.map (·.2)).getD 0
  let number := max next (last + 1)
  let note : StorageM Unit := do
    let row ← match earlier with
      | some (row, _) => pure row
      | none => Tree.nextRow sequence.root
    Tree.putRow sequence.root row (Record.ofData (← Pager.format) [.ofString table.name, .integer number])
  return (number, note)

/-- Puts a new row into a table. -/
def insert (table : Table) (values : List (String × Datum)) : StorageM Unit := do
  let (number, note) ← schema.numberFor table
  let row : Numbered := ⟨number, table.assigned ⟨number, []⟩ values⟩
  Pager.lift (table.checkPresent row)
  let indexes := schema.indexesOf table
  indexes.forM fun index => index.checkNew table row
  putRecords table indexes row
  Tree.putRow table.root number (Record.ofData (← Pager.format) row.data)
  note

/-- Changes data in a row. -/
def update (table : Table) (assignments : List (String × Datum)) (row : Numbered) : StorageM Unit := do
  let after : Numbered := ⟨row.number, table.assigned row assignments⟩
  Pager.lift (table.checkPresent after)
  let indexes := (schema.indexesOf table).filter fun index => index.columns.any ((assignments.map (·.1)).contains ·)
  indexes.forM fun index => index.checkNew table after
  deleteRecords table indexes row
  putRecords table indexes after
  Tree.replaceRow table.root row.number (Record.ofData (← Pager.format) after.data)

/-- Takes a row, found through an index or not, out of a table. -/
def delete (table : Table) (found : Option Index) (row : Numbered) : StorageM Unit := do
  let others := (schema.indexesOf table).filter (some · ≠ found)
  deleteRecords table others row
  Tree.deleteRow table.root row.number
  deleteRecords table found.toList row

/-! ## New tables and indexes -/

/-- Makes the next edition of the tables known. -/
def noteEdition : StorageM Unit :=
  Pager.put4 1 Header.edition schema.nextEdition

/-- Makes a table. Its definition gets a place before it is known. -/
def createTable (name text : String) : StorageM Unit := do
  if (← Pager.page 1).get4 Header.format = 0 then
    Pager.put4 1 Header.format latestFormat
    Pager.put4 1 Header.encoding 1
  let root ← Tree.create true
  let number ← Tree.nextRow 1
  Tree.putRow 1 number (Record.ofData 1 (List.replicate 5 .null))
  let name := Datum.ofString name
  let data := [.ofString "table", name, name, .integer root, .ofString text]
  Tree.replaceRow 1 number (Record.ofData (← Pager.format) data)
  schema.noteEdition

/-- Makes an index of the rows that are there. -/
def createIndex (name : String) (table : Table) (unique : Bool) (columns : List String) (text : String) : StorageM Unit := do
  let root ← Tree.create false
  let index : Index := ⟨name, table.name, unique, columns, root⟩
  let format ← Pager.format
  let number ← Tree.nextRow 1
  let data := [.ofString "index", .ofString name, .ofString table.name, .integer root, .ofString text]
  Tree.putRow 1 number (Record.ofData format data)
  let records := (← table.rows columns).map (index.record table)
  let sorted := records.mergeSort fun a b => Record.order .eq a b ≠ .gt
  if unique && (sorted.zip sorted.tail).any fun (a, b) => a.dropLast = b.dropLast ∧ !a.dropLast.contains .null then
    throw (.notUnique table.name columns)
  sorted.forM (Tree.appendRecord format root)
  schema.noteEdition

/-! ## Statements -/

/-- Runs a statement with parameters. -/
def run (params : List String) : Statement → StorageM Outcome
  | .idle => throw .nothingToRun
  | .createTable name _ columns text => do
    if (schema.table name.spelling).isOk then return .done
    schema.createTable name.spelling text
    if schema.needsSequence columns then
      schema.createTable sequenceName ("CREATE TABLE " ++ sequenceName ++ "(name,seq)")
    return .done
  | .createIndex index name unique _ columns text => do
    if schema.hasIndex index then return .done
    schema.createIndex index (← Pager.lift (schema.table name)) unique columns text
    return .done
  | .select selection none _ =>
    match selection with
    | .literal spelling => return .rows [spelling] [[.ofLiteral spelling]]
    | _ => return .rows [] []
  | .select selection (some name) condition => do
    let table ← Pager.lift (schema.table name)
    schema.answer table (condition.map fun (column, term) => (column, term.datum params)) selection
  | .insert name columns values => do
    let table ← Pager.lift (schema.table name)
    schema.insert table (columns.zip (values.map (Term.datum params)))
    return .changed 1
  | .update name assignments condition => do
    let table ← Pager.lift (schema.table name)
    let kept := table.columns.filter (!(assignments.map (·.1)).contains ·)
    let found ← schema.find table (condition.map fun (column, term) => (column, term.datum params)) kept
    found.forM (schema.update table (assignments.map fun (column, term) => (column, term.datum params)))
    return .changed found.length
  | .delete name condition => do
    let table ← Pager.lift (schema.table name)
    let known := (schema.indexesOf table).flatMap Index.columns
    let found ← schema.find table (condition.map fun (column, term) => (column, term.datum params)) known
    found.forM (schema.delete table (schema.indexFor table (condition.map (·.1))))
    return .changed found.length

end Schema

end SparseRows.Sql
