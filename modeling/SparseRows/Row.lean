import Std.Data.ExtTreeMap
import SparseRows.Value

/-!
# Rows and changes

A row is sparse: it maps some column names to values, in the order of the names, and a row without columns is the same as no
row. A change set says for some columns what becomes of them; it is applied to a row column by column.
-/

namespace SparseRows

open Std

/-- A sparse row: the columns it has, by name. -/
abbrev Row := ExtTreeMap String Value

/-- The row with these columns, of which a later one of the same name counts. -/
def Row.ofList (columns : List (String × Value)) : Row :=
  ExtTreeMap.ofList columns

/-- A column that the list names once has the value given there. -/
theorem Row.getElem?_ofList_of_mem {columns : List (String × Value)} {column : String} {v : Value}
    (hnodup : (columns.map (·.1)).Nodup) (h : (column, v) ∈ columns) : (Row.ofList columns)[column]? = some v := by
  refine ExtTreeMap.getElem?_ofList_of_mem compare_self ?_ h
  rw [List.Nodup, List.pairwise_map] at hnodup
  exact hnodup.imp fun hne heq => hne (LawfulEqOrd.eq_of_compare heq)

/-- A column that the list does not name is not there. -/
theorem Row.getElem?_ofList_of_notMem {columns : List (String × Value)} {column : String}
    (h : column ∉ columns.map (·.1)) : (Row.ofList columns)[column]? = none :=
  ExtTreeMap.getElem?_ofList_of_contains_eq_false (by simpa using h)

/-- Of a list that names every column once, what a column holds is in the list. -/
theorem Row.mem_of_getElem?_ofList {columns : List (String × Value)} {column : String} {v : Value}
    (hnodup : (columns.map (·.1)).Nodup) (h : (Row.ofList columns)[column]? = some v) : (column, v) ∈ columns := by
  by_cases hname : column ∈ columns.map (·.1)
  · obtain ⟨⟨_, w⟩, hmem, rfl⟩ := List.mem_map.mp hname
    rw [Row.getElem?_ofList_of_mem hnodup hmem, Option.some.injEq] at h
    exact h ▸ hmem
  · rw [Row.getElem?_ofList_of_notMem hname] at h
    cases h

/-- What becomes of one column. -/
inductive Change where
  /-- The column holds this value from now on. -/
  | put (value : Value)
  /-- The column is gone from now on, whether it was there or not. -/
  | remove
  deriving DecidableEq, Repr

/-- The value that a change leaves in its column. -/
def Change.value? : Change → Option Value
  | put v => some v
  | remove => none

/-- Makes one change to a column of a row. -/
def Change.applyTo (change : Change) (column : String) (row : Row) : Row :=
  match change with
  | put v => row.insert column v
  | remove => row.erase column

/-- A change decides its own column and leaves the others. -/
theorem Change.getElem?_applyTo (change : Change) (column name : String) (row : Row) :
    (change.applyTo column row)[name]? = if column = name then change.value? else row[name]? := by
  cases change with
  | put v => simp [applyTo, value?, ExtTreeMap.getElem?_insert]
  | remove => simp [applyTo, value?, ExtTreeMap.getElem?_erase]

/-- A set of changes, at most one to a column. Columns without a change are left alone. -/
structure Changes where
  columns : ExtTreeMap String Change := ∅
  deriving DecidableEq

namespace Changes

/-- The set that changes nothing. -/
def empty : Changes := {}

/-- Adds a change to a column, in place of an earlier one to the same column. -/
def insert (changes : Changes) (column : String) (change : Change) : Changes :=
  ⟨changes.columns.insert column change⟩

/-- Adds that a column takes a value. -/
def put (changes : Changes) (column : String) (value : Value) : Changes :=
  changes.insert column (.put value)

/-- Adds that a column is removed. -/
def remove (changes : Changes) (column : String) : Changes :=
  changes.insert column .remove

/-- Leaves a column alone again. -/
def forget (changes : Changes) (column : String) : Changes :=
  ⟨changes.columns.erase column⟩

/-- The change to a column. -/
def get? (changes : Changes) (column : String) : Option Change :=
  changes.columns[column]?

/-- The number of columns changed. -/
def size (changes : Changes) : Nat :=
  changes.columns.size

/-- Whether no column is changed. -/
def isEmpty (changes : Changes) : Bool :=
  changes.columns.isEmpty

/-- The changes in the order of the column names. -/
def toList (changes : Changes) : List (String × Change) :=
  changes.columns.toList

/-- The set of some changes, of which a later one to the same column counts. -/
def ofList (changes : List (String × Change)) : Changes :=
  changes.foldl (fun acc (column, change) => acc.insert column change) empty

/-- The changes that write every column of a row. -/
def ofRow (row : Row) : Changes :=
  ⟨row.map fun _ v => .put v⟩

/-- A row after changes made one after the other. -/
def applyList (changes : List (String × Change)) (row : Row) : Row :=
  changes.foldl (fun row (column, change) => change.applyTo column row) row

/-- The row after the changes, made in the order of the column names. -/
def applyTo (changes : Changes) (row : Row) : Row :=
  applyList changes.toList row

/-- Equal changes to every column make equal sets. -/
@[ext] theorem ext_get? {a b : Changes} (h : ∀ column, a.get? column = b.get? column) : a = b := by
  obtain ⟨a⟩ := a
  obtain ⟨b⟩ := b
  exact congrArg Changes.mk (ExtTreeMap.ext_getElem? h)

@[simp] theorem get?_empty (column : String) : empty.get? column = none := by
  simp [empty, get?]

/-- A change stands for its column, whatever stood there, and the others are as they were. -/
@[simp] theorem get?_insert (changes : Changes) (column name : String) (change : Change) :
    (changes.insert column change).get? name = if column = name then some change else changes.get? name := by
  simp [insert, get?, ExtTreeMap.getElem?_insert]

@[simp] theorem get?_put (changes : Changes) (column name : String) (v : Value) :
    (changes.put column v).get? name = if column = name then some (.put v) else changes.get? name :=
  get?_insert ..

@[simp] theorem get?_remove (changes : Changes) (column name : String) :
    (changes.remove column).get? name = if column = name then some .remove else changes.get? name :=
  get?_insert ..

/-- A change that is forgotten is not there, and the others are as they were. -/
@[simp] theorem get?_forget (changes : Changes) (column name : String) :
    (changes.forget column).get? name = if column = name then none else changes.get? name := by
  simp [forget, get?, ExtTreeMap.getElem?_erase]

@[simp] theorem get?_ofRow (row : Row) (column : String) : (ofRow row).get? column = row[column]?.map .put := by
  simp [ofRow, get?]

/-- The list names a column at most once. -/
theorem nodup_toList (changes : Changes) : (changes.toList.map (·.1)).Nodup := by
  have h : changes.columns.keys.Nodup := ExtTreeMap.nodup_keys
  rwa [← ExtTreeMap.map_fst_toList_eq_keys] at h

/-- The list holds the changes and nothing else. -/
theorem mem_toList_iff {changes : Changes} {column : String} {change : Change} :
    (column, change) ∈ changes.toList ↔ changes.get? column = some change :=
  ExtTreeMap.mem_toList_iff_getElem?_eq_some

/-- Columns that are not changed are as they were. -/
theorem getElem?_applyList_of_notMem {changes : List (String × Change)} {name : String} (row : Row)
    (h : name ∉ changes.map (·.1)) : (applyList changes row)[name]? = row[name]? := by
  induction changes generalizing row with
  | nil => rfl
  | cons head rest ih =>
    obtain ⟨column, change⟩ := head
    simp only [List.map_cons, List.mem_cons, not_or] at h
    have hstep : applyList ((column, change) :: rest) row = applyList rest (change.applyTo column row) := rfl
    rw [hstep, ih _ h.2, Change.getElem?_applyTo, if_neg (Ne.symm h.1)]

/-- Of changes to different columns each decides its column. -/
theorem getElem?_applyList_of_mem {changes : List (String × Change)} {name : String} {change : Change} (row : Row)
    (hnodup : (changes.map (·.1)).Nodup) (h : (name, change) ∈ changes) :
    (applyList changes row)[name]? = change.value? := by
  induction changes generalizing row with
  | nil => exact nomatch h
  | cons head rest ih =>
    obtain ⟨column, first⟩ := head
    have hstep : applyList ((column, first) :: rest) row = applyList rest (first.applyTo column row) := rfl
    rw [List.map_cons, List.nodup_cons] at hnodup
    rw [hstep]
    rcases List.mem_cons.mp h with heq | hmem
    · obtain ⟨rfl, rfl⟩ := Prod.mk.inj heq
      rw [getElem?_applyList_of_notMem _ hnodup.1, Change.getElem?_applyTo, if_pos rfl]
    · exact ih _ hnodup.2 hmem

/-- A column that is changed holds what its change leaves there, and any other what it held. -/
@[simp] theorem getElem?_applyTo (changes : Changes) (row : Row) (name : String) :
    (changes.applyTo row)[name]? = (changes.get? name).elim row[name]? Change.value? := by
  cases h : changes.get? name with
  | none =>
    refine getElem?_applyList_of_notMem row fun hmem => ?_
    obtain ⟨⟨column, change⟩, hin, rfl⟩ := List.mem_map.mp hmem
    rw [mem_toList_iff.mp hin] at h
    exact nomatch h
  | some change => exact getElem?_applyList_of_mem row changes.nodup_toList (mem_toList_iff.mpr h)

end Changes

end SparseRows
