import SparseRows.Action
import SparseRows.Dialect.Properties
import SparseRows.Dialect.Registry

/-!
# Dialects

A dialect gives for each thing that a relational store does the statement that does it. It is found by trying places from
the most to the least specific one; the first that has statements decides.
-/

namespace SparseRows

/-- What a relational store does by a statement. -/
inductive Template where
  | deleteRow
  | selectRow
  | insertColumn
  | updateColumn
  | removeColumn
  /-- Tells whether the schema is there. -/
  | checkSchema
  /-- Tells whether the connection works. -/
  | validate
  deriving DecidableEq, Repr

/-- The property that holds a statement. -/
def Template.name : Template → String
  | deleteRow => "delete-string-row"
  | selectRow => "select-string-row"
  | insertColumn => "insert-string-column"
  | updateColumn => "update-string-column"
  | removeColumn => "remove-string-column"
  | checkSchema => "check-schema"
  | validate => "validate"

/-- The statements for one kind of database. -/
structure Dialect where
  /-- The place where they were found. -/
  location : String
  properties : Dialect.Properties

namespace Dialect

/-- The property that names the algorithm of row hashes. -/
def hashProperty : String := "rowid-hash"

/-- A property. -/
def property? (dialect : Dialect) (name : String) : Option String :=
  dialect.properties[name]?

/-- The statement of this name. -/
def statement (dialect : Dialect) (name : String) : Except StorageError String :=
  match dialect.property? name with
  | some sql => .ok sql
  | none => .error (.of (.noStatement dialect.location name))

/-- The statement of a template. -/
def sql (dialect : Dialect) (template : Template) : Except StorageError String :=
  dialect.statement template.name

variable {σ : Type}

/-- The dialect at the first of some places that has one, if any has. -/
def find (registry : Registry) (logger : Logger) : List String → Step σ (Option Dialect)
  | [] => return none
  | location :: rest => do
    let name := Registry.statementsName location
    match registry.resource? name with
    | some text =>
      log logger .info .dialectResolved [("resource", name)]
      return some ⟨location, Properties.parse text⟩
    | none =>
      log logger .trace .dialectMissing [("resource", name)]
      find registry logger rest

/-- The dialect at the first of some places that has one. -/
def resolve (registry : Registry) (candidates : List String) (logger : Logger) : Action σ StorageError Dialect := do
  match ← (find registry logger candidates).toAction with
  | some dialect => return dialect
  | none =>
    log logger .fatal .dialectUnavailable [("tried", ", ".intercalate candidates)]
    throw (.of (.noDialect candidates))

end Dialect

end SparseRows
