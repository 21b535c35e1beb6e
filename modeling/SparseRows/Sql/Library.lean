import SparseRows.Error

/-!
# Libraries for embedded databases

What a library that runs a database in the same program does with one that it has opened. A database is a value of the
library's own, and the files that it is kept in are apart from it, since others may change them at any time. What the
library does when is its own affair: each piece of its work may fail, and may change the database and the files in either
case.
-/

namespace SparseRows.Sql

/-- Work on an open database and on the files that it is kept in. -/
abbrev LibraryM (ω δ : Type) := ExceptT EngineError (StateM (ω × δ))

/-- The rows that a query gives, in order, and the failure behind them, if it is one that ends them. -/
structure Rows (ρ : Type) where
  given : List ρ
  failure : Option EngineError := none

namespace Rows

variable {ρ α : Type}

/-- What is made of the rows, one after the other, up to the first failure. -/
def mapM (rows : Rows ρ) (read : ρ → Except EngineError α) : Except EngineError (List α) := do
  let results ← rows.given.mapM read
  match rows.failure with
  | some e => throw e
  | none => return results

end Rows

/-- A library for databases of a type, which are kept in files of a type. -/
class Library (ω δ : Type) where
  /-- The statements that it has read. -/
  Compiled : Type
  /-- The rows that queries give. -/
  Row : Type
  /-- The number of its version, which has three places for the minor version and three for the patch. -/
  version : Int32
  /-- Reads a statement. -/
  compile (sql : String) : LibraryM ω δ Compiled
  /-- Reads a statement unless it is at hand, and keeps it at hand. -/
  compileKept (sql : String) : LibraryM ω δ Compiled
  /-- The number of columns of the rows that a statement gives, none if it does not give rows. -/
  columnCount (statement : Compiled) : Nat
  /-- Runs a statement without parameters up to its first row, if it gives one. -/
  first? (statement : Compiled) : LibraryM ω δ (Option Row)
  /-- Runs a statement with parameters for its rows. -/
  query (statement : Compiled) (params : List String) : LibraryM ω δ (Rows Row)
  /-- Runs a statement with parameters for what it changes, and gives the number of rows that were changed. -/
  change (statement : Compiled) (params : List String) : LibraryM ω δ Nat
  /-- The text in a column of a row, if there is something. -/
  text? (row : Row) (index : Nat) : Except EngineError (Option String)
  /-- The text in a column of a row, where nothing is not enough. -/
  text (row : Row) (index : Nat) : Except EngineError String
  /-- Keeps no statement at hand any more. -/
  forget : StateM (ω × δ) Unit
  /-- Ends the use of a database. -/
  close : LibraryM ω δ Unit

end SparseRows.Sql
