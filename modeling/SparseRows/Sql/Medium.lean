import SparseRows.Error
import SparseRows.Sql.Storage.Page

/-!
# What an engine works on

A database file and the files that may lie beside it: the journal, which holds what a broken-off change has overwritten, and
the log of changes that are still to be made to the file. A log that is in use is shared by its users: what one of them
commits the others find there.
-/

namespace SparseRows.Sql

/-- A log in use. -/
structure Log where
  /-- The bytes of the file. -/
  content : ByteArray
  /-- Committed pages, the latest first. -/
  pages : List (Nat × Page) := []
  /-- The number of pages of the database, if the log has any. -/
  pageCount : Nat := 0
  /-- How often something has been committed. -/
  commits : Nat := 0
  /-- The number of connections that use the log. -/
  users : Nat := 0
  deriving DecidableEq

/-- What lies beside a database under a name that belongs to it. -/
inductive Companion where
  | absent
  | bytes (bytes : ByteArray)
  | directory
  /-- A log that connections use. -/
  | log (log : Log)
  deriving DecidableEq

namespace Companion

/-- What remains after an attempt to remove it. -/
def removed : Companion → Companion
  | directory => directory
  | _ => absent

/-- Whether there is something. A file without bytes counts as nothing. -/
def isThere : Companion → Bool
  | absent => false
  | bytes b => b.size ≠ 0
  | directory | log _ => true

end Companion

/-- A database file and what lies beside it. -/
structure Medium where
  file : ByteArray := .empty
  journal : Companion := .absent
  log : Companion := .absent
  /-- Whether the name of the journal is one that a file can have. -/
  hasRoom : Bool := true
  deriving DecidableEq

namespace Medium

/-- The number of pages of a size in the file. A file of one byte counts as empty. -/
def pageCount (medium : Medium) (pageSize : Nat) : Nat :=
  if medium.file.size ≤ 1 then 0 else (medium.file.size + pageSize - 1) / pageSize

/-- Whether a journal can be written. -/
def isWritable (medium : Medium) : Bool :=
  medium.hasRoom && medium.journal ≠ .directory

/-- The file with other bytes from a place on, behind zeros if the place is behind the end. -/
def overwritten (file : ByteArray) (place : Nat) (bytes : ByteArray) : ByteArray :=
  let file := if file.size < place then file ++ (Page.blank (place - file.size)).bytes else file
  bytes.copySlice 0 file place bytes.size

/-- The file made shorter, or made longer by zeros if it lacks a page or more. -/
def resized (file : ByteArray) (pageSize count : Nat) : ByteArray :=
  if count * pageSize ≤ file.size then file.extract 0 (count * pageSize)
  else if file.size + pageSize ≤ count * pageSize then file ++ (Page.blank (count * pageSize - file.size)).bytes
  else file

end Medium

end SparseRows.Sql
