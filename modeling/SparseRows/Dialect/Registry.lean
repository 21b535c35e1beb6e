import Std.Data.ExtTreeMap

/-!
# Dialect resources

Named texts, of which two kinds belong to each place: the properties with the statements of a dialect, and the script that
sets up a schema. `shipped` holds the resources for any product and those for SQLite.
-/

namespace SparseRows.Dialect

open Std

/-- Resources by name. -/
structure Registry where
  resources : ExtTreeMap String String := ∅

namespace Registry

/-- The name of the statements at a place. -/
def statementsName (location : String) : String :=
  location ++ ".sql"

/-- The name of the schema script at a place. -/
def scriptName (location : String) : String :=
  location ++ ".ddl"

/-- No resources. -/
def empty : Registry := {}

/-- Adds a resource in place of an earlier one of that name. -/
def add (registry : Registry) (name text : String) : Registry :=
  ⟨registry.resources.insert name text⟩

/-- The text of a resource. -/
def resource? (registry : Registry) (name : String) : Option String :=
  registry.resources[name]?

/-- The first schema script at some places, with its name. -/
def script? (registry : Registry) (candidates : List String) : Option (String × String) :=
  candidates.findSome? fun location => (registry.resource? (scriptName location)).map (scriptName location, ·)

/-- The text of some lines. -/
def ofLines (lines : List String) : String :=
  String.join (lines.map (· ++ "\n"))

/-- The statements for any product. -/
def anyStatements : String :=
  ofLines
    ["# Generic dialect. Used when no product specific resource resolves.",
     "# Rows live in one table of (rid, cid, v) triples where rid is the row hash.",
     "delete-string-row = delete from css where rid = ?",
     "select-string-row = select cid, v from css where rid = ?",
     "insert-string-column = insert into css ( v, rid, cid) values ( ?, ?, ? )",
     "update-string-column = update css set v = ? where rid = ? and cid = ?",
     "remove-string-column = delete from css where rid = ? and cid = ?",
     "check-schema = select count(*) from css",
     "validate = select 1",
     "rowid-hash = SHA-256"]

/-- The schema for any product. -/
def anyScript : String :=
  ofLines
    ["# Generic schema bootstrap.",
     "# One statement per terminating ';'. Failures are logged and skipped.",
     "CREATE TABLE css (",
     "  id INTEGER PRIMARY KEY,",
     "  rid VARCHAR(64) NOT NULL,",
     "  cid VARCHAR(64) NOT NULL,",
     "  v VARCHAR(780) NOT NULL",
     ");",
     "CREATE UNIQUE INDEX css_rowkey ON css (rid, cid);",
     "CREATE INDEX css_cid ON css (cid);"]

/-- The statements for SQLite. -/
def sqliteStatements : String :=
  ofLines
    ["# SQLite dialect",
     "delete-string-row = delete from css where rid = ?1",
     "select-string-row = select cid, v from css where rid = ?1",
     "insert-string-column = insert into css ( v, rid, cid) values ( ?1, ?2, ?3 )",
     "update-string-column = update css set v = ?1 where rid = ?2 and cid = ?3",
     "remove-string-column = delete from css where rid = ?1 and cid = ?2",
     "check-schema = select count(*) from css",
     "validate = select 1",
     "rowid-hash = SHA-256"]

/-- The schema for SQLite. -/
def sqliteScript : String :=
  ofLines
    ["# SQLite schema bootstrap.",
     "# Safe to re-run against a partially created schema.",
     "CREATE TABLE IF NOT EXISTS css (",
     "  id INTEGER PRIMARY KEY AUTOINCREMENT,",
     "  rid TEXT NOT NULL,",
     "  cid TEXT NOT NULL,",
     "  v TEXT NOT NULL",
     ");",
     "CREATE UNIQUE INDEX IF NOT EXISTS css_rowkey ON css (rid, cid);",
     "CREATE INDEX IF NOT EXISTS css_cid ON css (cid);"]

/-- The resources that come with the library. -/
def shipped : Registry :=
  empty
    |>.add (statementsName "client") anyStatements
    |>.add (scriptName "client") anyScript
    |>.add (statementsName "client.SQLite") sqliteStatements
    |>.add (scriptName "client.SQLite") sqliteScript

end Registry

end SparseRows.Dialect
