import SparseRows.Action
import SparseRows.Files.Tree
import SparseRows.Sql.Engine

/-!
# Database files

An embedded database is kept in a file. Opening it makes the file, but not the directory that it is in. The path of a
database is made plain first, name by name: two dots take the last name off, be there a directory of that name or not, and
slashes at the end mean nothing. So a database has one place, however its path is spelled. While a database is being
changed, a journal lies beside it.
-/

namespace SparseRows

namespace Sql

/-- The longest path of a database, in bytes. -/
def pathLimit : Nat := 512

/-- What the name of a journal has behind the name of its database. -/
def journalMark : String := "-journal"

/-- What the name of a log has behind the name of its database. -/
def logMark : String := "-wal"

/-- What the name of the index of a log has behind the name of its database. -/
def logIndexMark : String := "-shm"

/-- The length of the path of a place, in bytes. -/
def pathLength (place : List String) : Nat :=
  place.foldl (fun length name => length + 1 + name.utf8ByteSize) 0

end Sql

namespace FileTree

/-- The plain place one segment further. What is there is looked at; that there is nothing does not matter. -/
def plainStep (tree : FileTree) (place : List String) (segment : String) : Except IoError (List String) :=
  if segment = "" ∨ segment = "." then .ok place
  else if segment = ".." then .ok place.dropLast
  else
    let next := place ++ [segment]
    if Sql.pathLimit ≤ Sql.pathLength next then .error .nameTooLong
    else
      match next.foldlM tree.step [] with
      | .ok _ | .error .notFound => .ok next
      | .error e => .error e

/-- The place that the path of a database means, if a file can be there. -/
def databasePlace (tree : FileTree) (path : String) : Except IoError (List String) := do
  let place ← ((Files.segments path.toList).map String.ofList).foldlM tree.plainStep []
  if Sql.pathLimit < Sql.pathLength place + Sql.journalMark.utf8ByteSize then throw .nameTooLong
  let place ← place.foldlM tree.step []
  if tree.node? place = some .directory then throw .isDirectory
  return place

/-- The tree with a file at a place, which is without bytes if there was none. -/
def withFile (tree : FileTree) (place : List String) : FileTree :=
  if (tree.node? place).isSome then tree else tree.put place (.file .empty)

/-- The place of a file beside another one, whose name is the longer one of the two. -/
def beside (place : List String) (mark : String) : List String :=
  place.dropLast ++ [(place.getLast?.getD "") ++ mark]

/-- What an engine finds beside the file at a place. -/
def companion (tree : FileTree) (place : List String) (mark : String) : Sql.Companion :=
  match tree.node? (beside place mark) with
  | none => .absent
  | some .directory => .directory
  | some (.file content) => .bytes content
  | some (.log log) => .log log

/-- What an engine finds at a place. -/
def medium (tree : FileTree) (place : List String) : Sql.Medium where
  file := ((tree.node? place).bind FileNode.content?).getD .empty
  journal := tree.companion place Sql.journalMark
  log := tree.companion place Sql.logMark
  hasRoom := ((place.getLast?.getD "") ++ Sql.journalMark).utf8ByteSize ≤ nameLimit

/-- The tree with what an engine leaves of the journal, which it removes or lets be. -/
def keepJournal (tree : FileTree) (place : List String) : Sql.Companion → FileTree
  | .absent => tree.erase (beside place Sql.journalMark)
  | _ => tree

/-- The tree with what an engine leaves of the log, beside which lies the index as long as the log is in use. -/
def keepLog (tree : FileTree) (place : List String) (after : Sql.Companion) : FileTree :=
  let log := beside place Sql.logMark
  let index := beside place Sql.logIndexMark
  match after, tree.node? log with
  | .log after, _ => (tree.put log (.log after)).put index (.file Sql.Log.index)
  | .absent, some (.log _) => (tree.erase log).erase index
  | .absent, _ => tree.erase log
  | _, _ => tree

/-- The tree with what an engine leaves at a place. -/
def keepMedium (tree : FileTree) (place : List String) (medium : Sql.Medium) : FileTree :=
  ((tree.keepJournal place medium.journal).keepLog place medium.log).put place (.file medium.file)

end FileTree

namespace Sql

/-- Opens the file of a database, which is made if there is none, and gives its place. -/
def openFile (path : String) : Action FileTree StorageError (List String) := do
  let refuse (e : EngineError) : Action FileTree StorageError (List String) :=
    throw (.ofDriver (.databaseNotOpened path) (.engine e))
  if path.toList.contains '\x00' then
    refuse (.nulInPath (String.ofList (path.toList.takeWhile (· ≠ '\x00'))).utf8ByteSize)
  else
    let tree ← currentState
    match tree.databasePlace path with
    | .error _ => refuse (.cannotOpen path)
    | .ok place =>
      setState (tree.withFile place)
      return place

end Sql

end SparseRows
