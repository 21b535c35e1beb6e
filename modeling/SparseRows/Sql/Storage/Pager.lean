import Std.Data.TreeMap
import Std.Data.TreeSet
import SparseRows.Sql.Medium
import SparseRows.Sql.Storage.Node

/-!
# Pages at hand

A connection reads pages when it needs them and keeps them until the bytes by which a change of the file shows are not those
that it has seen. A change is made to the pages at hand, and the file gets those that were changed when the change is
complete. Pages that are not in use any more are listed: the first page leads to a list of pages, each of which lists pages
in turn.
-/

namespace SparseRows.Sql

open Std

namespace Header

/-! ## The places of what the first page says of the file -/

/-- The number of bytes in a page. -/
def pageSize : Nat := 16

/-- The version that writers have to know. -/
def writeVersion : Nat := 18

/-- The version that readers have to know. -/
def readVersion : Nat := 19

/-- The number of bytes at the end of each page that nothing is to be put in. -/
def reserved : Nat := 20

/-- The fractions of a page that a row may fill, which are fixed. -/
def fractions : Nat := 21

/-- How often the file has been changed. A change shows in the bytes from here on. -/
def counter : Nat := 24

/-- The number of bytes in which a change shows. -/
def versionLength : Nat := 16

/-- The number of pages. -/
def pageCount : Nat := 28

/-- The first page of the list of pages that are not in use. -/
def firstTrunk : Nat := 32

/-- The number of pages that are not in use. -/
def freeCount : Nat := 36

/-- How often tables and indexes have been made. -/
def edition : Nat := 40

/-- The version of the format of rows. -/
def format : Nat := 44

/-- The encoding of texts. -/
def encoding : Nat := 56

/-- The counter for which the number of pages was written. -/
def countedAt : Nat := 92

/-- The version of the engine that wrote the file last. -/
def engineVersion : Nat := 96

/-- The bytes that a database file starts with. -/
def magic : ByteArray :=
  "SQLite format 3".toUTF8.push 0

end Header

/-- The pages that a connection has at hand, and the file that they are of. -/
structure Pager where
  medium : Medium := {}
  pageSize : Nat := 4096
  /-- The number of bytes at the end of each page that nodes do not use. -/
  reserved : Nat := 0
  /-- Whether the file has been looked at. -/
  isVisited : Bool := false
  /-- Whether the file has been found to be one that may not be written. -/
  isReadOnly : Bool := false
  /-- Whether changes are read from and written to the log; if so, how often something had been committed when it was last
  seen. -/
  seenCommits : Option Nat := none
  /-- The bytes by which a change of the file would show. -/
  version : ByteArray := (Page.blank Header.versionLength).bytes
  /-- The number of pages that the file has, as it was last seen or with those added since. -/
  fileCount : Nat := 0
  /-- The number of pages of the database. -/
  pageCount : Nat := 0
  pages : TreeMap Nat Page := ∅
  /-- The cells of nodes that have found no room on their pages. -/
  pending : TreeMap Nat (List (Nat × ByteArray)) := ∅
  /-- The pages that have been changed. -/
  changed : TreeSet Nat := ∅
  /-- Changed pages that nothing is to be read from, so that they need not be written. -/
  spared : TreeSet Nat := ∅
  /-- Pages that were in use when the change began and are not any more. -/
  dismissed : TreeSet Nat := ∅
  /-- The pages at hand when the change began. -/
  basePages : TreeMap Nat Page := ∅
  /-- The number of pages of the file when the change began. -/
  baseFileCount : Nat := 0

/-- Work with pages that may fail. -/
abbrev StorageM := ExceptT EngineError (StateM Pager)

namespace Pager

/-- The number of bytes of a page that nodes use. -/
def usable (pager : Pager) : Nat :=
  pager.pageSize - pager.reserved

/-- The page as it is in the log, or in the file if it is not in the log. -/
def stored (pager : Pager) (number : Nat) : Page :=
  let logged := match pager.seenCommits, pager.medium.log with
    | some _, .log log => log.pages.lookup number
    | _, _ => none
  logged.getD ((Page.mk pager.medium.file).padded ((number - 1) * pager.pageSize) pager.pageSize)

/-- Whether others use a log and this connection does not. -/
def isLockedOut (pager : Pager) : Bool :=
  match pager.seenCommits, pager.medium.log with
  | none, .log _ => true
  | _, _ => false

/-- The pager without pages at hand. -/
def emptied (pager : Pager) : Pager :=
  { pager with pages := ∅ }

/-! ## Pages -/

/-- A page. The first page brings the bytes along by which a change shows. -/
def page (number : Nat) : StorageM Page := do
  if number = 0 then throw .malformed
  let pager ← get
  if let some page := pager.pages[number]? then return page
  let isNew := pager.fileCount < number
  let page := if isNew then Page.blank pager.pageSize else pager.stored number
  set
    { pager with
      pages := pager.pages.insert number page
      version := if number = 1 ∧ !isNew then page.slice Header.counter Header.versionLength else pager.version }
  return page

/-- Changes a page. The first change needs a place for a journal, unless there is a log. -/
def put (number : Nat) (page : Page) : StorageM Unit := do
  let pager ← get
  if pager.changed.isEmpty ∧ pager.seenCommits.isNone ∧ !pager.medium.isWritable then throw .cannotOpenBeside
  set
    { pager with
      pages := pager.pages.insert number page
      fileCount := max pager.fileCount number
      changed := pager.changed.insert number
      spared := pager.spared.erase number }

/-- Changes a page at a place. -/
def put4 (number place n : Nat) : StorageM Unit := do
  put number ((← page number).put4 place n)

/-- A result as work. -/
def lift {α : Type} (result : Except EngineError α) : StorageM α :=
  ExceptT.mk (pure result)

/-- The node on a page. -/
def node (number : Nat) : StorageM Node := do
  let pager ← get
  if pager.pageCount < number then throw .malformed
  let node ← lift (Node.ofPage number pager.usable (← page number))
  return { node with pending := (pager.pending[number]?).getD [] }

/-- The node on a page, with its free bytes counted. -/
def measured (number : Nat) : StorageM Node := do
  lift (← node number).measure

/-- Changes the page of a node. -/
def keep (node : Node) : StorageM Unit := do
  put node.number node.page
  modify fun pager =>
    { pager with
      pending := if node.pending.isEmpty then pager.pending.erase node.number else pager.pending.insert node.number node.pending }

/-! ## Pages that are not in use -/

/-- The distance between two numbers. -/
def distance (a b : Nat) : Nat :=
  max a b - min a b

/-- The place in a list of the number nearest to another one, the first of these if there are several. -/
def nearest (numbers : List Nat) (near : Nat) : Nat :=
  (numbers.zipIdx.foldl
    (fun (best : Option (Nat × Nat)) (number, place) =>
      match best with
      | some (least, _) => if distance number near < least then some (distance number near, place) else best
      | none => some (distance number near, place))
    none).elim 0 (·.2)

/-- Takes a page that is not in use, or a new one behind the last. One near a number is preferred, unless that is zero. -/
def allocate (near : Nat) : StorageM Nat := do
  let first ← page 1
  let pager ← get
  let free := first.get4 Header.freeCount
  if pager.pageCount ≤ free then throw .malformed
  if free = 0 then
    let number := pager.pageCount + 1
    put4 1 Header.pageCount number
    modify fun pager => { pager with pageCount := number }
    put number (Page.blank pager.pageSize)
    return number
  put4 1 Header.freeCount (free - 1)
  let trunkNumber := first.get4 Header.firstTrunk
  if pager.pageCount < trunkNumber then throw .malformed
  let trunk ← page trunkNumber
  let count := trunk.get4 4
  if count = 0 then
    put trunkNumber trunk
    put4 1 Header.firstTrunk (trunk.get4 0)
    return trunkNumber
  if pager.usable / 4 - 2 < count then throw .malformed
  let numbers := (List.range count).map fun place => trunk.get4 (8 + 4 * place)
  let chosen := if near = 0 then 0 else nearest numbers near
  let number := trunk.get4 (8 + 4 * chosen)
  if pager.pageCount < number ∨ number < 2 then throw .malformed
  let trunk := if chosen + 1 < count then trunk.put4 (8 + 4 * chosen) (trunk.get4 (4 + 4 * count)) else trunk
  put trunkNumber (trunk.put4 4 (count - 1))
  put number (← if pager.dismissed.contains number then page number else pure (Page.blank pager.pageSize))
  return number

/-- Puts a page on a list that is there already, if it has room. -/
def listAt (trunkNumber number : Nat) : StorageM Bool := do
  let pager ← get
  if pager.pageCount < trunkNumber then throw .malformed
  let trunk ← page trunkNumber
  let listed := trunk.get4 4
  if pager.usable / 4 - 2 < listed then throw .malformed
  if pager.usable / 4 - 8 ≤ listed then return false
  put trunkNumber ((trunk.put4 4 (listed + 1)).put4 (8 + 4 * listed) number)
  modify fun pager =>
    { pager with
      spared := if pager.changed.contains number then pager.spared.insert number else pager.spared
      dismissed := pager.dismissed.insert number }
  return true

/-- Puts a page on the list of those that are not in use. If the first list has no room, the page starts another one. -/
def free (number : Nat) : StorageM Unit := do
  if number < 2 ∨ (← get).pageCount < number then throw .malformed
  let first ← page 1
  let count := first.get4 Header.freeCount
  put4 1 Header.freeCount (count + 1)
  let trunkNumber := if count = 0 then 0 else first.get4 Header.firstTrunk
  let isListed ← if count = 0 then pure false else listAt trunkNumber number
  if !isListed then
    put number (((← page number).put4 0 trunkNumber).put4 4 0)
    put4 1 Header.firstTrunk number

/-! ## Changes -/

/-- Begins a change. -/
def begun (pager : Pager) : Pager :=
  { pager with
    basePages := pager.pages, baseFileCount := pager.fileCount
    changed := ∅, spared := ∅, dismissed := ∅, pending := ∅ }

/-- The pager with no change under way. -/
def settled (pager : Pager) : Pager :=
  { pager with basePages := ∅, changed := ∅, spared := ∅, dismissed := ∅, pending := ∅ }

/-- The version of the engine, as a number. -/
def engineVersion : Nat := 3045000

/-- The first page as it is written at the end of a change. -/
def stamped (pager : Pager) (first : Page) : Page :=
  let counter := (Page.mk pager.version).get4 0 + 1
  ((first.put4 Header.counter counter).put4 Header.countedAt counter).put4 Header.engineVersion engineVersion

/-- The numbers of the pages that are to be written. -/
def toWrite (pager : Pager) : List Nat :=
  pager.changed.toList.filter (!pager.spared.contains ·)

/-- Writes the changed pages to the file. -/
def writeFile (pager : Pager) : Pager :=
  let file := pager.toWrite.foldl
    (fun file number =>
      match pager.pages[number]? with
      | some page => Medium.overwritten file ((number - 1) * pager.pageSize) page.bytes
      | none => file)
    pager.medium.file
  let file := Medium.resized file pager.pageSize pager.fileCount
  { pager with medium := { pager.medium with file, journal := pager.medium.journal.removed } }

/-- Writes the changed pages to the log. -/
def writeLog (pager : Pager) (log : Log) : Pager :=
  let pages := pager.toWrite.filterMap fun number => (pager.pages[number]?).map (number, ·)
  let log := { log with pages := pages ++ log.pages, pageCount := pager.pageCount, commits := log.commits + 1 }
  { pager with seenCommits := some log.commits, medium := { pager.medium with log := .log log } }

/-- Completes a change. With a log the first page is written only if it has been changed. Without one it cannot be done
while others use a log. -/
def commit : StorageM Unit := do
  let pager ← get
  if !pager.changed.isEmpty then
    if pager.isLockedOut then throw .locked
    match pager.seenCommits, pager.medium.log with
    | some _, .log _ => if pager.changed.contains 1 then put 1 (pager.stamped (← page 1))
    | _, _ => put 1 (pager.stamped (← page 1))
    modify fun pager =>
      let written := match pager.seenCommits, pager.medium.log with
        | some _, .log log => pager.writeLog log
        | _, _ => pager.writeFile
      match pager.changed.contains 1, pager.pages[1]? with
      | true, some first => { written with version := first.slice Header.counter Header.versionLength }
      | _, _ => written
  modify settled

/-- Gives a change up. With a log the pages that were changed are read again when they are needed. -/
def rolledBack (pager : Pager) : Pager :=
  if pager.changed.isEmpty then pager.settled
  else
    let isLogged := pager.seenCommits.isSome
    settled
      { pager with
        pages := if isLogged then pager.changed.foldl (·.erase ·) pager.basePages else pager.basePages
        fileCount := pager.baseFileCount
        medium := if isLogged then pager.medium else { pager.medium with journal := pager.medium.journal.removed } }

end Pager

end SparseRows.Sql
