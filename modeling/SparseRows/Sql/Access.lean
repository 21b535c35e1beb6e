import SparseRows.Sql.Journal
import SparseRows.Sql.Log

/-!
# Access to a database file

Before anything is read, what lies beside the file is settled, and it is found out whether the pages at hand still hold.
Then the head of the file is checked. An empty file is a database without tables, and gets its head when it is first
written.
-/

namespace SparseRows.Sql.Pager

/-- The size of pages that the head of a file tells. -/
def toldPageSize (first : Page) : Nat :=
  256 * first.get1 Header.pageSize + 65536 * first.get1 (Header.pageSize + 1)

/-- Whether a number can be the size of pages. -/
def isPageSize (size : Nat) : Bool :=
  512 ≤ size && size ≤ 65536 && size &&& (size - 1) == 0

/-- The pager for a file that is opened. -/
def opened (medium : Medium) : Pager :=
  let first : Page := ⟨medium.file⟩
  let size := toldPageSize first
  if isPageSize size then { medium, pageSize := size, reserved := first.get1 Header.reserved } else { medium }

/-- Settles what the journal is about. One beside an empty database is a remnant, and one that starts with a zero is void.
Any other is played back and removed, which cannot be done while others use a log. -/
def settleJournal : StorageM Unit := do
  let pager ← get
  let isEmpty := pager.medium.pageCount pager.pageSize = 0
  match pager.medium.journal with
  | .bytes journal =>
    if 0 < journal.size then
      if isEmpty then set { pager with medium := { pager.medium with journal := .absent } }
      else if (Page.mk journal).get1 0 ≠ 0 then
        if pager.isLockedOut then throw .locked
        set (pager.playedBack journal)
  | .directory => if !isEmpty then throw .ioFailed
  | _ => return ()

/-- The bytes of the file in which a change shows, zeros if the file is too short to have all of them. -/
def storedVersion (medium : Medium) : ByteArray :=
  let first : Page := ⟨medium.file⟩
  if first.size < Header.counter + Header.versionLength then (Page.blank Header.versionLength).bytes
  else first.slice Header.counter Header.versionLength

/-- Lets go of the pages at hand if the file has changed. -/
def refresh : StorageM Unit :=
  modify fun pager =>
    if pager.isVisited ∧ pager.version ≠ storedVersion pager.medium then pager.emptied else pager

/-- Settles what the log is about. One beside an empty database is a remnant, and any other is used from then on. -/
def settleLog : StorageM Unit := do
  let pager ← get
  if pager.medium.log.isThere then
    if pager.medium.pageCount pager.pageSize = 0 then
      if pager.medium.log = .directory then throw .ioFailed
      set { pager with medium := { pager.medium with log := .absent } }
    else joinLog

/-- Lets go of the pages at hand if others have written to the log. -/
def refreshFromLog : StorageM Unit :=
  modify fun pager =>
    match pager.medium.log with
    | .log log =>
      if pager.seenCommits = some log.commits then pager else { pager.emptied with seenCommits := some log.commits }
    | _ => pager

/-- Makes sure of the pages at hand. -/
def share : StorageM Unit := do
  if (← get).seenCommits.isNone then
    settleJournal
    refresh
    settleLog
  if (← get).seenCommits.isSome then refreshFromLog
  modify fun pager =>
    let logged := match pager.seenCommits, pager.medium.log with
      | some _, .log log => log.pageCount
      | _, _ => 0
    { pager with
      isVisited := true
      fileCount := if logged = 0 then pager.medium.pageCount pager.pageSize else logged }

/-- Checks the head of the file. If it tells that pages have another size, or that there is a log, this has to be done once
more; so often at most. -/
def enter : (most : Nat) → StorageM Unit
  | 0 => throw .notDatabase
  | most + 1 => do
    share
    let first ← page 1
    let pager ← get
    let told := first.get4 Header.pageCount
    let count :=
      if told = 0 ∨ first.get4 Header.counter ≠ first.get4 Header.countedAt then pager.fileCount else told
    if 0 < count then
      if first.slice 0 16 ≠ Header.magic then throw .notDatabase
      if 2 < first.get1 Header.writeVersion then set { pager with isReadOnly := true }
      if 2 < first.get1 Header.readVersion then throw .notDatabase
      if first.get1 Header.readVersion = 2 ∧ pager.seenCommits.isNone then
        joinLog
        return ← enter most
      if first.slice Header.fractions 3 ≠ ⟨#[64, 32, 32]⟩ then throw .notDatabase
      let size := toldPageSize first
      if !isPageSize size then throw .notDatabase
      let reserved := first.get1 Header.reserved
      if size ≠ pager.pageSize then
        modify fun pager => { pager.emptied with pageSize := size, reserved }
        return ← enter most
      if pager.fileCount < count then throw .malformed
      if size < 480 + reserved then throw .notDatabase
      modify fun pager => { pager with reserved }
    modify fun pager => { pager with pageCount := count }

/-- Looks at the file, and gives the edition of its tables. -/
def look : StorageM Nat := do
  enter 4
  return (← page 1).get4 Header.edition

/-- The first page of a database without tables. -/
def newFirst (pager : Pager) : Page :=
  let page := (Page.blank pager.pageSize).paste 0 Header.magic
  let page := (page.put1 Header.pageSize (pager.pageSize >>> 8)).put1 (Header.pageSize + 1) (pager.pageSize >>> 16)
  let page := ((page.put1 Header.writeVersion 1).put1 Header.readVersion 1).put1 Header.reserved pager.reserved
  let page := ((page.put1 Header.fractions 64).put1 (Header.fractions + 1) 32).put1 (Header.fractions + 2) 32
  let node : Node := { number := 1, page := page.put4 Header.pageCount 1, usable := pager.usable }
  (node.cleared Node.tableLeaf).page

/-- Looks at the file, begins to change it, and gives the edition of its tables. An empty file gets its head, and a wrong
number of pages is corrected. -/
def lookToWrite : StorageM Nat := do
  if (← get).isReadOnly then throw .readOnly
  let edition ← look
  if (← get).isReadOnly then throw .readOnly
  modify begun
  let pager ← get
  if pager.pageCount = 0 then
    put 1 pager.newFirst
    modify fun pager => { pager with pageCount := 1 }
    return 0
  else
    if pager.pageCount ≠ (← page 1).get4 Header.pageCount then put4 1 Header.pageCount pager.pageCount
    return edition

end SparseRows.Sql.Pager
