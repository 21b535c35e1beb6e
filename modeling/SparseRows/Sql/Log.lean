import SparseRows.Sql.Storage.Pager

/-!
# Logs

A log beside a database holds changed pages, the latest last, that are still to be written to the file. Whoever opens it
reads the pages up to the last one that ends a change; a page that does not add up ends the log. Beside the log lies an
index, which tells its users how far it goes. When the last of them leaves, the pages are written to the file, and the log
and its index are removed.
-/

namespace SparseRows.Sql

namespace Log

/-- The number in four bytes, the least significant one first if so said. -/
def word (page : Page) (isLittle : Bool) (place : Nat) : Nat :=
  if isLittle then page.get1 place + 256 * (page.get1 (place + 1) + 256 * (page.get1 (place + 2) + 256 * page.get1 (place + 3)))
  else page.get4 place

/-- Goes on with two sums over pairs of numbers, so many pairs from a place on. -/
def sums (page : Page) (isLittle : Bool) : (pairs place : Nat) → Nat × Nat → Nat × Nat
  | 0, _, sums => sums
  | left + 1, place, (a, b) =>
    let a := (a + word page isLittle place + b) % UInt32.size
    let b := (b + word page isLittle (place + 4) + a) % UInt32.size
    sums page isLittle left (place + 8) (a, b)

/-- A log while it is read. -/
structure Reading where
  /-- The pages up to the last change that is complete, the latest first. -/
  pages : List (Nat × Page) := []
  /-- The pages after that. -/
  unfinished : List (Nat × Page) := []
  pageCount : Nat := 0
  /-- The sums at the end of the last complete change. -/
  sums : Nat × Nat := (0, 0)

/-- Reads pages of a size from a place on, as long as they add up; so many may follow. -/
def readPages (page : Page) (isLittle : Bool) (size : Nat) : (most place : Nat) → Nat × Nat → Reading → Reading
  | 0, _, _, reading => reading
  | most + 1, place, current, reading =>
    if page.size < place + 24 + size then reading
    else
      let number := page.get4 place
      let next := sums page isLittle (size / 8) (place + 24) (sums page isLittle 1 place current)
      let told := (page.get4 (place + 16), page.get4 (place + 20))
      if page.slice (place + 8) 8 ≠ page.slice 16 8 ∨ number = 0 ∨ next ≠ told then reading
      else
        let pages := (number, (⟨page.slice (place + 24) size⟩ : Page)) :: reading.unfinished
        let count := page.get4 (place + 4)
        let reading : Reading :=
          if count = 0 then { reading with unfinished := pages }
          else { pages := pages ++ reading.pages, unfinished := [], pageCount := count, sums := next }
        readPages page isLittle size most (place + 24 + size) next reading

/-- The version of the format of logs. -/
def version : Nat := 3007000

/-- The log in a file, for its first user. -/
def ofContent (content : ByteArray) : Except EngineError Log :=
  let page : Page := ⟨content⟩
  let size := page.get4 8
  let isLog := 32 < content.size && page.get4 0 / 2 == 0x377f0682 / 2 && 512 ≤ size && size ≤ 65536 && size &&& (size - 1) == 0
  let isLittle := page.get1 3 % 2 = 0
  let start := sums page isLittle 3 0 (0, 0)
  if !isLog ∨ start ≠ (page.get4 24, page.get4 28) then .ok { content, users := 1 }
  else if page.get4 4 ≠ version then .error .cannotOpenBeside
  else
    let reading := readPages page isLittle size content.size 32 start {}
    .ok { content, pages := reading.pages, pageCount := reading.pageCount, users := 1 }

/-- The index of a log in which nothing is: its state, with sums, twice, and the five places for readers, of which the first
one is in use. -/
def index : ByteArray :=
  let words (ns : List Nat) : ByteArray := ns.foldl (fun bytes n => bytes ++
    ⟨#[UInt8.ofNat n, UInt8.ofNat (n >>> 8), UInt8.ofNat (n >>> 16), UInt8.ofNat (n >>> 24)]⟩) .empty
  let state := words [version, 0, 0, 1, 0, 0, 0, 0, 0, 0]
  let (a, b) := sums ⟨state⟩ true 5 0 (0, 0)
  let half := state ++ words [a, b]
  let start := half ++ half ++ words ([0, 0] ++ List.replicate 4 0xffffffff)
  ((Page.blank 32768).paste 0 start).bytes

/-- The file with the pages of a log written to it. -/
def writeTo (log : Log) (file : ByteArray) (pageSize : Nat) : ByteArray :=
  if log.pages.isEmpty then file
  else
    let file := log.pages.reverse.foldl
      (fun file (number, page) => Medium.overwritten file ((number - 1) * pageSize) page.bytes) file
    Medium.resized file pageSize log.pageCount

end Log

namespace Pager

/-- Uses the log from now on. It is made if there is none. -/
def joinLog : StorageM Unit := do
  let pager ← get
  let log ← match pager.medium.log with
    | .absent => pure { content := .empty, users := 1 }
    | .bytes content => lift (Log.ofContent content)
    | .directory => throw .cannotOpenBeside
    | .log log => pure { log with users := log.users + 1 }
  set
    { pager with
      medium := { pager.medium with log := .log log }
      seenCommits := some log.commits
      pages := ∅ }

/-- Uses the log no more. The last user writes it to the file. -/
def leaveLog (pager : Pager) : Pager :=
  match pager.seenCommits, pager.medium.log with
  | some _, .log log =>
    let medium :=
      if 1 < log.users then { pager.medium with log := .log { log with users := log.users - 1 } }
      else { pager.medium with log := .absent, file := log.writeTo pager.medium.file pager.pageSize }
    { pager with medium, seenCommits := none }
  | some _, log => { pager with medium := { pager.medium with log := log.removed }, seenCommits := none }
  | none, _ => pager

end Pager

end SparseRows.Sql
