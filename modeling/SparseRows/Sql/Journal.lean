import SparseRows.Sql.Storage.Pager

/-!
# Journals

Before an engine changes pages of a file, it copies them to a journal beside the file. A journal that is left there holds
the pages of a broken-off change, with the number of pages that the file had before. It is played back by whoever looks at
the file next: each page in it is written to the file. A page that does not add up ends that.
-/

namespace SparseRows.Sql

namespace Journal

/-- The bytes that a journal starts with. -/
def magic : ByteArray :=
  ⟨#[0xd9, 0xd5, 0x05, 0xf9, 0x20, 0xa1, 0x63, 0xd7]⟩

/-- The number of bytes of the head of a journal that says nothing else. -/
def sector : Nat := 512

/-- A file while a journal is played back to it. -/
structure Playback where
  file : ByteArray
  pageSize : Nat
  /-- The number of pages that the file is to have, once it is known. -/
  pageCount : Option Nat := none
  /-- Whether pages have been met. -/
  hasPages : Bool := false

/-- Whether a number is a power of two. -/
def isPower (n : Nat) : Bool :=
  n != 0 && n &&& (n - 1) == 0

/-- The sum over some bytes of a page, from a start. -/
def sum (page : Page) (start : Nat) : Nat :=
  ((List.range page.size).filter fun place => 0 < place ∧ place % 200 = page.size % 200).foldl
    (fun sum place => sum + page.get1 place) start % UInt32.size

/-- Plays back pages from a place on, so many of them, and says whether there is more behind. -/
def playPages (journal : Page) (start : Nat) : (count place : Nat) → Playback → Playback × Option Nat
  | 0, place, state => (state, some place)
  | left + 1, place, state =>
    let state := { state with hasPages := true }
    let next := place + state.pageSize + 8
    let number := journal.get4 place
    let page : Page := ⟨journal.slice (place + 4) state.pageSize⟩
    if journal.size < next - 4 then (state, none)
    else if number = 0 then (state, none)
    else if state.pageCount.getD 0 < number then playPages journal start left next state
    else if journal.size < next ∨ sum page start ≠ journal.get4 (next - 4) then (state, none)
    else
      let file := Medium.overwritten state.file ((number - 1) * state.pageSize) page.bytes
      playPages journal start left next { state with file }

/-- Plays back a journal from a place on, where so many heads may follow. -/
def play (journal : Page) : (most sector place : Nat) → Playback → Playback
  | 0, _, _, state => state
  | most + 1, sector, place, state =>
    let head := (place + sector - 1) / sector * sector
    if journal.size < head + sector ∨ journal.slice head 8 ≠ magic then state
    else
      let told := journal.get4 (head + 8)
      let count := journal.get4 (head + 16)
      let isFirst := head = 0
      let sectorTold := journal.get4 20
      let pageSize := if isFirst ∧ journal.get4 24 ≠ 0 then journal.get4 24 else state.pageSize
      let sector := if isFirst then sectorTold else sector
      let isUsable := 512 ≤ pageSize && pageSize ≤ 65536 && isPower pageSize && 32 ≤ sector && sector ≤ 65536 && isPower sector
      if isFirst && !isUsable then state
      else
        let state := if isFirst then
          { state with pageSize, pageCount := some count, file := Medium.resized state.file pageSize count }
        else state
        let place := head + sector
        let records := if told = UInt32.size - 1 then (journal.size - sector) / (pageSize + 8) else told
        match playPages journal (journal.get4 (head + 12)) (min records journal.size) place state with
        | (state, some place) => play journal most sector place state
        | (state, none) => state

end Journal

namespace Pager

/-- The pager after a journal has been played back to the file. Pages at hand go if any were met in the journal, and those
behind the end of the file as it was last seen. -/
def playedBack (pager : Pager) (journal : ByteArray) : Pager :=
  let page : Page := ⟨journal⟩
  let played := Journal.play page (journal.size + 1) Journal.sector 0 { file := pager.medium.file, pageSize := pager.pageSize }
  let fileCount := played.pageCount.getD pager.fileCount
  { pager with
    medium := { pager.medium with file := played.file, journal := .absent }
    pageSize := played.pageSize, fileCount
    pages :=
      if played.hasPages ∨ played.pageSize ≠ pager.pageSize ∨ fileCount = 0 then ∅
      else pager.pages.filter fun number _ => number ≤ fileCount }

end Pager

end SparseRows.Sql
