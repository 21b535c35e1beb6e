import SparseRows.Sql.Storage.Balance

/-!
# Changes to trees

Rows are put into tables by their numbers and records into indexes by their order. What a cell cannot hold goes on in pages
of its own, each of which leads to the next one. If what is put in takes as many bytes as what it replaces, only bytes are
written that differ.
-/

namespace SparseRows.Sql.Tree

open Pager

/-- Writes what a cell cannot hold to pages of its own, so many at most, and gives the first one. Pages near the one before are
preferred. -/
def spread (usable : Nat) : (most near : Nat) → (content : ByteArray) → StorageM Nat
  | 0, _, _ => return 0
  | most + 1, near, content => do
    if content.size = 0 then return 0
    let number ← allocate near
    let here := content.extract 0 (usable - 4)
    put number (((← page number).put4 0 0).paste 4 here)
    let next ← spread usable most number (content.extract (usable - 4) content.size)
    if next ≠ 0 then put4 number 0 next
    return number

/-- The cell for a content behind some bytes. -/
def cellOf (node : Node) (before : ByteArray) (content : ByteArray) : StorageM ByteArray := do
  let inside := node.insideOf content.size
  let cell := before ++ content.extract 0 inside
  if inside = content.size then
    return if cell.size < 4 then cell ++ (Page.blank (4 - cell.size)).bytes else cell
  let rest := content.extract inside content.size
  let next ← spread node.usable (rest.size / (node.usable - 4) + 1) 0 rest
  return cell ++ ((Page.blank 4).put4 0 next).bytes

/-- The head of the cell of a row. -/
def rowHead (length key : Nat) : ByteArray :=
  ⟨(Varint.bytes length ++ Varint.bytes key).toArray⟩

/-- Gives up the pages on which a content goes on, so many of them. -/
def giveUp : (count : Nat) → (number : Nat) → StorageM Unit
  | 0, _ => return ()
  | left + 1, number => do
    if number < 2 ∨ (← get).pageCount < number then throw .malformed
    let next ← if left = 0 then pure 0 else (·.get4 0) <$> page number
    Pager.free number
    giveUp left next

/-- Gives up the pages on which the content of a cell goes on. -/
def giveUpRest (node : Node) (index : Nat) : StorageM Unit := do
  let shape := node.shape index
  if shape.inside < shape.length then
    let place := node.place index
    if node.page.size < place + shape.size then throw .malformed
    let each := node.usable - 4
    giveUp ((shape.length - shape.inside + each - 1) / each) (node.page.get4 (place + shape.size - 4))

/-- Writes bytes to a page, if they differ from those that are there. -/
def overwrite (number place : Nat) (bytes : ByteArray) : StorageM Unit := do
  let page ← page number
  if page.slice place bytes.size ≠ bytes then put number (page.paste place bytes)

/-- Writes a content over one of the same length that goes on over pages, of which so many may follow. -/
def overwriteRest : (most number : Nat) → ByteArray → StorageM Unit
  | 0, _, _ => return ()
  | most + 1, number, content => do
    if content.size = 0 then return ()
    let each := (← get).usable - 4
    let next := (← page number).get4 0
    overwrite number 4 (content.extract 0 each)
    overwriteRest most next (content.extract each content.size)

/-- Writes a content over that of a cell, which has the same length. -/
def overwriteCell (node : Node) (index : Nat) (content : ByteArray) : StorageM Unit := do
  let shape := node.shape index
  let place := node.place index
  if node.page.size < place + shape.start + shape.inside ∨ place + shape.start < node.list then throw .malformed
  overwrite node.number (place + shape.start) (content.extract 0 shape.inside)
  if shape.inside < shape.length then
    overwriteRest (content.size / (node.usable - 4) + 1) (node.page.get4 (place + shape.size - 4))
      (content.extract shape.inside content.size)

/-- Balances the nodes on the way to one, and gives the way to where that ended. -/
def balance (above : List (Nat × Nat)) (number : Nat) (isBulk : Bool) : StorageM (List (Nat × Nat)) :=
  Balance.run isBulk (above.length + 3) above number

/-- Puts a cell at a position, in place of the one that is there if so. -/
def putCell (position : Position) (replaces isBulk : Bool) (head : ByteArray) (content : ByteArray) : StorageM Unit := do
  let cell ← cellOf (← node position.number) head content
  let node ← measured position.number
  if replaces then
    let shape := node.shape position.index
    let cell := if node.isLeaf then cell else Node.withChild cell (node.child position.index)
    giveUpRest node position.index
    let node ← measured position.number
    if shape.size = cell.size ∧ shape.inside = shape.length then
      put node.number (node.page.paste (node.place position.index) cell)
    else
      keep (← lift ((← lift (node.drop position.index shape.size)).insert position.index cell))
  else keep (← lift (node.insert position.index cell))
  if !((← get).pending[position.number]?).isNone then
    let _ ← balance position.above position.number isBulk

/-- Puts a row into a table, in place of an earlier one of its number. -/
def putRow (root : Nat) (number : Int) (record : ByteArray) : StorageM Unit := do
  let (position, isThere) ← seekRow root number
  putCell position isThere false (rowHead record.size (keyOf number)) record

/-- Replaces a row. A record of the length of the earlier one is written over it. -/
def replaceRow (root : Nat) (number : Int) (record : ByteArray) : StorageM Unit := do
  let (position, isThere) ← seekRow root number
  let node ← node position.number
  if isThere ∧ (node.shape position.index).length = record.size then overwriteCell node position.index record
  else putCell position isThere false (rowHead record.size (keyOf number)) record

/-- Puts a record into an index. -/
def putRecord (format root : Nat) (data : List Datum) : StorageM Unit := do
  let record := Record.ofData format data
  let (position, isThere) ← seekRecord root data .eq
  let node ← node position.number
  if isThere ∧ (node.shape position.index).length = record.size then overwriteCell node position.index record
  else
    let before := if node.isLeaf then .empty else (Page.blank 4).bytes
    putCell position isThere false (before ++ ⟨(Varint.bytes record.size).toArray⟩) record

/-- Puts a record behind all others of an index. -/
def appendRecord (format root : Nat) (data : List Datum) : StorageM Unit := do
  let record := Record.ofData format data
  let position := match ← last? root false with
    | some last => { last with index := last.index + 1 }
    | none => ⟨[], root, 0⟩
  putCell position false true ⟨(Varint.bytes record.size).toArray⟩ record

/-- Takes a cell away. One in a node that leads on is replaced by the last one before it, which stands in a leaf. -/
def deleteAt (position : Position) : StorageM Unit := do
  let node ← measured position.number
  if node.count ≤ position.index ∨ node.place position.index < node.list + 2 * node.count then throw .malformed
  let size := (node.shape position.index).size
  if node.isLeaf then
    giveUpRest node position.index
    let node ← measured position.number
    keep (← lift (node.drop position.index size))
    let node ← measured position.number
    if 2 * node.usable < 3 * node.free then
      let _ ← balance position.above position.number false
  else
    let way := (position.number, position.index) :: position.above
    let last ← lastFrom mostHigh way (← below node position.index)
    put position.number node.page
    giveUpRest node position.index
    let node ← measured position.number
    let node ← lift (node.drop position.index size)
    let leaf ← measured last.number
    let cell := leaf.cell last.index
    let child := ((last.above.reverse.drop (position.above.length + 1)).head?.map (·.1)).getD last.number
    keep (← lift (node.insert position.index (Node.withChild ((Page.blank 4).bytes ++ cell) child)))
    keep (← lift (leaf.drop last.index cell.size))
    let leaf ← measured last.number
    let ended ← if 2 * leaf.usable < 3 * leaf.free then balance last.above last.number false else pure last.above
    if position.above.length < ended.length then
      let _ ← balance position.above position.number false

/-- Takes a row away, if it is there. -/
def deleteRow (root : Nat) (number : Int) : StorageM Unit := do
  let (position, isThere) ← seekRow root number
  if isThere then deleteAt position

/-- Takes a record out of an index, where it has to be. -/
def deleteRecord (root : Nat) (data : List Datum) : StorageM Unit := do
  let (position, isThere) ← seekRecord root data .eq
  if !isThere then throw .malformed
  deleteAt position

/-- Makes a tree without rows or records and gives its page. -/
def create (isTable : Bool) : StorageM Nat := do
  let number ← allocate 1
  let node : Node := { number, page := ← page number, usable := (← get).usable }
  keep (node.cleared (if isTable then Node.tableLeaf else Node.indexLeaf))
  return number

end SparseRows.Sql.Tree
