import SparseRows.Error
import SparseRows.Sql.Storage.Varint

/-!
# Nodes

A node of a tree is a page. Its head says of what kind it is and how many cells it has, and the places of the cells follow
in the order of their keys. The cells stand towards the end of the page. Gaps between them are linked in the order of their
places, with the place of the next one and their own length in their first four bytes; gaps of less than four bytes are only
counted.
-/

namespace SparseRows.Sql

/-- A node. -/
structure Node where
  /-- The number of the page. -/
  number : Nat
  page : Page
  /-- The number of bytes of the page that nodes may use. -/
  usable : Nat
  /-- The number of bytes that are neither head nor cells, once they have been counted. -/
  free : Nat := 0
  /-- Cells that belong to the node and have found no room on the page, with their places among the cells. -/
  pending : List (Nat × ByteArray) := []

/-- What is to be known of a cell before its content is read. -/
structure CellShape where
  /-- The number of the row, in a table. -/
  key : Nat := 0
  /-- The length of the content. -/
  length : Nat := 0
  /-- The place in the cell where the content starts. -/
  start : Nat := 0
  /-- The length of the part of the content that the cell holds itself. -/
  inside : Nat := 0
  /-- The length of the cell. -/
  size : Nat
  deriving DecidableEq, Repr

namespace Node

/-- The place of the head. The first page starts with the head of the whole file. -/
def head (node : Node) : Nat :=
  if node.number = 1 then 100 else 0

/-- The number of a kind of nodes. -/
def tableLeaf : Nat := 13

/-- The number of the kind of nodes that lead to nodes of tables. -/
def tableBranch : Nat := 5

/-- The number of the kind of nodes at the end of indexes. -/
def indexLeaf : Nat := 10

/-- The number of the kind of nodes that lead to nodes of indexes. -/
def indexBranch : Nat := 2

/-- The number of the kind of the node. -/
def kind (node : Node) : Nat :=
  node.page.get1 node.head

/-- Whether no nodes are below the node. -/
def isLeaf (node : Node) : Bool :=
  8 ≤ node.kind

/-- Whether the node belongs to a table, not to an index. -/
def isTable (node : Node) : Bool :=
  node.kind % 8 = 5

/-- The number of cells on the page. -/
def count (node : Node) : Nat :=
  node.page.get2 (node.head + 3)

/-- The place of the list of places. -/
def list (node : Node) : Nat :=
  node.head + if node.isLeaf then 8 else 12

/-- The place of the first gap, or zero. -/
def firstGap (node : Node) : Nat :=
  node.page.get2 (node.head + 1)

/-- The place of the cell that is nearest to the list of places. -/
def top (node : Node) : Nat :=
  let place := node.page.get2 (node.head + 5)
  if place = 0 then 65536 else place

/-- The number of bytes in gaps that are too short to be linked. -/
def fragments (node : Node) : Nat :=
  node.page.get1 (node.head + 7)

/-- The place of a cell. -/
def place (node : Node) (index : Nat) : Nat :=
  node.page.get2 (node.list + 2 * index) % node.page.size

/-- The node with other bytes. -/
def withPage (node : Node) (page : Page) : Node :=
  { node with page }

/-- The page below the node that the last cells are on. -/
def lastChild (node : Node) : Nat :=
  node.page.get4 (node.head + 8)

/-- The page below the node at an index. -/
def child (node : Node) (index : Nat) : Nat :=
  if index < node.count then node.page.get4 (node.place index) else node.lastChild

/-! ## Cells -/

/-- The least part of a content that a cell holds. -/
def minInside (usable : Nat) : Nat :=
  (usable - 12) * 32 / 255 - 23

/-- The largest part of a content that a cell holds. -/
def maxInside (node : Node) : Nat :=
  if node.isTable then node.usable - 35 else (node.usable - 12) * 64 / 255 - 23

/-- The length of the part of a content that the cell holds. What does not fit goes on in pages of its own, as full as they
get. -/
def insideOf (node : Node) (length : Nat) : Nat :=
  if length ≤ node.maxInside then length
  else
    let least := minInside node.usable
    let surplus := least + (length - least) % (node.usable - 4)
    if surplus ≤ node.maxInside then surplus else least

/-- The shape of a cell whose content has a length and starts at a place in it. -/
def shapeOf (node : Node) (key length start : Nat) : CellShape :=
  let inside := node.insideOf length
  { key, length, start, inside, size := if inside = length then max 4 (start + inside) else start + inside + 4 }

/-- The shape of a cell that starts at a place of a row of bytes. -/
def shapeIn (node : Node) (source : Page) (place : Nat) : CellShape :=
  if node.isTable then
    if node.isLeaf then
      let (length, width) := Varint.read source place
      let (key, keyWidth) := Varint.read source (place + width)
      node.shapeOf key (length % UInt32.size) (width + keyWidth)
    else
      let (key, width) := Varint.read source (place + 4)
      { key, size := 4 + width }
  else
    let before := if node.isLeaf then 0 else 4
    let (length, width) := Varint.read source (place + before)
    node.shapeOf 0 (length % UInt32.size) (before + width)

/-- The shape of a cell on the page. -/
def shape (node : Node) (index : Nat) : CellShape :=
  node.shapeIn node.page (node.place index)

/-- The bytes of a cell on the page. -/
def cell (node : Node) (index : Nat) : ByteArray :=
  node.page.slice (node.place index) (node.shape index).size

/-- A cell with another page below it. -/
def withChild (cell : ByteArray) (child : Nat) : ByteArray :=
  (Page.put4 ⟨cell⟩ 0 child).bytes

/-! ## Checks -/

/-- The node on a page, if there can be one. -/
def ofPage (number usable : Nat) (page : Page) : Except EngineError Node :=
  let node : Node := { number, page, usable }
  let kinds := [tableLeaf, tableBranch, indexLeaf, indexBranch]
  if !kinds.contains node.kind then .error .malformed
  else if (page.size - 8) / 6 < node.count then .error .malformed
  else .ok node

/-- The length of all gaps from a place on, where so many may follow. Each is behind the one before it and does not touch it. -/
def gapLength (node : Node) : Nat → Nat → Except EngineError Nat
  | 0, _ => .error .malformed
  | most + 1, place => do
    if node.usable - 4 < place then throw .malformed
    let next := node.page.get2 place
    let length := node.page.get2 (place + 2)
    if place + length + 3 < next then return length + (← node.gapLength most next)
    if 0 < next ∨ node.usable < place + length then throw .malformed
    return length

/-- The node with its free bytes counted. -/
def measure (node : Node) : Except EngineError Node := do
  let gap := node.firstGap
  if 0 < gap ∧ gap < node.top then throw .malformed
  let gaps ← if 0 < gap then node.gapLength node.usable gap else pure 0
  let free := node.fragments + node.top + gaps
  let used := node.list + 2 * node.count
  if node.usable < free ∨ free < used then throw .malformed
  return { node with free := free - used }

/-! ## Room for cells -/

/-- A node of a kind without cells. Only its head is written. -/
def cleared (node : Node) (kind : Nat) : Node :=
  let page := (node.page.put1 node.head kind).clear (node.head + 1) 4
  let node := node.withPage ((page.put1 (node.head + 7) 0).put2 (node.head + 5) node.usable)
  { node with free := node.usable - node.list, pending := [] }

/-- The page with the cells put next to each other at its end, in the order of their keys, and the place of the nearest one. -/
def packed (node : Node) : Except EngineError (Page × Nat) :=
  (List.range node.count).foldlM
    (fun (page, end_) index => do
      let place := node.page.get2 (node.list + 2 * index)
      if node.usable - 4 < place then throw .malformed
      let size := (node.shapeIn node.page place).size
      if end_ < size + node.page.get2 (node.head + 5) ∨ node.usable < place + size then throw .malformed
      return ((page.put2 (node.list + 2 * index) (end_ - size)).paste (end_ - size) (node.page.slice place size), end_ - size))
    (node.page, node.usable)

/-- The page with the cells moved over the only two gaps, or the only one, and the place of the nearest cell. -/
def closed (node : Node) (gap next : Nat) : Except EngineError (Page × Nat) := do
  let page := node.page
  let top := page.get2 (node.head + 5)
  let length := page.get2 (gap + 2)
  if gap ≤ top then throw .malformed
  let nextLength := if next = 0 then 0 else page.get2 (next + 2)
  if next = 0 then
    if node.usable < gap + length then throw .malformed
  else if next < gap + length ∨ node.usable < next + nextLength then throw .malformed
  let page := if next = 0 then page else page.move (gap + length + nextLength) (gap + length) (next - (gap + length))
  let both := length + nextLength
  let page := page.move (top + both) top (gap - top)
  let page := (List.range node.count).foldl
    (fun page index =>
      let entry := node.list + 2 * index
      let place := page.get2 entry
      if place < gap then page.put2 entry (place + both)
      else if place < next then page.put2 entry (place + nextLength)
      else page)
    page
  return (page, top + both)

/-- The node without gaps. Where there are at most two linked gaps, and no more fragments than said, the fragments stay. -/
def defragment (node : Node) (mostFragments : Option Nat) : Except EngineError Node := do
  let gap := node.firstGap
  let isQuick := (mostFragments.map (decide <| node.fragments ≤ ·)).getD false
  if isQuick ∧ node.usable - 4 < gap then throw .malformed
  let next := if gap = 0 then 0 else node.page.get2 gap
  if isQuick ∧ node.usable - 4 < next then throw .malformed
  let isClosing := isQuick && gap != 0 && (next == 0 || node.page.get2 next == 0)
  let (page, top) ← if isClosing then node.closed gap next else node.packed
  let page := if isClosing then page else page.put1 (node.head + 7) 0
  let used := node.list + 2 * node.count
  if page.get1 (node.head + 7) + top ≠ node.free + used then throw .malformed
  let page := (page.put2 (node.head + 5) top).put2 (node.head + 1) 0
  return node.withPage (page.clear used (top - used))

/-- A place in a gap for so many bytes, with the gap made shorter, if there is a gap that is long enough. Gaps are looked at
from a place on, which is told at another place; so many may follow. -/
def takeGap (node : Node) (size : Nat) : (most link : Nat) → Except EngineError (Option (Nat × Page))
  | 0, _ => .error .malformed
  | most + 1, link => do
    let page := node.page
    let gap := page.get2 link
    let last := node.usable - size
    if last < gap then
      if last + size - 4 < gap then throw .malformed
      return none
    let length := page.get2 (gap + 2)
    if size ≤ length then
      let rest := length - size
      if rest < 4 then
        if 57 < node.fragments then return none
        let page := (page.put2 link (page.get2 gap)).put1 (node.head + 7) (node.fragments + rest)
        return some (gap, page)
      if last < rest + gap then throw .malformed
      return some (gap + rest, page.put2 (gap + 2) rest)
    let next := page.get2 gap
    if next ≤ gap then
      if next ≠ 0 then throw .malformed
      return none
    node.takeGap size most gap

/-- A place for so many bytes and one more entry in the list of places. -/
def allocate (node : Node) (size : Nat) : Except EngineError (Nat × Node) := do
  let used := node.list + 2 * node.count
  let top := node.page.get2 (node.head + 5)
  let top ←
    if top < used then
      if top = 0 ∧ node.usable = 65536 then pure 65536 else throw .malformed
    else if node.usable < top then throw .malformed
    else pure top
  if node.firstGap ≠ 0 ∧ used + 2 ≤ top then
    if let some (place, page) ← node.takeGap size node.usable (node.head + 1) then
      if place ≤ used then throw .malformed
      return (place, node.withPage page)
  let node ← if top < used + 2 + size then node.defragment (some (min 4 (node.free - (2 + size)))) else pure node
  let top := if top < used + 2 + size then node.top else top
  if top < size then throw .malformed
  return (top - size, node.withPage (node.page.put2 (node.head + 5) (top - size)))

/-- The place that links to the first gap behind a place; so many gaps may be before it. -/
def linkBefore (node : Node) (place : Nat) : (most link : Nat) → Except EngineError Nat
  | 0, _ => .error .malformed
  | most + 1, link => do
    let gap := node.page.get2 link
    if place ≤ gap then return link
    if gap ≤ link then
      if gap = 0 then return link
      throw .malformed
    node.linkBefore place most gap

/-- The node with some bytes free, which become a gap, or part of the gaps that they touch. -/
def release (node : Node) (place size : Nat) : Except EngineError Node := do
  let page := node.page
  let first := node.head + 1
  let link ← if node.firstGap = 0 then pure first else node.linkBefore place node.usable first
  let next := page.get2 link
  if node.usable - 4 < next then throw .malformed
  let end_ := place + size
  let touchesNext := next ≠ 0 ∧ next ≤ end_ + 3
  if touchesNext ∧ next < end_ then throw .malformed
  let endWithNext := if touchesNext then next + page.get2 (next + 2) else end_
  if node.usable < endWithNext then throw .malformed
  let behind := if touchesNext then page.get2 next else next
  let previousEnd := link + page.get2 (link + 2)
  let touchesPrevious := first < link ∧ place ≤ previousEnd + 3
  if touchesPrevious ∧ place < previousEnd then throw .malformed
  let start := if touchesPrevious then link else place
  let regained := (if touchesNext then next - end_ else 0) + (if touchesPrevious then place - previousEnd else 0)
  if node.fragments < regained then throw .malformed
  let page := if node.firstGap = 0 then page else page.put1 (node.head + 7) (node.fragments - regained)
  let top := page.get2 (node.head + 5)
  let page ←
    if start ≤ top then
      if start < top ∨ link ≠ first then throw .malformed
      pure ((page.put2 first behind).put2 (node.head + 5) endWithNext)
    else pure (((page.put2 link start).put2 start behind).put2 (start + 2) (endWithNext - start))
  return { node with page, free := node.free + size }

/-- The node without a cell of a size. -/
def drop (node : Node) (index size : Nat) : Except EngineError Node := do
  let place := node.page.get2 (node.list + 2 * index)
  if node.usable < place + size then throw .malformed
  let node ← node.release place size
  if node.count ≤ 1 then
    let page := (node.page.clear (node.head + 1) 4).put1 (node.head + 7) 0
    return { node with page := page.put2 (node.head + 5) node.usable, free := node.usable - node.list }
  else
    let entry := node.list + 2 * index
    let page := node.page.move entry (entry + 2) (2 * (node.count - 1 - index))
    return { node with page := page.put2 (node.head + 3) (node.count - 1), free := node.free + 2 }

/-- The node with one cell more. Where there is no room it remains pending. -/
def insert (node : Node) (index : Nat) (cell : ByteArray) : Except EngineError Node := do
  if !node.pending.isEmpty ∨ node.free < cell.size + 2 then
    return { node with pending := node.pending ++ [(index, cell)] }
  let (place, node) ← node.allocate cell.size
  let entry := node.list + 2 * index
  let page := (node.page.paste place cell).move (entry + 2) entry (2 * (node.count - index))
  return { node with
    page := (page.put2 entry place).put2 (node.head + 3) (node.count + 1)
    free := node.free - (2 + cell.size) }

end Node

end SparseRows.Sql
