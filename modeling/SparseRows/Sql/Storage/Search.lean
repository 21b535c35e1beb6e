import SparseRows.Sql.Storage.Pager
import SparseRows.Sql.Storage.Record

/-!
# Search in trees

A tree is known by the page of its topmost node. A table is a tree in which rows stand in the leaves in the order of their
numbers, and the nodes above hold numbers only; an index is a tree of records, which stand in nodes of every height. The way
to a place leads down from the top.
-/

namespace SparseRows.Sql

/-- A place among the cells of a node, and the way to it. -/
structure Position where
  /-- The nodes above with the index of the child that the way goes on to, the lowest first. -/
  above : List (Nat × Nat) := []
  number : Nat
  index : Nat
  deriving DecidableEq, Repr

namespace Tree

open Pager

/-- The most nodes on one way. -/
def mostHigh : Nat := 20

/-- The topmost node of a tree of a kind. -/
def top (root : Nat) (isTable : Bool) : StorageM Node := do
  let node ← node root
  if node.isTable ≠ isTable then throw .malformed
  if node.count = 0 ∧ !node.isLeaf ∧ root ≠ 1 then throw .malformed
  return node

/-- The node below another one. -/
def below (above : Node) (index : Nat) : StorageM Node := do
  let node ← node (above.child index)
  if node.count = 0 ∨ node.isTable ≠ above.isTable then throw .malformed
  return node

/-- The content of a cell that goes on over some pages, of which so many may follow. -/
def rest : Nat → Nat → Nat → ByteArray → StorageM ByteArray
  | 0, _, left, content => if left = 0 then return content else throw .malformed
  | most + 1, number, left, content => do
    if left = 0 then return content
    let pager ← get
    if pager.pageCount < number then throw .malformed
    let page ← page number
    let length := min left (pager.usable - 4)
    rest most (page.get4 0) (left - length) (content ++ page.slice 4 length)

/-- The content of a cell. -/
def content (node : Node) (index : Nat) : StorageM ByteArray := do
  let shape := node.shape index
  let place := node.place index
  if node.usable < place + shape.start + shape.inside then throw .malformed
  let inside := node.page.slice (place + shape.start) shape.inside
  let left := shape.length - shape.inside
  if left = 0 then return inside
  rest (left / (node.usable - 4) + 1) (node.page.get4 (place + shape.size - 4)) left inside

/-- The first place from one to another at which something is not less, if things are in order, and whether it is equal there.
So many steps may be needed. -/
def bisect (order : Nat → StorageM Ordering) : (steps first last : Nat) → StorageM (Nat × Bool)
  | 0, first, _ => return (first, false)
  | steps + 1, first, last => do
    if last ≤ first then return (first, false)
    let middle := (first + last - 1) / 2
    match ← order middle with
    | .lt => bisect order steps (middle + 1) last
    | .gt => bisect order steps first middle
    | .eq => return (middle, true)

/-- The way to a place, with the order of the sought in relation to cells. So many nodes may follow on the way. A match in a
node that leads on ends the way in an index only. -/
def seekFrom (order : Node → Nat → StorageM Ordering) : (height : Nat) → List (Nat × Nat) → Node →
    StorageM (Position × Bool)
  | 0, _, _ => throw .malformed
  | height + 1, above, node => do
    let (index, isMatch) ← bisect (order node) (node.count + 1) 0 node.count
    if node.isLeaf ∨ (isMatch ∧ !node.isTable) then return (⟨above, node.number, index⟩, isMatch)
    seekFrom order height ((node.number, index) :: above) (← below node index)

/-- The number of a row as an integer of 64 bits. -/
def rowNumber (key : Nat) : Int :=
  if key < 0x8000000000000000 then key else (key : Int) - 0x10000000000000000

/-- The number of a row as it is kept. -/
def keyOf (number : Int) : Nat :=
  (number % 0x10000000000000000).toNat

/-- The place of a row, and whether it is there. -/
def seekRow (root : Nat) (number : Int) : StorageM (Position × Bool) := do
  seekFrom (fun node index => return compare (rowNumber (node.shape index).key) number) mostHigh [] (← top root true)

/-- The place of a record with some data in front, and whether it is there. Where these agree, the record of the index is in
the order said. -/
def seekRecord (root : Nat) (data : List Datum) (tie : Ordering) : StorageM (Position × Bool) := do
  seekFrom (fun node index => return Record.order tie (Record.data (← content node index)) data) mostHigh [] (← top root false)

/-- The place of the last cell below a node. -/
def lastFrom : (height : Nat) → List (Nat × Nat) → Node → StorageM Position
  | 0, _, _ => throw .malformed
  | height + 1, above, node => do
    if node.isLeaf then return ⟨above, node.number, node.count - 1⟩
    lastFrom height ((node.number, node.count) :: above) (← below node node.count)

/-- The place of the last cell of a tree, if it has cells. -/
def last? (root : Nat) (isTable : Bool) : StorageM (Option Position) := do
  let node ← top root isTable
  if node.count = 0 ∧ node.isLeaf then return none
  return some (← lastFrom mostHigh [] node)

/-- The largest number of a row, if there are rows. -/
def lastRow? (root : Nat) : StorageM (Option Int) := do
  match ← last? root true with
  | none => return none
  | some position => return some (rowNumber ((← node position.number).shape position.index).key)

/-- The rows below a node, with their numbers. -/
def rowsFrom : (height : Nat) → Node → StorageM (List (Int × ByteArray))
  | 0, _ => throw .malformed
  | height + 1, node => do
    if node.isLeaf then
      (List.range node.count).mapM fun index => return (rowNumber (node.shape index).key, ← content node index)
    else
      return (← (List.range (node.count + 1)).mapM fun index => do rowsFrom height (← below node index)).flatten

/-- The records of the rows of a table, with their numbers. -/
def rows (root : Nat) : StorageM (List (Int × ByteArray)) := do
  rowsFrom mostHigh (← top root true)

/-- The record of the row of a number. -/
def row? (root : Nat) (number : Int) : StorageM (Option ByteArray) := do
  let (position, isThere) ← seekRow root number
  if isThere then return some (← content (← node position.number) position.index) else return none

/-- The records below a node that have some data in front. -/
def recordsFrom (data : List Datum) : (height : Nat) → Node → StorageM (List (List Datum))
  | 0, _ => throw .malformed
  | height + 1, node => do
    let order (tie : Ordering) (index : Nat) : StorageM Ordering := do
      return Record.order tie (Record.data (← content node index)) data
    let (first, _) ← bisect (order .gt) (node.count + 1) 0 node.count
    let (last, _) ← bisect (order .lt) (node.count + 1) 0 node.count
    let here ← (List.range' first (last - first)).mapM fun index => return Record.data (← content node index)
    if node.isLeaf then return here
    let below ← (List.range' first (last + 1 - first)).mapM fun index => do recordsFrom data height (← below node index)
    return mix below here
where
  /-- Lists with something between any two of them. -/
  mix : List (List (List Datum)) → List (List Datum) → List (List Datum)
    | list :: lists, record :: records => list ++ record :: mix lists records
    | lists, _ => lists.flatten

/-- The records of an index that have some data in front, in order. -/
def records (root : Nat) (data : List Datum) : StorageM (List (List Datum)) := do
  recordsFrom data mostHigh (← top root false)

end Tree

end SparseRows.Sql
