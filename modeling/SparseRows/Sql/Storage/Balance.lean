import SparseRows.Sql.Storage.Search

/-!
# Balance

After a change a node may have cells that find no room, or be less than a third full. Then its cells are shared out anew
between it and the nodes beside it, of which there may be more or less afterwards, and the node above gets other cells
between them; so the node above may be next. A topmost node that is too full gets a node below it, and one with a single
node below takes over its cells.
-/

namespace SparseRows.Sql

/-- A cell that is given to a node. -/
structure Piece where
  bytes : ByteArray
  /-- The one of the nodes that it stands on so far, and the place there. -/
  home : Option (Nat × Nat) := none

namespace Piece

/-- The number of bytes that the cell takes, with those of its place in the list of places. -/
def room (piece : Piece) : Nat :=
  piece.bytes.size + 2

end Piece

namespace Node

/-! ## New cells for a node -/

/-- The pieces of a node, which is one of several, with those that are pending among them. -/
def pieces (node : Node) (self : Nat) : Array Piece :=
  let here := (List.range node.count).map fun index => (⟨node.cell index, some (self, node.place index)⟩ : Piece)
  let waiting := node.pending.map fun (_, bytes) => (⟨bytes, none⟩ : Piece)
  let before := (node.pending.head?.map (·.1)).getD node.count
  (here.take before ++ waiting ++ here.drop before).toArray

/-- Lengthens a stretch that a stretch of bytes touches, if there is one. -/
def joined (start end_ : Nat) : List (Nat × Nat) → Option (List (Nat × Nat))
  | [] => none
  | (a, b) :: rest =>
    if a = end_ then some ((start, b) :: rest)
    else if b = start then some ((a, end_) :: rest)
    else (joined start end_ rest).map ((a, b) :: ·)

/-- Makes some stretches gaps. -/
def releaseAll (node : Node) (stretches : List (Nat × Nat)) : Node :=
  stretches.foldl (fun node (start, end_) => ((node.release start (end_ - start)).toOption).getD node) node

/-- Makes gaps of those of some pieces that stand on the node, and gives their number. Up to ten stretches are joined at a
time. -/
def releasePieces (node : Node) (self : Nat) (pieces : List Piece) : Node × Nat :=
  let (node, stretches, count) := pieces.foldl
    (fun (node, stretches, count) piece =>
      match piece.home with
      | some (home, start) =>
        if home = self then
          let end_ := start + piece.bytes.size
          match joined start end_ stretches with
          | some longer => (node, longer, count + 1)
          | none =>
            if stretches.length < 10 then (node, stretches ++ [(start, end_)], count + 1)
            else (node.releaseAll stretches, [(start, end_)], count + 1)
        else (node, stretches, count)
      | none => (node, stretches, count))
    (node, ([] : List (Nat × Nat)), 0)
  (node.releaseAll stretches, count)

/-- Puts pieces on the node, in gaps or above a place, and lists them from an entry on. Gives the place of the highest one.
If one of them would come to stand below a limit, the node is given as it is by then. -/
def addPieces (limit : Nat) : (pieces : List Piece) → (entry : Nat) → Node × Nat → Except Node (Node × Nat)
  | [], _, result => .ok result
  | piece :: rest, entry, (node, top) =>
    let size := piece.bytes.size
    let gap := if node.firstGap = 0 then none else ((node.takeGap size node.usable (node.head + 1)).toOption).join
    match gap with
    | some (place, page) => addPieces limit rest (entry + 2) (node.withPage ((page.paste place piece.bytes).put2 entry place), top)
    | none =>
      if top < limit + size then .error node
      else
        let place := top - size
        addPieces limit rest (entry + 2) (node.withPage ((node.page.paste place piece.bytes).put2 entry place), place)

/-- The node with exactly some pieces, next to each other at the end of the page. -/
def rebuilt (node : Node) (pieces : List Piece) : Except EngineError Node := do
  let (page, top, entry) ← pieces.foldlM
    (fun (page, top, entry) piece => do
      let size := piece.bytes.size
      if top < size + entry + 2 then throw .malformed
      return ((page.put2 entry (top - size)).paste (top - size) piece.bytes, top - size, entry + 2))
    (node.page, node.usable, node.list)
  let _ := entry
  let page := ((page.put2 (node.head + 1) 0).put2 (node.head + 3) pieces.length).put2 (node.head + 5) top
  return { node with page := page.put1 (node.head + 7) 0, pending := [] }

/-- The node with the pieces from one place to another, of which it has had those from a place on. Pieces that stay are left
where they are, if there is room for the others; if not, the node is built anew. -/
def edited (node : Node) (self : Nat) (pieces : Array Piece) (oldFirst first count : Nat) : Except EngineError Node :=
  let part (start length : Nat) : List Piece := (pieces.extract start (start + length)).toList
  let oldEnd := oldFirst + node.count + node.pending.length
  let end_ := first + count
  let list := node.list
  let limit := list + 2 * count
  let oldCount := node.count
  let (front, shift) := if oldFirst < first then node.releasePieces self (part oldFirst (first - oldFirst)) else (node, 0)
  let front := if oldFirst < first then front.withPage (front.page.move list (list + 2 * shift) (2 * oldCount)) else front
  let (rest, tail) := if end_ < oldEnd then front.releasePieces self (part end_ (oldEnd - end_)) else (front, 0)
  let kept := oldCount - shift - tail
  let done : Except Node (Node × Nat) := do
    let top := rest.page.get2 (rest.head + 5)
    if top < limit then throw rest
    let (node, top, kept) ←
      if first < oldFirst then do
        let added := min count (oldFirst - first)
        let moved := rest.withPage (rest.page.move (list + 2 * added) list (2 * kept))
        let (node, top) ← addPieces limit (part first added) list (moved, top)
        pure (node, top, kept + added)
      else pure (rest, top, kept)
    let (node, top, kept) ← node.pending.foldlM
      (fun (node, top, kept) (index, _) =>
        if first ≤ oldFirst + index ∧ oldFirst + index < end_ then do
          let place := oldFirst + index - first
          let entry := list + 2 * place
          let page := if place < kept then node.page.move (entry + 2) entry (2 * (kept - place)) else node.page
          let (node, top) ← addPieces limit (part (first + place) 1) entry (node.withPage page, top)
          pure (node, top, kept + 1)
        else pure (node, top, kept))
      (node, top, kept)
    addPieces limit (part (first + kept) (count - kept)) (list + 2 * kept) (node, top)
  match done with
  | .ok (node, top) =>
    .ok { node with page := (node.page.put2 (node.head + 3) count).put2 (node.head + 5) top, pending := [] }
  | .error node => if count = 0 then .error .malformed else node.rebuilt (part first count)

/-- The node with the content of another one. Only the lists and the cells are taken over. -/
def withContentOf (node source : Node) : Node :=
  let top := source.page.get2 (source.head + 5)
  let page := node.page.paste top (source.page.slice top (source.usable - top))
  let length := source.list + 2 * source.count
  { node with page := page.paste node.head (source.page.slice source.head length) }

end Node

/-! ## How cells are shared out -/

namespace Balance

/-- Cells shared out to nodes: for each node how many bytes its cells take, and the number of the first cell behind it. -/
abbrev Shares := Array (Int × Nat)

/-- The most nodes that cells are shared out to. -/
def mostShares : Nat := 5

/-- The bytes that a cell takes, if there is one. -/
def roomAt (pieces : Array Piece) (index : Nat) : Int :=
  match pieces[index]? with
  | some piece => piece.room
  | none => 0

/-- The shares with the last cell of one moved on to the next one. If the leaves of a table are shared out, nothing stands
between them; otherwise the cell moved is the one between, and the one before it takes its place. -/
def pushRight (pieces : Array Piece) (isData : Bool) (shares : Shares) (i : Nat) : Shares :=
  let (size, cut) := shares.getD i (0, 0)
  let (nextSize, nextCut) := shares.getD (i + 1) (0, pieces.size)
  let shares := if i + 1 < shares.size then shares else shares.push (0, pieces.size)
  let room := roomAt pieces (cut - 1)
  let moved := if isData then room else roomAt pieces cut
  (shares.set! i (size - room, cut - 1)).set! (i + 1) (nextSize + moved, nextCut)

/-- Fills a share from the next one, as long as there is room. So many cells may be moved. -/
def pullLeft (pieces : Array Piece) (isData : Bool) (room : Int) (i : Nat) : Nat → Shares → Shares
  | 0, shares => shares
  | most + 1, shares =>
    let (size, cut) := shares.getD i (0, 0)
    if pieces.size ≤ cut then shares
    else
      let gained := roomAt pieces cut
      if room < size + gained then shares
      else
        let lost := if isData then gained else roomAt pieces (cut + 1)
        let shares := shares.set! i (size + gained, cut + 1)
        let shares := match shares[i + 1]? with
          | some (nextSize, nextCut) => shares.set! (i + 1) (nextSize - lost, nextCut)
          | none => shares
        pullLeft pieces isData room i most shares

/-- Empties a share that is too full into the next one. So many cells may be moved. -/
def spill (pieces : Array Piece) (isData : Bool) (room : Int) (i : Nat) : Nat → Shares → Except EngineError Shares
  | 0, shares => .ok shares
  | most + 1, shares =>
    let (size, cut) := shares.getD i (0, 0)
    if size ≤ room then .ok shares
    else if cut = 0 ∨ (shares.size ≤ i + 1 ∧ mostShares ≤ i + 1) then .error .malformed
    else spill pieces isData room i most (pushRight pieces isData shares i)

/-- Makes every share fit, from the first one on, as full as possible. So many shares may follow. -/
def pack (pieces : Array Piece) (isData : Bool) (room : Int) : (left i : Nat) → Shares → Except EngineError Shares
  | 0, _, shares => .ok shares
  | left + 1, i, shares => do
    if shares.size ≤ i then return shares
    let shares ← spill pieces isData room i (pieces.size + 1) shares
    let shares := pullLeft pieces isData room i (pieces.size + 1) shares
    let (_, cut) := shares.getD i (0, 0)
    if pieces.size ≤ cut then return shares.take (i + 1)
    let before := if i = 0 then 0 else (shares.getD (i - 1) (0, 0)).2
    if cut ≤ before then throw .malformed
    pack pieces isData room left (i + 1) shares

/-- Moves cells from a share to the next one, which is less full, while that makes them more even. So many cells may be
moved. -/
def even (pieces : Array Piece) (isData isBulk isLast : Bool) : Nat → (left right : Int) → (cut : Nat) → Int × Int × Nat
  | 0, left, right, cut => (left, right, cut)
  | most + 1, left, right, cut =>
    if cut = 0 then (left, right, cut)
    else
      let lost := roomAt pieces (cut - 1)
      let gained := roomAt pieces (if isData then cut - 1 else cut)
      if right ≠ 0 ∧ (isBulk ∨ left - (lost - if isLast then 2 else 0) < right + gained) then (left, right, cut)
      else even pieces isData isBulk isLast most (left - lost) (right + gained) (cut - 1)

/-- Makes the shares more even, from the last one on. -/
def level (pieces : Array Piece) (isData isBulk : Bool) (shares : Shares) : Except EngineError Shares :=
  (List.range (shares.size - 1)).foldlM
    (fun result back => do
      let i := shares.size - 1 - back
      let (left, cut) := result.getD (i - 1) (0, 0)
      let (right, end_) := result.getD i (0, 0)
      let (left, right, cut) := even pieces isData isBulk (i + 1 == shares.size) (pieces.size + 1) left right cut
      let before := if i ≤ 1 then 0 else (result.getD (i - 2) (0, 0)).2
      if cut ≤ before then throw .malformed
      return (result.set! i (right, end_)).set! (i - 1) (left, cut))
    shares

/-- Puts numbers in order, smallest first. -/
def ascending (numbers : List Nat) : List Nat :=
  numbers.mergeSort (· ≤ ·)

/-! ## Nodes beside each other -/

open Pager

/-- Nodes beside each other, and what is between them in the node above. -/
structure Siblings where
  nodes : List Node
  dividers : List ByteArray
  /-- The index of the first of them below the node above. -/
  first : Nat
  /-- The place in the node above where the number of the last of them stands. -/
  link : Nat

/-- Takes the cells between nodes out of the node above, the last one first; so many are left. -/
def takeDividers (first : Nat) : Nat → Node → List ByteArray → Except EngineError (Node × List ByteArray)
  | 0, above, dividers => .ok (above, dividers)
  | left + 1, above, dividers => do
    match above.pending with
    | (index, cell) :: _ =>
      if index = first + left then takeDividers first left { above with pending := [] } (cell :: dividers)
      else
        let place := first + left - 1
        let cell := above.cell place
        takeDividers first left (← above.drop place cell.size) (cell :: dividers)
    | [] =>
      let place := first + left
      let cell := above.cell place
      takeDividers first left (← above.drop place cell.size) (cell :: dividers)

/-- The node at an index and those beside it, and the node above without what is between them. -/
def gather (above : Node) (index : Nat) (isBulk : Bool) : StorageM (Siblings × Node) := do
  let total := above.pending.length + above.count
  let wide := if isBulk then 1 else 2
  let between := if total < 2 then total else wide
  let first := if total < 2 ∨ index = 0 then 0 else if index = total then total - wide else index - 1
  let last := between + first - above.pending.length
  let link := if last = above.count then above.head + 8 else above.place last
  let number := above.page.get4 link
  let (rest, dividers) ← lift (takeDividers first between above [])
  let numbers := dividers.map fun cell => (Page.mk cell).get4 0
  let nodes ← (numbers ++ [number]).mapM measured
  if nodes.any (·.kind ≠ (nodes.head?.map Node.kind).getD 0) then throw .malformed
  return (⟨nodes, dividers, first, link⟩, rest)

/-- The pieces of nodes beside each other, with what is between them if that is not just numbers, and where those of each
node end. -/
def allPieces (siblings : Siblings) (isData : Bool) : Array Piece × List Nat :=
  let (pieces, ends) := (siblings.nodes.zipIdx).foldl
    (fun (pieces, ends) (node, self) =>
      let pieces := pieces ++ node.pieces self
      let ends := ends ++ [pieces.size]
      match isData, siblings.dividers[self]? with
      | false, some cell =>
        let cell :=
          if node.isLeaf then
            let short := cell.extract 4 cell.size
            if short.size < 4 then short ++ (Page.blank (4 - short.size)).bytes else short
          else Node.withChild cell node.lastChild
        (pieces.push ⟨cell, none⟩, ends)
      | _, _ => (pieces, ends))
    ((#[] : Array Piece), ([] : List Nat))
  (pieces, ends)

/-- The cell for the node above that belongs between a share and the next one, with the child to be filled in. -/
def divider (above : Node) (node : Node) (pieces : Array Piece) (isData : Bool) (cut : Nat) : ByteArray :=
  if isData then
    let key := match pieces[cut - 1]? with
      | some piece => (node.shapeIn ⟨piece.bytes⟩ 0).key
      | none => 0
    (Page.blank 4).bytes ++ ⟨(Varint.bytes key).toArray⟩
  else
    let cell := ((pieces[cut]?).map Piece.bytes).getD .empty
    if node.isLeaf then
      let longer := (Page.blank 4).bytes ++ cell
      if cell.size = 4 then longer.extract 0 (above.shapeIn ⟨longer⟩ 0).size else longer
    else cell

/-- More nodes of the kind of others, so many of them; a page near a number is preferred for the first, and near the one
before it for each other. -/
def moreNodes (kind : Nat) (isBulk : Bool) : Nat → Nat → StorageM (List Node)
  | 0, _ => return []
  | count + 1, near => do
    let number ← allocate (if isBulk then 1 else near)
    let node : Node := { number, page := ← page number, usable := (← get).usable }
    return node.cleared kind :: (← moreNodes kind isBulk count number)

/-- Shares out the cells of the node at an index below another one and those beside it. -/
def shareOut (aboveNumber index : Nat) (isTop isBulk : Bool) : StorageM Unit := do
  let (siblings, above) ← gather (← measured aboveNumber) index isBulk
  keep above
  let some model := siblings.nodes.head? | throw .malformed
  let isData := model.isTable && model.isLeaf
  let (pieces, ends) := allPieces siblings isData
  let room : Int := model.usable - if model.isLeaf then 8 else 12
  let old : Shares := ((siblings.nodes.zip ends).map fun (node, end_) =>
    (room - node.free + (node.pending.map fun (_, cell) => (cell.size + 2 : Int)).foldl (· + ·) 0, end_)).toArray
  let shares ← lift (pack pieces isData room mostShares 0 old)
  let shares ← lift (level pieces isData isBulk shares)
  siblings.nodes.take shares.size |>.forM fun node => put node.number node.page
  let oldCount := siblings.nodes.length
  let more ← moreNodes model.kind isBulk (shares.size - oldCount) model.number
  let nodes := siblings.nodes.take shares.size ++ more
  let numbers := ascending (nodes.map Node.number)
  let lastChild := (siblings.nodes.getLast?.map Node.lastChild).getD 0
  let above ← measured aboveNumber
  let above := above.withPage (above.page.put4 siblings.link (numbers.getLast?.getD 0))
  let (above, _) ← (List.range (shares.size - 1)).foldlM
    (fun (above, _) i => do
      match nodes[i]?, numbers[i]?, shares[i]? with
      | some node, some number, some (_, cut) =>
        let cell := Node.withChild (divider above node pieces isData cut) number
        return (← lift (above.insert (siblings.first + i) cell), ())
      | _, _, _ => throw .malformed)
    (above, ())
  keep above
  let cuts := shares.toList.map (·.2)
  let between := if isData then 0 else 1
  let edited ← ((nodes.zip numbers).zipIdx).mapM fun ((node, number), i) => do
    let cut := (cuts[i]?).getD 0
    let start := if i = 0 then 0 else (cuts[i - 1]?).getD 0 + between
    let oldStart := if i = 0 then 0 else if i < oldCount then (ends[i - 1]?).getD 0 + between else pieces.size
    let isLastNode := i + 1 = shares.size
    let page :=
      if node.isLeaf then node.page
      else if !isLastNode then node.page.put4 8 ((Page.mk (((pieces[cut]?).map Piece.bytes).getD .empty)).get4 0)
      else if oldCount ≠ shares.size then node.page.put4 8 lastChild
      else node.page
    let edited ← lift ((node.withPage page).edited i pieces oldStart start (cut - start))
    let free := room - ((shares[i]?).map (·.1)).getD 0
    return { edited with number, free := free.toNat }
  edited.forM keep
  let above ← measured aboveNumber
  match edited with
  | [only] =>
    if isTop ∧ above.count = 0 ∧ above.head ≤ only.free then
      let packed ← lift (only.defragment none)
      keep packed
      keep (above.withContentOf packed)
      Pager.free only.number
  | _ => pure ()
  (siblings.nodes.drop shares.size).forM fun node => Pager.free node.number

/-- Puts the last cell of a leaf of a table, which has found no room, on a leaf of its own behind the others. -/
def addLeaf (aboveNumber : Nat) (node : Node) (cell : ByteArray) : StorageM Unit := do
  if node.count = 0 then throw .malformed
  let number ← allocate 0
  let fresh : Node := { number, page := ← page number, usable := node.usable }
  keep (← lift ((fresh.cleared Node.tableLeaf).rebuilt [⟨cell, none⟩]))
  let key := (node.shape (node.count - 1)).key
  let above ← measured aboveNumber
  let cell := Node.withChild ((Page.blank 4).bytes ++ ⟨(Varint.bytes key).toArray⟩) node.number
  let above ← lift (above.insert above.count cell)
  keep (above.withPage (above.page.put4 (above.head + 8) number))
  keep { node with pending := [] }

/-- Puts a node between a topmost node that is too full and what is below it, and gives its number. -/
def deepen (root : Nat) : StorageM Nat := do
  let number ← allocate root
  let top ← measured root
  let fresh : Node := { number, page := ← page number, usable := top.usable }
  keep { fresh.withContentOf top with pending := top.pending }
  let top := top.cleared (top.kind % 8)
  keep (top.withPage (top.page.put4 (top.head + 8) number))
  return number

/-- Balances a node with those on the way to it, as far as that is needed, and gives the way to where it ended. So many
steps may be needed. -/
def run (isBulk : Bool) : (steps : Nat) → List (Nat × Nat) → Nat → StorageM (List (Nat × Nat))
  | 0, _, _ => throw .malformed
  | steps + 1, above, number => do
    let node ← measured number
    if node.pending.isEmpty ∧ 3 * node.free ≤ 2 * node.usable then return above
    match above with
    | [] =>
      if node.pending.isEmpty then return []
      let child ← deepen number
      run isBulk steps [(number, 0)] child
    | (aboveNumber, index) :: higher =>
      let parent ← measured aboveNumber
      match node.pending with
      | [(place, cell)] =>
        if node.isTable ∧ node.isLeaf ∧ place = node.count ∧ aboveNumber ≠ 1 ∧ parent.count = index then
          addLeaf aboveNumber node cell
        else shareOut aboveNumber index higher.isEmpty isBulk
      | _ => shareOut aboveNumber index higher.isEmpty isBulk
      run isBulk steps higher aboveNumber

end Balance

end SparseRows.Sql
