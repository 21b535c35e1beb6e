import SparseRows.Action
import SparseRows.Body.Metadata
import SparseRows.Body.Source

/-!
# Bodies in block sets

A body is cut into blocks of one size, and so many blocks share a row, each in a binary column of its own. The row of a set also
holds the number of its blocks, the size of a block and the number of its bytes, and its key is the block id with the number of
the set. One set is in memory at a time, so a body that cannot be read to its end leaves the sets before the failure behind.
-/

namespace SparseRows.Body

/-- The layout of bodies in block sets. A block holds at least one byte and a set at least one block. -/
structure BlockSets where
  blockSize : Nat
  blocksPerSet : Nat
  logger : Logger
  blockSize_pos : 0 < blockSize := by omega
  blocksPerSet_pos : 0 < blocksPerSet := by omega

namespace BlockSets

/-- The layout with these sizes, where zero counts as one. -/
def ofSizes (blockSize blocksPerSet : Nat) (logger : Logger) : BlockSets :=
  { blockSize := max blockSize 1, blocksPerSet := max blocksPerSet 1, logger }

/-- The column of a block. -/
def blockColumn (index : Nat) : String :=
  "block-" ++ index.repr

/-- The column with the number of blocks in a set. -/
def blockCountColumn : String := "numblocks"

/-- The column with the number of bytes in a set. -/
def setLengthColumn : String := "blocklength"

/-- The row of a block set, in the table of the content row. -/
def setKey (content : RowKey) (blockId : String) (index : Nat) : RowKey :=
  content.withKey (blockId ++ ":" ++ index.repr)

/-- The number of bytes in some blocks. -/
def byteCount (blocks : List Bytes) : Nat :=
  blocks.flatten.length

/-- The changes that make a row hold these blocks and no other, where it held so many before. -/
def setChanges (layout : BlockSets) (blocks : List Bytes) (held : Nat) : Changes :=
  let changes := blocks.zipIdx.foldl (fun acc (block, index) => acc.put (blockColumn index) (.binary block)) Changes.empty
  let stale := List.range' blocks.length (held - blocks.length)
  let changes := stale.foldl (fun acc index => acc.remove (blockColumn index)) changes
  changes
    |>.put blockCountColumn (.integer (Int64.ofNat blocks.length))
    |>.put blockSizeColumn (.integer (Int64.ofNat layout.blockSize))
    |>.put setLengthColumn (.integer (Int64.ofNat (byteCount blocks)))

variable {σ : Type} (layout : BlockSets) (rows : RowAccess σ) (content : RowKey) (blockId : String)

/-- Stores the sets of a body in turn, from the one of this number on. -/
def writeSets (index : Nat) : List (List Bytes) → Action σ StorageError Unit
  | [] => pure ()
  | blocks :: sets => do
    let key := setKey content blockId index
    let set ← rows.get key
    rows.insert key (layout.setChanges blocks (countIn set blockCountColumn))
    writeSets (index + 1) sets

/-- Removes the rows of at most so many sets, from the one of this number on, up to the first that is empty. The empty row is
removed too, because asking for it may have made it. -/
def removeSets : (most index : Nat) → Action σ StorageError Unit
  | 0, _ => pure ()
  | most + 1, index => do
    let key := setKey content blockId index
    let set ← rows.get key
    rows.remove key
    if set.isEmpty then pure () else removeSets most (index + 1)

/-- Removes the rows of all sets from the one of this number on, up to the first that is empty. No more of them can hold
something than the store has rows. -/
def removeSetsFrom (first : Nat) : Action σ StorageError Unit := do
  removeSets rows content blockId (rows.mostRows (← currentState) + 1) first

/-- Stores a body and gives the columns that its content row is to record. -/
def write (source : Source) (now : Int64) : Action σ StorageError Row := do
  let (sets, failure) := source.blockSets layout.blockSize_pos layout.blocksPerSet
  layout.writeSets rows content blockId 0 sets
  if let some text := failure then
    throw (.ofIo .bodyUnreadable (.stream text))
  removeSetsFrom rows content blockId sets.length
  let length := byteCount sets.flatten
  log layout.logger .trace .bodyWritten
    [("block_id", blockId), ("content_id", content.key), ("length", length.repr), ("nblocks", sets.length.repr)]
  return Row.ofList
    [(blockIdColumn, .text blockId), (setCountColumn, .integer (Int64.ofNat sets.length)),
     (lengthColumn, .integer (Int64.ofNat length)), (blockSizeColumn, .integer (Int64.ofNat layout.blockSize)),
     (modifiedColumn, .integer now)]

/-- The blocks of a set that is stored in a row, from the block of this number on. -/
def blocksOf (key : RowKey) (set : Row) : (count index : Nat) → Except StorageError Bytes
  | 0, _ => .ok []
  | count + 1, index => do
    match set[blockColumn index]?.bind Value.asBytes? with
    | some block => return block ++ (← blocksOf key set count (index + 1))
    | none => throw (StorageError.ofIo (.blockMissing index key.key) .truncatedBody |>.forRow key)

/-- The bytes of so many sets out of `total`, from the one of this number on. -/
def readSets (total : Nat) : (left index : Nat) → Action σ StorageError Bytes
  | 0, _ => pure []
  | left + 1, index => do
    let key := setKey content blockId index
    let set ← rows.get key
    let count := countIn set blockCountColumn
    if count = 0 ∨ layout.blocksPerSet < count then
      throw (StorageError.ofIo (.blockSetMalformed index total) .badBlockSet |>.forRow key)
    let bytes ← blocksOf key set count 0
    return bytes ++ (← readSets total left (index + 1))

/-- The body that a content row records. A set that is missing, holds no block or holds more than one can is an error, and so is
a missing block. -/
def read (record : Row) : Action σ StorageError Bytes := do
  let total := countIn record setCountColumn
  let bytes ← layout.readSets rows content blockId total total 0
  log layout.logger .trace .bodyRead [("block_id", blockId), ("length", bytes.length.repr)]
  return bytes

end BlockSets

end SparseRows.Body
