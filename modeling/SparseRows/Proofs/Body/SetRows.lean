import Mathlib.Algebra.Group.Nat.Defs
import Mathlib.Data.List.Nodup
import SparseRows.Proofs.Colons
import SparseRows.Proofs.Memory.Rows

/-!
# The rows of block sets

Where the sets of a body are and what their rows hold. The key of a set tells its place, its block id and its number, and the
column of a block its number (`setKey_inj`, `blockColumn_inj`), so the rows of different bodies are different rows.
-/

namespace SparseRows.Body.BlockSets

/-! ## Keys and columns -/

/-- Different sets are in different rows. -/
theorem setKey_inj {content content' : RowKey} {blockId blockId' : String} {index index' : Nat}
    (h : setKey content blockId index = setKey content' blockId' index') :
    content.space = content'.space ∧ content.table = content'.table ∧ blockId = blockId' ∧ index = index' := by
  simp only [setKey, RowKey.withKey, RowKey.mk.injEq] at h
  exact ⟨h.1, h.2.1, Text.numbered_inj h.2.2⟩

/-- Sets are in the same rows for all content of a table. -/
theorem setKey_congr {content content' : RowKey} (hspace : content.space = content'.space)
    (htable : content.table = content'.table) (blockId : String) (index : Nat) :
    setKey content blockId index = setKey content' blockId index := by
  simp only [setKey, RowKey.withKey, hspace, htable]

theorem toList_blockColumn (index : Nat) :
    (blockColumn index).toList = 'b' :: 'l' :: 'o' :: 'c' :: 'k' :: '-' :: index.repr.toList := by
  simp [blockColumn, String.toList_append]

/-- Different blocks are in different columns. -/
theorem blockColumn_inj {index index' : Nat} : blockColumn index = blockColumn index' ↔ index = index' := by
  refine ⟨fun h => ?_, fun h => h ▸ rfl⟩
  have hlist := congrArg String.toList h
  rw [toList_blockColumn, toList_blockColumn] at hlist
  simp only [List.cons.injEq, true_and] at hlist
  exact Nat.repr_injective (String.toList_inj.mp hlist)

/-- The column of a block is none of the three that describe the set. -/
theorem blockColumn_ne (index : Nat) : blockColumn index ≠ blockCountColumn ∧ blockColumn index ≠ blockSizeColumn ∧
    blockColumn index ≠ setLengthColumn := by
  refine ⟨fun h => ?_, fun h => ?_, fun h => ?_⟩
  all_goals
    have hlist := congrArg String.toList h
    rw [toList_blockColumn] at hlist
    simp [blockCountColumn, blockSizeColumn, setLengthColumn] at hlist

/-! ## The changes that store a set -/

section

variable (blocks : List Bytes) (changes : Changes)

/-- The blocks change no column but theirs. -/
theorem get?_putBlocks_of_ne (start : Nat) {name : String}
    (h : ∀ index, start ≤ index → index < start + blocks.length → name ≠ blockColumn index) :
    ((blocks.zipIdx start).foldl (fun acc (block, index) => acc.put (blockColumn index) (.binary block)) changes).get? name =
      changes.get? name := by
  induction blocks generalizing start changes with
  | nil => rfl
  | cons block blocks ih =>
    rw [List.length_cons] at h
    have hfirst := h start (Nat.le_refl _) (by omega)
    simp only [List.zipIdx_cons, List.foldl_cons]
    rw [ih _ _ fun index hindex hlt => h index (by omega) (by omega), Changes.get?_put, if_neg (Ne.symm hfirst)]

/-- A block comes to be in the column of its number. -/
theorem get?_putBlocks (start : Nat) {index : Nat} {block : Bytes} (h : blocks[index]? = some block) :
    ((blocks.zipIdx start).foldl (fun acc (block, index) => acc.put (blockColumn index) (.binary block)) changes).get?
      (blockColumn (start + index)) = some (.put (.binary block)) := by
  induction blocks generalizing start index changes with
  | nil => simp at h
  | cons first blocks ih =>
    simp only [List.zipIdx_cons, List.foldl_cons]
    cases index with
    | zero =>
      have hlater : ∀ i, start + 1 ≤ i → i < start + 1 + blocks.length → blockColumn (start + 0) ≠ blockColumn i := by
        intro i hi _ heq
        have := blockColumn_inj.mp heq
        omega
      rw [List.getElem?_cons_zero, Option.some.injEq] at h
      rw [get?_putBlocks_of_ne _ _ _ hlater, Nat.add_zero, Changes.get?_put, if_pos rfl, h]
    | succ index =>
      rw [List.getElem?_cons_succ] at h
      have hnext := ih (changes.put (blockColumn start) (.binary first)) (start + 1) h
      rwa [Nat.add_assoc, Nat.add_comm 1 index] at hnext

/-- Removing columns changes no other column. -/
theorem get?_removeBlocks_of_notMem {stale : List Nat} {name : String} (h : ∀ index ∈ stale, name ≠ blockColumn index) :
    (stale.foldl (fun acc index => acc.remove (blockColumn index)) changes).get? name = changes.get? name := by
  induction stale generalizing changes with
  | nil => rfl
  | cons index stale ih =>
    rw [List.foldl_cons, ih _ fun i hi => h i (List.mem_cons_of_mem _ hi), Changes.get?_remove,
      if_neg (Ne.symm (h index List.mem_cons_self))]

/-- A column that is removed is so whatever was to become of it. -/
theorem get?_removeBlocks_of_mem {stale : List Nat} {index : Nat} (h : index ∈ stale) :
    (stale.foldl (fun acc index => acc.remove (blockColumn index)) changes).get? (blockColumn index) = some .remove := by
  induction stale generalizing changes with
  | nil => cases h
  | cons first stale ih =>
    rw [List.foldl_cons]
    by_cases hlater : index ∈ stale
    · exact ih _ hlater
    · obtain rfl : index = first := (List.mem_cons.mp h).resolve_right hlater
      have hkept : ∀ i ∈ stale, blockColumn index ≠ blockColumn i := fun i hi heq => hlater (blockColumn_inj.mp heq ▸ hi)
      rw [get?_removeBlocks_of_notMem _ hkept, Changes.get?_remove, if_pos rfl]

end

/-- What becomes of the column of a block: it takes the block of its number, and if there is none, it is removed where the
row held so many before. -/
theorem get?_setChanges_blockColumn (layout : BlockSets) (blocks : List Bytes) (held index : Nat) :
    (layout.setChanges blocks held).get? (blockColumn index) =
      blocks[index]?.elim (if index < held then some .remove else none) fun block => some (.put (.binary block)) := by
  obtain ⟨hcount, hsize, hlength⟩ := blockColumn_ne index
  simp only [setChanges, Changes.get?_put, if_neg (Ne.symm hcount), if_neg (Ne.symm hsize), if_neg (Ne.symm hlength)]
  cases hblock : blocks[index]? with
  | some block =>
    have hlt : index < blocks.length := (List.getElem?_eq_some_iff.mp hblock).1
    have hkept : ∀ i ∈ List.range' blocks.length (held - blocks.length), blockColumn index ≠ blockColumn i := by
      intro i hi heq
      have := blockColumn_inj.mp heq
      have := (List.mem_range'_1.mp hi).1
      omega
    have hput := get?_putBlocks blocks .empty 0 hblock
    rw [Nat.zero_add] at hput
    rw [get?_removeBlocks_of_notMem _ hkept, hput]
    rfl
  | none =>
    have hle : blocks.length ≤ index := List.getElem?_eq_none_iff.mp hblock
    rw [Option.elim_none]
    split
    · exact get?_removeBlocks_of_mem _ (List.mem_range'_1.mpr ⟨hle, by omega⟩)
    · have hkept : ∀ i ∈ List.range' blocks.length (held - blocks.length), blockColumn index ≠ blockColumn i := by
        intro i hi heq
        have := blockColumn_inj.mp heq
        have := (List.mem_range'_1.mp hi).2
        omega
      have hno : ∀ i, 0 ≤ i → i < 0 + blocks.length → blockColumn index ≠ blockColumn i := by
        intro i _ hi heq
        have := blockColumn_inj.mp heq
        omega
      rw [get?_removeBlocks_of_notMem _ hkept, get?_putBlocks_of_ne _ _ _ hno, Changes.get?_empty]

/-- The changes are to columns of a set only. -/
theorem get?_setChanges_of_ne (layout : BlockSets) (blocks : List Bytes) (held : Nat) {name : String}
    (hblock : ∀ index, name ≠ blockColumn index) (hcount : name ≠ blockCountColumn) (hsize : name ≠ blockSizeColumn)
    (hlength : name ≠ setLengthColumn) : (layout.setChanges blocks held).get? name = none := by
  simp only [setChanges, Changes.get?_put, if_neg (Ne.symm hcount), if_neg (Ne.symm hsize), if_neg (Ne.symm hlength)]
  rw [get?_removeBlocks_of_notMem _ fun i _ => hblock i, get?_putBlocks_of_ne _ _ _ fun i _ _ => hblock i, Changes.get?_empty]

/-- A row holds a set of blocks: it tells their number and has each of them in its column. What else it has is left open. -/
def HoldsSet (row : Row) (blocks : List Bytes) : Prop :=
  row[blockCountColumn]? = some (.integer (Int64.ofNat blocks.length)) ∧
    ∀ index block, blocks[index]? = some block → row[blockColumn index]? = some (.binary block)

/-- What a set is stored by makes any row hold it. -/
theorem holdsSet_setChanges (layout : BlockSets) (blocks : List Bytes) (held : Nat) (row : Row) :
    HoldsSet ((layout.setChanges blocks held).applyTo row) blocks := by
  constructor
  · have h : (layout.setChanges blocks held).get? blockCountColumn = some (.put (.integer (Int64.ofNat blocks.length))) := by
      simp [setChanges, setLengthColumn, blockSizeColumn, blockCountColumn]
    rw [Changes.getElem?_applyTo, h]
    rfl
  · intro index block hblock
    rw [Changes.getElem?_applyTo, get?_setChanges_blockColumn, hblock]
    rfl

/-- A number that a word has room for is counted as it is. -/
theorem countIn_of_integer {row : Row} {column : String} {n : Nat} (h : row[column]? = some (.integer (Int64.ofNat n)))
    (hn : n < 2 ^ 63) : countIn row column = n := by
  rw [countIn, h]
  simp [Value.asInteger?, Int64.toInt_ofNat_of_lt hn]

/-! ## Rows that hold a set and nothing else -/

/-- The columns of a set of blocks: each block in the column of its number, the number of blocks, the size of a block and
the number of bytes. -/
def setColumns (blockSize : Nat) (blocks : List Bytes) : List (String × Value) :=
  blocks.zipIdx.map (fun (block, index) => (blockColumn index, .binary block)) ++
    [(blockCountColumn, .integer (Int64.ofNat blocks.length)), (blockSizeColumn, .integer (Int64.ofNat blockSize)),
     (setLengthColumn, .integer (Int64.ofNat (byteCount blocks)))]

/-- The row with the columns of a set and no other. -/
def setRow (blockSize : Nat) (blocks : List Bytes) : Row :=
  Row.ofList (setColumns blockSize blocks)

section

variable {blockSize : Nat} {blocks : List Bytes}

/-- The columns of a set are those of its blocks and the three that tell how they are cut. -/
theorem map_fst_setColumns (blockSize : Nat) (blocks : List Bytes) :
    (setColumns blockSize blocks).map (·.1) =
      (List.range' 0 blocks.length).map blockColumn ++ [blockCountColumn, blockSizeColumn, setLengthColumn] := by
  rw [setColumns, List.map_append, List.map_map, ← List.zipIdx_map_snd 0 blocks, List.map_map]
  rfl

/-- No two columns of a set have one name. -/
theorem nodup_setColumns (blockSize : Nat) (blocks : List Bytes) : ((setColumns blockSize blocks).map (·.1)).Nodup := by
  rw [map_fst_setColumns]
  refine List.nodup_append.mpr ⟨List.Nodup.map (fun _ _ => blockColumn_inj.mp) List.nodup_range', by decide, ?_⟩
  intro column hcolumn name hname
  obtain ⟨index, -, rfl⟩ := List.mem_map.mp hcolumn
  obtain ⟨hcount, hsize, hlength⟩ := blockColumn_ne index
  simp only [List.mem_cons, List.not_mem_nil, or_false] at hname
  rcases hname with rfl | rfl | rfl
  · exact hcount
  · exact hsize
  · exact hlength

/-- The row of a set has every block in the column of its number, and no block where there is none. -/
theorem getElem?_setRow_blockColumn (index : Nat) : (setRow blockSize blocks)[blockColumn index]? = blocks[index]?.map .binary := by
  cases hblock : blocks[index]? with
  | some block =>
    refine Row.getElem?_ofList_of_mem (nodup_setColumns blockSize blocks) (List.mem_append_left _ ?_)
    exact List.mem_map.mpr ⟨(block, index), List.mem_zipIdx_iff_getElem?.mpr hblock, rfl⟩
  | none =>
    refine Row.getElem?_ofList_of_notMem fun hmem => ?_
    obtain ⟨hcount, hsize, hlength⟩ := blockColumn_ne index
    rw [map_fst_setColumns, List.mem_append] at hmem
    rcases hmem with hmem | hmem
    · obtain ⟨i, hi, heq⟩ := List.mem_map.mp hmem
      have hlt := (List.mem_range'_1.mp (blockColumn_inj.mp heq ▸ hi)).2
      have hle := List.getElem?_eq_none_iff.mp hblock
      omega
    · simp [hcount, hsize, hlength] at hmem

/-- The row of a set tells how many blocks it has. -/
theorem getElem?_setRow_blockCount :
    (setRow blockSize blocks)[blockCountColumn]? = some (.integer (Int64.ofNat blocks.length)) :=
  Row.getElem?_ofList_of_mem (nodup_setColumns blockSize blocks) (by simp [setColumns])

/-- It tells the size of a block. -/
theorem getElem?_setRow_blockSize : (setRow blockSize blocks)[blockSizeColumn]? = some (.integer (Int64.ofNat blockSize)) :=
  Row.getElem?_ofList_of_mem (nodup_setColumns blockSize blocks) (by simp [setColumns])

/-- It tells how many bytes its blocks have. -/
theorem getElem?_setRow_setLength :
    (setRow blockSize blocks)[setLengthColumn]? = some (.integer (Int64.ofNat (byteCount blocks))) :=
  Row.getElem?_ofList_of_mem (nodup_setColumns blockSize blocks) (by simp [setColumns])

/-- The row of a set has no other column. -/
theorem getElem?_setRow_of_ne {name : String} (hblock : ∀ index, name ≠ blockColumn index) (hcount : name ≠ blockCountColumn)
    (hsize : name ≠ blockSizeColumn) (hlength : name ≠ setLengthColumn) : (setRow blockSize blocks)[name]? = none := by
  refine Row.getElem?_ofList_of_notMem fun hmem => ?_
  rw [map_fst_setColumns, List.mem_append] at hmem
  rcases hmem with hmem | hmem
  · obtain ⟨index, -, heq⟩ := List.mem_map.mp hmem
    exact hblock index heq.symm
  · simp [hcount, hsize, hlength] at hmem

/-- Whether a row is empty or holds a set and nothing else. A word has room for the number of its blocks. -/
def IsSetRow (row : Row) : Prop :=
  row = ∅ ∨ ∃ blockSize blocks, row = setRow blockSize blocks ∧ blocks.length < 2 ^ 63

theorem isSetRow_empty : IsSetRow ∅ :=
  .inl rfl

/-- The row of a set is one, as long as its blocks can be counted in a word. -/
theorem isSetRow_setRow (blockSize : Nat) {blocks : List Bytes} (h : blocks.length < 2 ^ 63) : IsSetRow (setRow blockSize blocks) :=
  .inr ⟨blockSize, blocks, rfl, h⟩

/-- Such a row has no block beyond the number that it tells. -/
theorem IsSetRow.getElem?_blockColumn {row : Row} (h : IsSetRow row) {index : Nat} (hindex : countIn row blockCountColumn ≤ index) :
    row[blockColumn index]? = none := by
  rcases h with rfl | ⟨blockSize, old, rfl, hlength⟩
  · exact Std.ExtTreeMap.getElem?_empty
  · rw [countIn_of_integer getElem?_setRow_blockCount hlength] at hindex
    rw [getElem?_setRow_blockColumn, List.getElem?_eq_none_iff.mpr hindex]
    rfl

/-- Such a row has no columns but those of a set. -/
theorem IsSetRow.getElem?_of_ne {row : Row} (h : IsSetRow row) {name : String} (hblock : ∀ index, name ≠ blockColumn index)
    (hcount : name ≠ blockCountColumn) (hsize : name ≠ blockSizeColumn) (hlength : name ≠ setLengthColumn) : row[name]? = none := by
  rcases h with rfl | ⟨blockSize, old, rfl, -⟩
  · exact Std.ExtTreeMap.getElem?_empty
  · exact getElem?_setRow_of_ne hblock hcount hsize hlength

/-- Storing a set in such a row leaves the row with the columns of the set and no other. -/
theorem IsSetRow.applyTo_setChanges {row : Row} (h : IsSetRow row) (layout : BlockSets) (blocks : List Bytes) :
    (layout.setChanges blocks (countIn row blockCountColumn)).applyTo row = setRow layout.blockSize blocks := by
  refine Std.ExtTreeMap.ext_getElem? fun name => ?_
  rw [Changes.getElem?_applyTo]
  by_cases hblock : ∃ index, name = blockColumn index
  · obtain ⟨index, rfl⟩ := hblock
    rw [get?_setChanges_blockColumn, getElem?_setRow_blockColumn]
    cases blocks[index]? with
    | some block => rfl
    | none =>
      rw [Option.elim_none]
      split
      · rfl
      · exact h.getElem?_blockColumn (by omega)
  · have hblock : ∀ index, name ≠ blockColumn index := fun index heq => hblock ⟨index, heq⟩
    by_cases hcount : name = blockCountColumn
    · subst hcount
      rw [getElem?_setRow_blockCount]
      simp [setChanges, setLengthColumn, blockSizeColumn, blockCountColumn, Change.value?]
    by_cases hsize : name = blockSizeColumn
    · subst hsize
      rw [getElem?_setRow_blockSize]
      simp [setChanges, setLengthColumn, blockSizeColumn, Change.value?]
    by_cases hlength : name = setLengthColumn
    · subst hlength
      rw [getElem?_setRow_setLength]
      simp [setChanges, Change.value?]
    rw [get?_setChanges_of_ne layout blocks _ hblock hcount hsize hlength, getElem?_setRow_of_ne hblock hcount hsize hlength]
    exact h.getElem?_of_ne hblock hcount hsize hlength

/-- The row of a set is not empty, even that of a set without blocks. -/
theorem setRow_ne_empty (blockSize : Nat) (blocks : List Bytes) : setRow blockSize blocks ≠ ∅ := by
  intro h
  have hcolumn : (setRow blockSize blocks)[blockCountColumn]? = _ := getElem?_setRow_blockCount
  rw [h, Std.ExtTreeMap.getElem?_empty] at hcolumn
  cases hcolumn

end

end SparseRows.Body.BlockSets
