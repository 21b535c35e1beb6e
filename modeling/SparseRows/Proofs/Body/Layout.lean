import SparseRows.Proofs.Body.Removal
import SparseRows.Proofs.Body.RoundTrip

/-!
# How bodies lie in a store

Storing a body leaves its sets in their rows and no trace of what was stored under the same id before, be it longer, cut
differently or broken off by a failure. Only the number of blocks that a row tells and the first empty row show what has to
be removed. This is enough because of `Laid`, which every step of a run keeps: a row holds a set and nothing else, and
behind an empty row there is nothing.
-/

namespace SparseRows

open Body Body.BlockSets StoreStep Std

namespace Body.BlockSets

/-! ## What a body is cut into -/

/-- The sets of blocks that bytes are cut into: blocks and sets are as large as they can be, none is empty, and there are no
more sets than it takes. -/
structure Cut (layout : BlockSets) (bytes : Bytes) (sets : List (List Bytes)) : Prop where
  flatten : sets.flatten.flatten = bytes
  length :
    sets.length = (bytes.length + layout.blockSize * layout.blocksPerSet - 1) / (layout.blockSize * layout.blocksPerSet)
  set : ∀ blocks ∈ sets, 1 ≤ blocks.length ∧ blocks.length ≤ layout.blocksPerSet
  fullSet : ∀ index blocks, sets[index]? = some blocks → index + 1 < sets.length → blocks.length = layout.blocksPerSet
  block : ∀ block ∈ sets.flatten, 1 ≤ block.length ∧ block.length ≤ layout.blockSize
  fullBlock :
    ∀ index block, sets.flatten[index]? = some block → index + 1 < sets.flatten.length → block.length = layout.blockSize

/-- The pieces of the pieces of bytes are such sets. -/
theorem cut_pieces (layout : BlockSets) (bytes : Bytes) :
    layout.Cut bytes (pieces layout.blocksPerSet (pieces layout.blockSize bytes)) where
  flatten := by rw [flatten_pieces, flatten_pieces]
  length := length_pieces_pieces layout.blockSize_pos layout.blocksPerSet_pos bytes
  set _ h := length_of_mem_pieces layout.blocksPerSet_pos h
  fullSet _ _ h hnext := length_of_getElem?_pieces layout.blocksPerSet_pos h hnext
  block _ h := by
    rw [flatten_pieces] at h
    exact length_of_mem_pieces layout.blockSize_pos h
  fullBlock index block h hnext := by
    rw [flatten_pieces] at h hnext
    exact length_of_getElem?_pieces layout.blockSize_pos h hnext

/-! ## Rows of sets without a gap -/

variable {layout : BlockSets} {content : RowKey} {blockId : String} {store : MemoryStore}

/-- How the rows of a block id lie: each is empty or holds a set and nothing else, and behind an empty one there is nothing. -/
structure Laid (content : RowKey) (blockId : String) (store : MemoryStore) : Prop where
  isSetRow : ∀ index, IsSetRow (store.row (setKey content blockId index))
  empty_of_le : ∀ {index later}, index ≤ later → store.row (setKey content blockId index) = ∅ →
    store.row (setKey content blockId later) = ∅

/-- Rows lie so as long as they are the same. -/
theorem Laid.congr {store' : MemoryStore} (h : Laid content blockId store)
    (hsame : ∀ index, store'.row (setKey content blockId index) = store.row (setKey content blockId index)) :
    Laid content blockId store' where
  isSetRow index := hsame index ▸ h.isSetRow index
  empty_of_le hle hempty := by
    rw [hsame] at hempty ⊢
    exact h.empty_of_le hle hempty

/-- Rows lie so for all content of a table. -/
theorem Laid.of_table {content' : RowKey} (h : Laid content blockId store) (hspace : content.space = content'.space)
    (htable : content.table = content'.table) : Laid content' blockId store where
  isSetRow index := setKey_congr hspace htable blockId index ▸ h.isSetRow index
  empty_of_le {index later} hle := by
    rw [← setKey_congr hspace htable blockId index, ← setKey_congr hspace htable blockId later]
    exact h.empty_of_le hle

/-- Rows that hold some sets, one after the other from the first on, and before which or behind which there is nothing, lie
so. -/
theorem laid_of_rows {sets : List (List Bytes)} {blockSize : Nat} (hwords : ∀ blocks ∈ sets, blocks.length < 2 ^ 63)
    (h : ∀ index, store.row (setKey content blockId index) = sets[index]?.elim ∅ (setRow blockSize)) :
    Laid content blockId store where
  isSetRow index := by
    rw [h]
    cases hset : sets[index]? with
    | none => exact isSetRow_empty
    | some blocks => exact isSetRow_setRow blockSize (hwords blocks (List.mem_of_getElem? hset))
  empty_of_le {index later} hle hempty := by
    rw [h] at hempty ⊢
    cases hset : sets[index]? with
    | none =>
      have hlater : sets[later]? = none := by
        rw [List.getElem?_eq_none_iff] at hset ⊢
        omega
      rw [hlater]
      rfl
    | some blocks =>
      rw [hset] at hempty
      exact absurd hempty (setRow_ne_empty _ blocks)

/-- Storing sets puts each into its row and nothing else, and leaves the rows behind them. -/
theorem row_storeSets (layout : BlockSets) (start : Nat) (sets : List (List Bytes))
    (h : ∀ index, start ≤ index → IsSetRow (store.row (setKey content blockId index))) (index : Nat) :
    (layout.storeSets content blockId start sets store).row (setKey content blockId (start + index)) =
      sets[index]?.elim (store.row (setKey content blockId (start + index))) (setRow layout.blockSize) := by
  induction sets generalizing start store index with
  | nil => rfl
  | cons blocks sets ih =>
    have hlater : ∀ i, start + 1 ≤ i → setKey content blockId start ≠ setKey content blockId i := by
      intro i hi heq
      have := (setKey_inj heq).2.2.2
      omega
    cases index with
    -- The sets that follow are in other rows than the first one.
    | zero =>
      have hout : Outside content blockId (start + 1) (setKey content blockId start) := fun i hi heq => hlater i hi heq.symm
      rw [Nat.add_zero, storeSets, MemoryStore.row, getElem?_storeSets _ hout, ExtTreeMap.getElem?_insert_self, Option.getD_some,
        (h start (Nat.le_refl _)).applyTo_setChanges]
      rfl
    | succ index =>
      have hrows : ∀ i, start + 1 ≤ i →
          IsSetRow (MemoryStore.row (store.insert (setKey content blockId start)
            ((layout.setChanges blocks (countIn (store.row (setKey content blockId start)) blockCountColumn)).applyTo
              (store.row (setKey content blockId start)))) (setKey content blockId i)) := by
        intro i hi
        rw [MemoryStore.row_insert, if_neg (hlater i hi)]
        exact h i (by omega)
      have hrest := ih (start + 1) hrows index
      rw [MemoryStore.row_insert, if_neg (hlater _ (by omega)), Nat.add_assoc, Nat.add_comm 1 index] at hrest
      rwa [storeSets, List.getElem?_cons_succ]

/-- Removing sets from rows without a gap leaves nothing from the first one removed on. -/
theorem row_dropSets {most first : Nat} (h : Laid content blockId store) (hsize : store.size < most) (index : Nat) :
    (dropSets content blockId most first store).row (setKey content blockId index) =
      if index < first then store.row (setKey content blockId index) else ∅ := by
  obtain ⟨stop, hstop, hnear⟩ := exists_stopsAt content blockId first store
  have hbound : stop < first + most := by omega
  have hremoved := removed_dropSets hstop hbound
  have hother : ¬(first ≤ index ∧ index ≤ stop) →
      (dropSets content blockId most first store).row (setKey content blockId index) =
        store.row (setKey content blockId index) := by
    intro hout
    rw [MemoryStore.row, hremoved.kept, MemoryStore.row]
    intro i hi hlast heq
    obtain ⟨-, -, -, rfl⟩ := setKey_inj heq
    exact hout ⟨hi, hlast⟩
  split
  · exact hother (by omega)
  · by_cases hlast : index ≤ stop
    · rw [MemoryStore.row, hremoved.gone index (by omega) hlast]
      rfl
    · rw [hother (by omega)]
      exact h.empty_of_le (by omega) hstop.empty

/-- Sets that are stored over rows without a gap leave none. -/
theorem Laid.storeSets (h : Laid content blockId store) {sets : List (List Bytes)}
    (hwords : ∀ blocks ∈ sets, blocks.length < 2 ^ 63) :
    Laid content blockId (layout.storeSets content blockId 0 sets store) := by
  have hrow := row_storeSets layout 0 sets fun index _ => h.isSetRow index
  simp only [Nat.zero_add] at hrow
  constructor
  · intro index
    rw [hrow]
    cases hset : sets[index]? with
    | none => exact h.isSetRow index
    | some blocks => exact isSetRow_setRow layout.blockSize (hwords blocks (List.mem_of_getElem? hset))
  · intro index later hle hempty
    rw [hrow] at hempty ⊢
    cases hset : sets[index]? with
    | none =>
      have hlater : sets[later]? = none := by
        rw [List.getElem?_eq_none_iff] at hset ⊢
        omega
      rw [hset] at hempty
      rw [hlater]
      exact h.empty_of_le hle hempty
    | some blocks =>
      rw [hset] at hempty
      exact absurd hempty (setRow_ne_empty _ blocks)

/-- Once sets are stored over rows without a gap and the rows behind them are removed, the rows hold these sets and nothing
else. -/
theorem row_dropSets_storeSets (h : Laid content blockId store) {sets : List (List Bytes)}
    (hwords : ∀ blocks ∈ sets, blocks.length < 2 ^ 63) (index : Nat) :
    let stored := layout.storeSets content blockId 0 sets store
    (dropSets content blockId (stored.size + 1) sets.length stored).row (setKey content blockId index) =
      sets[index]?.elim ∅ (setRow layout.blockSize) := by
  intro stored
  have hrow := row_storeSets layout 0 sets (fun index _ => h.isSetRow index) index
  rw [Nat.zero_add] at hrow
  rw [row_dropSets (h.storeSets hwords) (Nat.lt_succ_self _), hrow]
  split
  · next hlt => rw [List.getElem?_eq_getElem hlt]; rfl
  · next hge => rw [List.getElem?_eq_none_iff.mpr (by omega)]; rfl

end Body.BlockSets

namespace BodyWrite

variable (body : BodyWrite)

/-- The sets that a source is read in, to its end or up to a failure, have no more blocks than there are or than a set takes. -/
theorem length_of_mem_blockSets {blocks : List Bytes}
    (h : blocks ∈ (body.source.blockSets body.layout.blockSize_pos body.layout.blocksPerSet).1) :
    blocks.length ≤ min body.layout.blocksPerSet body.blockCount := by
  cases hends : body.source.contents.2 with
  | none =>
    rw [Source.blockSets_of_ends body.layout.blockSize_pos body.layout.blocksPerSet_pos hends] at h
    exact (body.length_of_mem_sets h).2
  | some text =>
    rw [Source.blockSets_of_fails body.layout.blockSize_pos body.layout.blocksPerSet_pos hends] at h
    refine Nat.le_min.mpr ⟨(length_of_mem_pieces body.layout.blocksPerSet_pos h).2, ?_⟩
    refine Nat.le_trans (length_le_of_mem_pieces h) ?_
    rw [length_pieces body.layout.blockSize_pos, blockCount, bytes, List.length_take]
    exact Nat.div_le_div_right (by omega)

/-- Storing a body, whether it succeeds or fails, leaves no gap where there was none. -/
theorem write_laid (client : MemoryClient) {store : MemoryStore} (h : Laid body.content body.blockId store)
    (hwords : min body.layout.blocksPerSet body.blockCount < 2 ^ 63) :
    ∃ result store', (StoreStep.action ⟨client, .write body⟩).Gives store result store' ∧
      Laid body.content body.blockId store' := by
  have hlengths : ∀ blocks ∈ (body.source.blockSets body.layout.blockSize_pos body.layout.blocksPerSet).1,
      blocks.length < 2 ^ 63 := by
    intro blocks hblocks
    have := body.length_of_mem_blockSets hblocks
    omega
  cases hsets : body.source.blockSets body.layout.blockSize_pos body.layout.blocksPerSet with
  | mk sets failure =>
    rw [hsets] at hlengths
    cases failure with
    | some text => exact ⟨_, _, .bind_error (write_gives_error hsets body.now store), h.storeSets hlengths⟩
    | none =>
      exact ⟨_, _, .bind (write_gives hsets body.now store) .pure,
        laid_of_rows hlengths (row_dropSets_storeSets h hlengths)⟩

/-- Once a body is stored over rows without a gap, the rows hold its sets and nothing else. -/
theorem row_write {client : MemoryClient} {s : Logged MemoryStore} {metadata : Row}
    (h : Laid body.content body.blockId s.state) (hwords : min body.layout.blocksPerSet body.blockCount < 2 ^ 63)
    (hok : reply ⟨client, .write body⟩ s = .ok (.stored metadata)) (index : Nat) :
    (after s [⟨client, .write body⟩]).state.row (setKey body.content body.blockId index) =
      body.sets[index]?.elim ∅ (setRow body.layout.blockSize) := by
  cases hends : body.source.contents.2 with
  | some text =>
    obtain ⟨e, he⟩ := body.write_fails hends client s
    rw [he] at hok
    cases hok
  | none =>
    have hsets : body.source.blockSets body.layout.blockSize_pos body.layout.blocksPerSet = (body.sets, none) :=
      Source.blockSets_of_ends body.layout.blockSize_pos body.layout.blocksPerSet_pos hends
    have hlengths : ∀ blocks ∈ body.sets, blocks.length < 2 ^ 63 := by
      intro blocks hblocks
      have := (body.length_of_mem_sets hblocks).2
      omega
    have hgives : (StoreStep.action ⟨client, .write body⟩).Gives s.state (.ok (.stored body.record)) _ :=
      .bind (write_gives hsets body.now s.state) .pure
    have hstate : (after s [⟨client, .write body⟩]).state = _ := (hgives.run_eq s.journal).2
    rw [hstate, row_dropSets_storeSets h hlengths]

end BodyWrite

namespace StoreStep

variable {content : RowKey} {blockId : String}

/-- A step that names no row of a block id leaves no gap in these rows where there was none, be it that a body is stored
under this id or anything else. -/
theorem laid_step {step : StoreStep} {s : Logged MemoryStore} (h : Laid content blockId s.state)
    (hapart : ∀ key, step.op.key? = some key → ∀ index, key ≠ setKey content blockId index)
    (hwords : ∀ body, step.op = .write body → step.op.WritesTo content blockId →
      min body.layout.blocksPerSet body.blockCount < 2 ^ 63) :
    Laid content blockId (step.action.attempt.run s).2.state := by
  by_cases hwrites : step.op.WritesTo content blockId
  · obtain ⟨client, op⟩ := step
    cases op with
    | row op => exact hwrites.elim
    | read layout content blockId record => exact hwrites.elim
    | write body =>
      have hword := hwords body rfl hwrites
      obtain ⟨hspace, htable, rfl⟩ := hwrites
      obtain ⟨result, store', hgives, hlaid⟩ := body.write_laid client (h.of_table hspace.symm htable.symm) hword
      rw [(hgives.run_eq s.journal).2]
      exact hlaid.of_table hspace htable
  · obtain ⟨result, store', hgives, hframe⟩ := step.action_frame s.state
    rw [(hgives.run_eq s.journal).2]
    refine h.congr fun index => hframe _ fun htouch => ?_
    obtain ⟨client, op⟩ := step
    cases op with
    | row op => exact hapart op.key rfl index htouch
    | read layout content blockId record => exact htouch
    | write body =>
      obtain ⟨i, hi⟩ := htouch
      obtain ⟨hspace, htable, hid, -⟩ := setKey_inj hi
      exact hwrites ⟨hspace, htable, hid⟩

/-- A run of such steps leaves no gap where there was none. -/
theorem laid_after {steps : List StoreStep} {s : Logged MemoryStore} (h : Laid content blockId s.state)
    (hapart : ∀ step ∈ steps, ∀ key, step.op.key? = some key → ∀ index, key ≠ setKey content blockId index)
    (hwords : ∀ step ∈ steps, ∀ body, step.op = .write body → step.op.WritesTo content blockId →
      min body.layout.blocksPerSet body.blockCount < 2 ^ 63) : Laid content blockId (after s steps).state := by
  induction steps generalizing s with
  | nil => exact h
  | cons step steps ih =>
    rw [after_cons]
    exact ih (laid_step h (hapart step List.mem_cons_self) (hwords step List.mem_cons_self))
      (fun later hlater => hapart later (List.mem_cons_of_mem _ hlater))
      fun later hlater => hwords later (List.mem_cons_of_mem _ hlater)

/-- A body that is stored at the end of such a run, which began without any row of its id, has its sets in these rows and
nothing else besides. -/
theorem row_of_write {s : Logged MemoryStore} {earlier : List StoreStep} {writer : MemoryClient} {body : BodyWrite} {metadata : Row}
    (hfresh : ∀ index, s.state.row (setKey body.content body.blockId index) = ∅)
    (hapart : ∀ step ∈ earlier, ∀ key, step.op.key? = some key → ∀ index, key ≠ setKey body.content body.blockId index)
    (hwords : ∀ step ∈ earlier ++ [⟨writer, .write body⟩], ∀ other, step.op = .write other →
      step.op.WritesTo body.content body.blockId → min other.layout.blocksPerSet other.blockCount < 2 ^ 63)
    (hok : reply ⟨writer, .write body⟩ (after s earlier) = .ok (.stored metadata)) (index : Nat) :
    (after s (earlier ++ [⟨writer, .write body⟩])).state.row (setKey body.content body.blockId index) =
      body.sets[index]?.elim ∅ (setRow body.layout.blockSize) := by
  have hempty : Laid body.content body.blockId s.state := ⟨fun index => hfresh index ▸ isSetRow_empty, fun _ _ => hfresh _⟩
  have hlaid : Laid body.content body.blockId (after s earlier).state :=
    laid_after hempty hapart fun step hstep => hwords step (List.mem_append_left _ hstep)
  rw [after_append]
  exact body.row_write hlaid (hwords ⟨writer, .write body⟩ (by simp) body rfl ⟨rfl, rfl, rfl⟩) hok index

end StoreStep

/-- Once a body is stored, its sets are in their rows with nothing beside them, the rows behind them are empty, and what is
to be recorded tells their number and the length of the body. The sets and what is recorded, but for the time, depend on the
bytes and the layout alone: on neither what was stored under the id before, by writes that succeeded or failed and in
whatever layouts, nor how the source delivers the bytes. No row operation names a row of the id in the course of the run.
The blocks of a set are counted in words of 64 bits. -/
theorem layout_of_write (s : Logged MemoryStore) (earlier : List StoreStep) (writer : MemoryClient) (body : BodyWrite)
    (metadata : Row) (hfresh : ∀ index, s.state.row (setKey body.content body.blockId index) = ∅)
    (hapart : ∀ step ∈ earlier, ∀ key, step.op.key? = some key → ∀ index, key ≠ setKey body.content body.blockId index)
    (hwords : ∀ step ∈ earlier ++ [⟨writer, .write body⟩], ∀ other, step.op = .write other →
      step.op.WritesTo body.content body.blockId → min other.layout.blocksPerSet other.blockCount < 2 ^ 63)
    (hok : reply ⟨writer, .write body⟩ (after s earlier) = .ok (.stored metadata)) :
    let row index := (after s (earlier ++ [⟨writer, .write body⟩])).state.row (setKey body.content body.blockId index)
    let sets := pieces body.layout.blocksPerSet (pieces body.layout.blockSize body.bytes)
    body.layout.Cut body.bytes sets ∧
      (∀ index, row index ≠ ∅ ↔ index < sets.length) ∧
      (∀ index blocks, sets[index]? = some blocks → row index = setRow body.layout.blockSize blocks) ∧
      metadata = Row.ofList
        [(blockIdColumn, .text body.blockId), (setCountColumn, .integer (Int64.ofNat sets.length)),
         (lengthColumn, .integer (Int64.ofNat body.bytes.length)),
         (blockSizeColumn, .integer (Int64.ofNat body.layout.blockSize)), (modifiedColumn, .integer body.now)] := by
  intro row sets
  have hempty : Laid body.content body.blockId s.state :=
    ⟨fun index => hfresh index ▸ isSetRow_empty, fun _ _ => hfresh _⟩
  have hlaid : Laid body.content body.blockId (after s earlier).state :=
    laid_after hempty hapart fun step hstep => hwords step (List.mem_append_left _ hstep)
  have hword := hwords ⟨writer, .write body⟩ (by simp) body rfl ⟨rfl, rfl, rfl⟩
  have hrow : ∀ index, row index = sets[index]?.elim ∅ (setRow body.layout.blockSize) := by
    intro index
    simp only [row, after_append]
    exact body.row_write hlaid hword hok index
  refine ⟨cut_pieces body.layout body.bytes, fun index => ?_, fun index blocks hset => ?_, ?_⟩
  · rw [hrow]
    cases hset : sets[index]? with
    | none =>
      have hge := List.getElem?_eq_none_iff.mp hset
      simp only [Option.elim_none, ne_eq, not_true_eq_false, false_iff]
      omega
    | some blocks =>
      have hlt := (List.getElem?_eq_some_iff.mp hset).1
      exact ⟨fun _ => hlt, fun _ => setRow_ne_empty _ blocks⟩
  · rw [hrow, hset]
    rfl
  · have hlength : byteCount sets.flatten = body.bytes.length := by rw [byteCount, (cut_pieces body.layout body.bytes).flatten]
    rw [(body.reply_write hok).1, BodyWrite.record, BlockSets.metadata, ← hlength]
    rfl

/-- Five bytes lie in two sets, the second one with a single block, after a longer body in one large set and one in small
sets that broke off were stored under their id before, with a read of sets that are not there in between. -/
theorem layout_of_fiveBytes :
    let client : MemoryClient := ⟨fiveBytes.layout, .discard⟩
    let longer : BodyWrite :=
      { fiveBytes with
        layout := { blockSize := 1, blocksPerSet := 20, logger := .discard }
        source := [.bytes (List.replicate 9 7)] }
    let broken : BodyWrite :=
      { fiveBytes with
        layout := { blockSize := 1, blocksPerSet := 1, logger := .discard }
        source := [.bytes (List.replicate 4 8), .failed "reset"] }
    let earlier : List StoreStep :=
      [⟨client, .write longer⟩, ⟨client, .read longer.layout fiveBytes.content "b" longer.record⟩, ⟨client, .write broken⟩]
    let row index :=
      (after ⟨∅, {}⟩ (earlier ++ [⟨client, .write fiveBytes⟩])).state.row (setKey fiveBytes.content fiveBytes.blockId index)
    (∀ index, row index ≠ ∅ ↔ index < 2) ∧ row 0 = setRow 2 [[1, 2], [3, 4]] ∧ row 1 = setRow 2 [[5]] := by
  intro client longer broken earlier row
  have happly := layout_of_write ⟨∅, {}⟩ earlier client fiveBytes fiveBytes.record (fun _ => MemoryStore.row_empty _) ?_ ?_
    (fiveBytes.write_ends rfl client _).1
  · have hsets : pieces fiveBytes.layout.blocksPerSet (pieces fiveBytes.layout.blockSize fiveBytes.bytes) =
        [[[1, 2], [3, 4]], [[5]]] := by
      simp [pieces, fiveBytes, BodyWrite.bytes, Source.contents]
    rw [hsets] at happly
    obtain ⟨-, hcount, hrow, -⟩ := happly
    exact ⟨hcount, hrow 0 _ rfl, hrow 1 _ rfl⟩
  · intro step hstep key hkey
    simp only [earlier, List.mem_cons, List.not_mem_nil, or_false] at hstep
    rcases hstep with rfl | rfl | rfl <;> cases hkey
  · intro step hstep other hother _
    simp only [earlier, List.cons_append, List.nil_append, List.mem_cons, List.not_mem_nil, or_false] at hstep
    rcases hstep with rfl | rfl | rfl | rfl <;> cases hother <;> decide

end SparseRows
