import SparseRows.Proofs.Body.Layout

/-!
# What a broken-off body leaves behind

A source may fail at any byte of a body. The sets that were full by then are in their rows, with nothing left of what was
stored there before, and every other row is as it was: those of an older, longer body under the same id too, since rows are
removed only once a body has been read to its end (`rows_of_broken_write`).
-/

namespace SparseRows

open Body Body.BlockSets StoreStep

namespace BodyWrite

variable (body : BodyWrite)

/-- The number of bytes in a full set. -/
def setSize : Nat :=
  body.layout.blocksPerSet * body.layout.blockSize

/-- The number of full sets that the source delivers the bytes of. -/
def fullSetCount : Nat :=
  body.bytes.length / body.setSize

/-- The bytes of the set of a number, if it is full. -/
def fullSet (index : Nat) : Bytes :=
  (body.bytes.drop (index * body.setSize)).take body.setSize

/-- The sets that are stored of a body whose source fails. -/
def fullSets : List (List Bytes) :=
  pieces body.layout.blocksPerSet (pieces body.layout.blockSize (body.bytes.take (body.fullSetCount * body.setSize)))

/-- A set holds one byte at least. -/
theorem setSize_pos : 0 < body.setSize :=
  Nat.mul_pos body.layout.blocksPerSet_pos body.layout.blockSize_pos

/-- The bytes of full sets are there. -/
theorem fullSetCount_mul_le : body.fullSetCount * body.setSize ≤ body.bytes.length :=
  Nat.div_mul_le_self ..

/-- So are those of each of them. -/
theorem succ_mul_setSize_le {index : Nat} (h : index < body.fullSetCount) :
    (index + 1) * body.setSize ≤ body.fullSetCount * body.setSize :=
  Nat.mul_le_mul_right _ h

/-- A full set holds as many bytes as there is room for in a set. -/
theorem length_fullSet {index : Nat} (h : index < body.fullSetCount) : (body.fullSet index).length = body.setSize := by
  have hindex := body.succ_mul_setSize_le h
  have hall := body.fullSetCount_mul_le
  rw [Nat.succ_mul] at hindex
  rw [fullSet, List.length_take, List.length_drop]
  omega

theorem length_fullSets : body.fullSets.length = body.fullSetCount := by
  have hlength : (body.bytes.take (body.fullSetCount * body.setSize)).length = body.setSize * body.fullSetCount := by
    rw [List.length_take, Nat.min_eq_left body.fullSetCount_mul_le, Nat.mul_comm]
  have hsize : body.layout.blockSize * body.layout.blocksPerSet = body.setSize := Nat.mul_comm ..
  rw [fullSets, length_pieces_pieces body.layout.blockSize_pos body.layout.blocksPerSet_pos, hlength, hsize]
  have hpos := body.setSize_pos
  rw [Nat.add_sub_assoc hpos, Nat.mul_add_div hpos, Nat.div_eq_of_lt (by omega), Nat.add_zero]

/-- The sets that are stored are cut from the bytes of full sets, one after the other. -/
theorem getElem?_fullSets {index : Nat} (h : index < body.fullSetCount) :
    body.fullSets[index]? = some (pieces body.layout.blockSize (body.fullSet index)) := by
  have hindex := body.succ_mul_setSize_le h
  have hlength : (index + 1) * body.setSize ≤ (body.bytes.take (body.fullSetCount * body.setSize)).length := by
    rwa [List.length_take, Nat.min_eq_left body.fullSetCount_mul_le]
  have hset : ((body.bytes.take (body.fullSetCount * body.setSize)).drop (index * body.setSize)).take body.setSize =
      body.fullSet index := by
    rw [Nat.succ_mul] at hindex
    rw [List.drop_take, List.take_take, Nat.min_eq_left (by omega)]
    rfl
  rw [fullSets, Source.getElem?_pieces_pieces body.layout.blockSize_pos body.layout.blocksPerSet_pos hlength]
  exact congrArg (fun bytes => some (pieces body.layout.blockSize bytes)) hset

/-- A full set has as many blocks as a set takes, each as long as a block can be. -/
theorem length_of_fullSet {index : Nat} (h : index < body.fullSetCount) :
    (pieces body.layout.blockSize (body.fullSet index)).length = body.layout.blocksPerSet ∧
      ∀ block ∈ pieces body.layout.blockSize (body.fullSet index), block.length = body.layout.blockSize := by
  have hpos := body.layout.blockSize_pos
  have hlength := body.length_fullSet h
  rw [setSize, Nat.mul_comm] at hlength
  refine ⟨?_, fun block hblock => ?_⟩
  · rw [length_pieces hpos, hlength, Nat.add_sub_assoc hpos, Nat.mul_add_div hpos, Nat.div_eq_of_lt (by omega), Nat.add_zero]
  · obtain ⟨i, hi⟩ := List.getElem?_of_mem hblock
    rw [getElem?_pieces hpos] at hi
    split at hi
    · rename_i hlt
      -- A block starts at a multiple of its size, and so do the bytes end.
      have hnext : (i + 1) * body.layout.blockSize ≤ body.layout.blockSize * body.layout.blocksPerSet := by
        rw [hlength, Nat.mul_comm i] at hlt
        rw [Nat.mul_comm (i + 1)]
        exact Nat.mul_le_mul_left _ (Nat.lt_of_mul_lt_mul_left hlt)
      obtain rfl := Option.some.inj hi
      rw [Nat.succ_mul] at hnext
      rw [List.length_take, List.length_drop, hlength]
      omega
    · cases hi

/-- Storing a body whose source fails ends with this failure as the cause, and its full sets are stored. -/
theorem write_gives_fullSets {text : String} (hfails : body.source.contents.2 = some text) (client : MemoryClient)
    (store : MemoryStore) :
    (StoreStep.action ⟨client, .write body⟩).Gives store (.error (.ofIo .bodyUnreadable (.stream text)))
      (body.layout.storeSets body.content body.blockId 0 body.fullSets store) := by
  have hsets : body.source.blockSets body.layout.blockSize_pos body.layout.blocksPerSet = (body.fullSets, some text) :=
    Source.blockSets_of_fails body.layout.blockSize_pos body.layout.blocksPerSet_pos hfails
  exact .bind_error (write_gives_error hsets body.now store)

end BodyWrite

/-- A body whose source fails is not stored, and the failure is the cause of the error. The sets that the source has
delivered in full are in their rows by then, each with its blocks and its three counts and nothing else, whatever was stored
there before. Every other row is as it was, be it one of an older body under the same id, and none is made that was not
there. The rows of the id hold what bodies left in them in the course of a run, by writes that succeeded or failed and in
whatever layouts: no row operation names one of them. The blocks of a set are counted in words of 64 bits. -/
theorem rows_of_broken_write (s : Logged MemoryStore) (earlier : List StoreStep) (writer : MemoryClient) (body : BodyWrite)
    (text : String) (hfresh : ∀ index, s.state.row (setKey body.content body.blockId index) = ∅)
    (hapart : ∀ step ∈ earlier, ∀ key, step.op.key? = some key → ∀ index, key ≠ setKey body.content body.blockId index)
    (hwords : ∀ step ∈ earlier, ∀ other, step.op = .write other → step.op.WritesTo body.content body.blockId →
      min other.layout.blocksPerSet other.blockCount < 2 ^ 63)
    (hfails : body.source.contents.2 = some text) :
    let before := after s earlier
    let broken := (after s (earlier ++ [⟨writer, .write body⟩])).state
    (∃ e, reply ⟨writer, .write body⟩ before = .error e ∧ e.code = .io ∧ e.cause = some (.io (.stream text))) ∧
      (∀ index < body.fullSetCount,
        let blocks := pieces body.layout.blockSize (body.fullSet index)
        broken[setKey body.content body.blockId index]? = some (setRow body.layout.blockSize blocks) ∧
          blocks.flatten = body.fullSet index ∧ blocks.length = body.layout.blocksPerSet ∧
          ∀ block ∈ blocks, block.length = body.layout.blockSize) ∧
      ∀ name, (∀ index < body.fullSetCount, setKey body.content body.blockId index ≠ name) →
        broken[name]? = before.state[name]? := by
  intro before broken
  have hlaid : Laid body.content body.blockId before.state :=
    laid_after ⟨fun index => hfresh index ▸ isSetRow_empty, fun _ _ => hfresh _⟩ hapart hwords
  obtain ⟨hreply, hstate⟩ := (body.write_gives_fullSets hfails writer before.state).run_eq before.journal
  have hbroken : broken = body.layout.storeSets body.content body.blockId 0 body.fullSets before.state := by
    rw [← hstate]
    exact congrArg Logged.state (after_append ..)
  refine ⟨⟨_, hreply, rfl, rfl⟩, fun index hindex => ?_, fun name hname => ?_⟩
  · obtain ⟨hcount, hblocks⟩ := body.length_of_fullSet hindex
    refine ⟨?_, flatten_pieces _, hcount, hblocks⟩
    have hrow := row_storeSets body.layout 0 body.fullSets (fun index _ => hlaid.isSetRow index) index
    rw [Nat.zero_add, body.getElem?_fullSets hindex, ← hbroken] at hrow
    exact MemoryStore.getElem?_of_row_eq hrow (setRow_ne_empty _ _)
  · rw [hbroken]
    refine getElem?_storeSets_of_ne before.state fun index hindex => ?_
    rw [Nat.zero_add]
    exact hname index (body.length_fullSets ▸ hindex)

/-- Nine bytes fill two sets before their source fails. They overwrite the first two of six sets of an older body, in
another layout, and leave the others. -/
theorem rows_of_nineBytes :
    let client : MemoryClient := ⟨fiveBytes.layout, .discard⟩
    let older : BodyWrite :=
      { fiveBytes with layout := .ofSizes 1 1 .discard, source := [.bytes [11, 12, 13, 14, 15, 16]] }
    let broken : BodyWrite :=
      { fiveBytes with source := [.bytes [1, 2, 3], .interrupted, .bytes [4, 5, 6, 7, 8, 9], .failed "reset"] }
    let before := after ⟨∅, {}⟩ [⟨client, .write older⟩]
    let rows := (after ⟨∅, {}⟩ [⟨client, .write older⟩, ⟨client, .write broken⟩]).state
    let key := setKey fiveBytes.content fiveBytes.blockId
    (∃ e, reply ⟨client, .write broken⟩ before = .error e ∧ e.code = .io ∧ e.cause = some (.io (.stream "reset"))) ∧
      rows[key 0]? = some (setRow 2 [[1, 2], [3, 4]]) ∧ rows[key 1]? = some (setRow 2 [[5, 6], [7, 8]]) ∧
      rows[key 5]? = before.state[key 5]? := by
  intro client older broken before rows key
  have happly := rows_of_broken_write ⟨∅, {}⟩ [⟨client, .write older⟩] client broken "reset"
    (fun _ => MemoryStore.row_empty _) ?_ ?_ rfl
  · obtain ⟨herror, hfull, hother⟩ := happly
    have hfirst : pieces 2 (broken.fullSet 0) = [[1, 2], [3, 4]] := by
      simp [pieces, broken, BodyWrite.fullSet, BodyWrite.setSize, BodyWrite.bytes, fiveBytes, Source.contents]
    have hsecond : pieces 2 (broken.fullSet 1) = [[5, 6], [7, 8]] := by
      simp [pieces, broken, BodyWrite.fullSet, BodyWrite.setSize, BodyWrite.bytes, fiveBytes, Source.contents]
    refine ⟨herror, hfirst ▸ (hfull 0 (by decide)).1, hsecond ▸ (hfull 1 (by decide)).1, hother (key 5) fun index hindex heq => ?_⟩
    have hcount : broken.fullSetCount = 2 := by decide
    have := (setKey_inj heq).2.2.2
    omega
  · intro step hstep name hname
    rw [List.mem_singleton] at hstep
    subst hstep
    cases hname
  · intro step hstep other hother _
    rw [List.mem_singleton] at hstep
    subst hstep
    cases hother
    decide

end SparseRows
