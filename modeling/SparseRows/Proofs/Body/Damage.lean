import SparseRows.Proofs.Body.Layout
import SparseRows.Proofs.Memory.Histories

/-!
# Damage to stored bodies

Blocks may be deleted from the sets of a stored body, and with them the number that tells how many there were; sets may be
removed, and the content row may record more sets than there are. Reading such a body never passes for reading a shorter
one: it fails at the first set that is not whole or not there (`read_of_damaged`). What carries this is that deleting leaves
a row with columns of its set alone, so that it either holds the set as it was stored or lacks something that a reader asks
for (`lacks_of_not_holdsSet`).
-/

namespace SparseRows

open Body Body.BlockSets StoreStep

namespace Row

/-- Every row has the columns of an empty one. -/
theorem includes_empty (row : Row) : row.Includes ∅ := by
  intro column v hcolumn
  rw [Std.ExtTreeMap.getElem?_empty] at hcolumn
  cases hcolumn

/-- What changes leave of a row it had before, if they put nothing. -/
theorem includes_applyTo {changes : Changes} (h : ¬∃ column v, changes.get? column = some (.put v)) (row : Row) :
    row.Includes (changes.applyTo row) := by
  intro column v hcolumn
  rw [Changes.getElem?_applyTo] at hcolumn
  cases hchange : changes.get? column with
  | none =>
    rw [hchange] at hcolumn
    exact hcolumn
  | some change =>
    rw [hchange] at hcolumn
    cases change with
    | put w => exact absurd ⟨column, w, hchange⟩ h
    | remove => cases hcolumn

end Row

/-! ## Operations that delete -/

namespace StoreOp

/-- Whether an operation may put something into the row of a key. -/
def Fills (name : RowKey) : StoreOp → Prop
  | row (.insert key changes) => key = name ∧ ∃ column v, changes.get? column = some (.put v)
  | write body => ∃ index, setKey body.content body.blockId index = name
  | row (.get _) | row (.remove _) | read .. => False

/-- An operation deletes something of a body that is stored in some sets. -/
inductive Takes (content : RowKey) (blockId : String) (sets : List (List Bytes)) : StoreOp → Prop
  /-- It deletes a block from its set. -/
  | block {set index : Nat} {blocks : List Bytes} {changes : Changes} (hset : sets[set]? = some blocks)
      (hindex : index < blocks.length)
      (h : changes.get? (blockColumn index) = some .remove) :
      Takes content blockId sets (.row (.insert (setKey content blockId set) changes))
  /-- It deletes the number of blocks from a set. -/
  | blockCount {set : Nat} {changes : Changes} (hset : set < sets.length) (h : changes.get? blockCountColumn = some .remove) :
      Takes content blockId sets (.row (.insert (setKey content blockId set) changes))
  /-- It removes the row of a set. -/
  | set {set : Nat} (hset : set < sets.length) : Takes content blockId sets (.row (.remove (setKey content blockId set)))

end StoreOp

namespace Body.BlockSets

/-- A row holds a set if what is left of it does. -/
theorem HoldsSet.of_includes {row rest : Row} {blocks : List Bytes} (h : HoldsSet rest blocks) (hrest : row.Includes rest) :
    HoldsSet row blocks :=
  ⟨hrest _ _ h.1, fun index block hblock => hrest _ _ (h.2 index block hblock)⟩

end Body.BlockSets

namespace StoreStep

variable {name content : RowKey} {blockId : String} {sets : List (List Bytes)}

/-- After a step that puts nothing into a row, the row has no column that it did not have before. -/
theorem includes_step {step : StoreStep} (h : ¬step.op.Fills name) (s : Logged MemoryStore) :
    (s.state.row name).Includes ((step.action.attempt.run s).2.state.row name) := by
  obtain ⟨client, op⟩ := step
  cases op with
  | row op =>
    obtain ⟨store', hgives, hrows⟩ := row_gives client op s.state
    rw [(hgives.run_eq s.journal).2, hrows]
    cases op with
    | get key => exact .refl _
    | insert key changes =>
      by_cases hkey : key = name
      · subst hkey
        rw [RowOp.effect, Function.update_self, Row.mapValues_id]
        exact Row.includes_applyTo (fun hputs => h ⟨rfl, hputs⟩) _
      · rw [RowOp.effect, Function.update_of_ne (Ne.symm hkey)]
        exact .refl _
    | remove key =>
      by_cases hkey : key = name
      · subst hkey
        rw [RowOp.effect, Function.update_self]
        exact Row.includes_empty _
      · rw [RowOp.effect, Function.update_of_ne (Ne.symm hkey)]
        exact .refl _
  | write body =>
    have hsame : (after s [⟨client, .write body⟩]).state.row name = s.state.row name :=
      row_after (fun step hstep htouch => h (List.mem_singleton.mp hstep ▸ htouch :)) s
    exact hsame ▸ Row.Includes.refl _
  | read layout content blockId record =>
    have hsame : (after s [⟨client, .read layout content blockId record⟩]).state.row name = s.state.row name :=
      row_after (by simp [StoreOp.Touches]) s
    exact hsame ▸ Row.Includes.refl _

/-- So it is after a run of such steps. -/
theorem includes_after {steps : List StoreStep} (h : ∀ step ∈ steps, ¬step.op.Fills name) (s : Logged MemoryStore) :
    (s.state.row name).Includes ((after s steps).state.row name) := by
  induction steps generalizing s with
  | nil => exact .refl _
  | cons step steps ih =>
    rw [after_cons]
    exact (includes_step (h step List.mem_cons_self) s).trans (ih (fun later hlater => h later (List.mem_cons_of_mem _ hlater)) _)

/-- A step that deletes something of a body leaves a row that does not hold its set. -/
theorem exists_not_holdsSet_step {step : StoreStep} (h : step.op.Takes content blockId sets) (s : Logged MemoryStore) :
    ∃ index blocks, sets[index]? = some blocks ∧
      ¬HoldsSet ((step.action.attempt.run s).2.state.row (setKey content blockId index)) blocks := by
  obtain ⟨client, op⟩ := step
  have hinsert : ∀ set changes, (action ⟨client, .row (.insert (setKey content blockId set) changes)⟩ |>.attempt.run s).2.state.row
      (setKey content blockId set) = changes.applyTo (s.state.row (setKey content blockId set)) := by
    intro set changes
    obtain ⟨store', hgives, hrows⟩ := row_gives client (.insert (setKey content blockId set) changes) s.state
    rw [(hgives.run_eq s.journal).2, hrows, RowOp.effect, Function.update_self, Row.mapValues_id]
  cases h with
  | @block set index blocks changes hset hindex hremove =>
    refine ⟨set, blocks, hset, fun hholds => ?_⟩
    have hblock := hholds.2 index _ (List.getElem?_eq_getElem hindex)
    rw [hinsert, Changes.getElem?_applyTo, hremove] at hblock
    exact Option.some_ne_none _ hblock.symm
  | @blockCount set changes hset hremove =>
    refine ⟨set, _, List.getElem?_eq_getElem hset, fun hholds => ?_⟩
    have hcount := hholds.1
    rw [hinsert, Changes.getElem?_applyTo, hremove] at hcount
    exact Option.some_ne_none _ hcount.symm
  | @set set hset =>
    refine ⟨set, _, List.getElem?_eq_getElem hset, fun hholds => ?_⟩
    have hcount := hholds.1
    obtain ⟨store', hgives, hrows⟩ := row_gives client (.remove (setKey content blockId set)) s.state
    rw [(hgives.run_eq s.journal).2, hrows, RowOp.effect, Function.update_self, Std.ExtTreeMap.getElem?_empty] at hcount
    exact Option.some_ne_none _ hcount.symm

/-- What has been deleted in the course of a run is not there at its end, if nothing is put there. -/
theorem exists_not_holdsSet_after {steps : List StoreStep} {step : StoreStep} (hmem : step ∈ steps)
    (htakes : step.op.Takes content blockId sets) (h : ∀ step ∈ steps, ∀ index, ¬step.op.Fills (setKey content blockId index))
    (s : Logged MemoryStore) :
    ∃ index blocks, sets[index]? = some blocks ∧ ¬HoldsSet ((after s steps).state.row (setKey content blockId index)) blocks := by
  obtain ⟨earlier, later, rfl⟩ := List.append_of_mem hmem
  obtain ⟨index, blocks, hset, hlacks⟩ := exists_not_holdsSet_step htakes (after s earlier)
  refine ⟨index, blocks, hset, fun hholds => hlacks (hholds.of_includes ?_)⟩
  rw [after_append, after_cons]
  exact includes_after (fun other hother => h other (by simp [hother]) index) _

end StoreStep

/-! ## Reading what is left -/

namespace Body.BlockSets

variable {content : RowKey} {blockId : String} {blockSize : Nat} {blocks : List Bytes} {row : Row}

/-- What is left of the row of a set tells no number of blocks or the right one, and in that case lacks a block unless it
holds the set. -/
theorem lacks_of_not_holdsSet (hrow : (setRow blockSize blocks).Includes row) (h : ¬HoldsSet row blocks)
    (hword : blocks.length < 2 ^ 63) :
    countIn row blockCountColumn = 0 ∨
      countIn row blockCountColumn = blocks.length ∧ ∃ index < blocks.length, row[blockColumn index]? = none := by
  cases hcount : row[blockCountColumn]? with
  | none => exact .inl (by simp [countIn, hcount])
  | some v =>
    have hv := hrow _ _ hcount
    rw [getElem?_setRow_blockCount] at hv
    rw [← hv] at hcount
    refine .inr ⟨countIn_of_integer hcount hword, ?_⟩
    by_contra hall
    refine h ⟨hcount, fun index block hblock => ?_⟩
    have hindex := (List.getElem?_eq_some_iff.mp hblock).1
    cases hcolumn : row[blockColumn index]? with
    | none => exact absurd ⟨index, hindex, hcolumn⟩ hall
    | some w =>
      have hw := hrow _ _ hcolumn
      rw [getElem?_setRow_blockColumn, hblock] at hw
      exact hw.symm

/-- Blocks are not read if one of them is missing. -/
theorem blocksOf_eq_error (key : RowKey) {missing : Nat} (hmissing : row[blockColumn missing]? = none) (count index : Nat)
    (hle : index ≤ missing) (hlt : missing < index + count) : ∃ e, blocksOf key row count index = .error e ∧ e.code = .io := by
  induction count generalizing index with
  | zero => omega
  | succ count ih =>
    rw [blocksOf]
    cases hblock : row[blockColumn index]?.bind Value.asBytes? with
    | none => exact ⟨_, rfl, rfl⟩
    | some block =>
      have hne : index ≠ missing := by
        rintro rfl
        rw [hmissing] at hblock
        exact Option.some_ne_none _ hblock.symm
      obtain ⟨e, he, hcode⟩ := ih (index + 1) (by omega) (by omega)
      exact ⟨e, by simp only [he]; rfl, hcode⟩

/-- Asking for a row is noted down. -/
theorem noting_get_gives (client : MemoryClient) (key : RowKey) (store : MemoryStore) (before : List RowKey) :
    (client.access.noting.get key).Gives ⟨store, before⟩ (.ok (store.row key)) ⟨store.insertIfNew key ∅, before ++ [key]⟩ :=
  .bind (Noted.note_gives key store before) (Noted.work_gives (client.access_get_gives store key) _)

/-- Reading fails at a row that tells no number of blocks or one that is larger than the reader takes. -/
theorem readSets_gives_malformed (client : MemoryClient) (reader : BlockSets) (total left start : Nat) (store : MemoryStore)
    (before : List RowKey)
    (h : countIn (store.row (setKey content blockId start)) blockCountColumn = 0 ∨
      reader.blocksPerSet < countIn (store.row (setKey content blockId start)) blockCountColumn) :
    ∃ e, e.code = .io ∧
      (reader.readSets client.access.noting content blockId total (left + 1) start).Gives ⟨store, before⟩ (.error e)
        ⟨store.insertIfNew (setKey content blockId start) ∅, before ++ [setKey content blockId start]⟩ := by
  refine ⟨(StorageError.ofIo (.blockSetMalformed start total) .badBlockSet).forRow (setKey content blockId start), rfl,
    .bind (noting_get_gives client ..) ?_⟩
  simp only [if_pos h]
  exact .bind_error .throw

/-- Reading goes no further than a set that is not held. -/
theorem readSets_gives_of_not_holdsSet (client : MemoryClient) (reader : BlockSets) (total left start : Nat) {store : MemoryStore}
    (before : List RowKey) (hrow : (setRow blockSize blocks).Includes (store.row (setKey content blockId start)))
    (hword : blocks.length < 2 ^ 63) (h : ¬HoldsSet (store.row (setKey content blockId start)) blocks) :
    ∃ e, e.code = .io ∧
      (reader.readSets client.access.noting content blockId total (left + 1) start).Gives ⟨store, before⟩ (.error e)
        ⟨store.insertIfNew (setKey content blockId start) ∅, before ++ [setKey content blockId start]⟩ := by
  by_cases hbad : countIn (store.row (setKey content blockId start)) blockCountColumn = 0 ∨
      reader.blocksPerSet < countIn (store.row (setKey content blockId start)) blockCountColumn
  · exact readSets_gives_malformed client reader total left start store before hbad
  -- A number of blocks that passes is that of the set, so a block is missing.
  · obtain hzero | ⟨hcount, missing, hlt, hmissing⟩ := lacks_of_not_holdsSet hrow h hword
    · exact absurd (.inl hzero) hbad
    · obtain ⟨e, he, hcode⟩ := blocksOf_eq_error (setKey content blockId start) hmissing blocks.length 0 (Nat.zero_le _) (by omega)
      refine ⟨e, hcode, .bind (noting_get_gives client ..) ?_⟩
      rw [hcount] at hbad
      simp only [hcount, if_neg hbad, he]
      exact .bind_error .liftExcept

/-- Reading sets asks for the rows of the sets in turn, up to the first one that is not whole, and fails there; the one
behind the last set is not there. -/
theorem readSets_gives_damaged (client : MemoryClient) (reader : BlockSets) (total left start : Nat) {sets : List (List Bytes)}
    {store : MemoryStore} (before : List RowKey) (hwords : ∀ blocks ∈ sets, blocks.length < 2 ^ 63) (hleft : sets.length ≤ left)
    (hrows : ∀ index, (sets[index]?.elim ∅ (setRow blockSize)).Includes (store.row (setKey content blockId (start + index))))
    (hdamage : (∃ index blocks, sets[index]? = some blocks ∧
        ¬HoldsSet (store.row (setKey content blockId (start + index))) blocks) ∨ sets.length < left) :
    ∃ e store' stop, e.code = .io ∧ stop ≤ sets.length ∧
      (reader.readSets client.access.noting content blockId total left start).Gives ⟨store, before⟩ (.error e)
        ⟨store', before ++ (List.range' start (stop + 1)).map (setKey content blockId)⟩ := by
  induction sets generalizing left start store before with
  | nil =>
    obtain ⟨left, rfl⟩ : ∃ n, left = n + 1 := by
      rcases hdamage with ⟨index, blocks, hset, -⟩ | hlt
      · exact absurd hset.symm (Option.some_ne_none blocks)
      · exact ⟨left - 1, by rw [List.length_nil] at hlt; omega⟩
    have hrow : Row.Includes ∅ (store.row (setKey content blockId start)) := hrows 0
    have hcount : countIn (store.row (setKey content blockId start)) blockCountColumn = 0 := by
      cases hcolumn : (store.row (setKey content blockId start))[blockCountColumn]? with
      | none => simp [countIn, hcolumn]
      | some v =>
        have hv := hrow _ _ hcolumn
        rw [Std.ExtTreeMap.getElem?_empty] at hv
        exact absurd hv.symm (Option.some_ne_none v)
    obtain ⟨e, hcode, hgives⟩ := readSets_gives_malformed client reader total left start store before (.inl hcount)
    exact ⟨e, _, 0, hcode, Nat.zero_le _, hgives⟩
  | cons blocks sets ih =>
    obtain ⟨left, rfl⟩ : ∃ n, left = n + 1 := ⟨left - 1, by rw [List.length_cons] at hleft; omega⟩
    have hrow : (setRow blockSize blocks).Includes (store.row (setKey content blockId start)) := hrows 0
    have hword := hwords blocks List.mem_cons_self
    by_cases hholds : HoldsSet (store.row (setKey content blockId start)) blocks
    · have hcount := hholds.countIn_eq hword
      by_cases hbad : countIn (store.row (setKey content blockId start)) blockCountColumn = 0 ∨
          reader.blocksPerSet < countIn (store.row (setKey content blockId start)) blockCountColumn
      · obtain ⟨e, hcode, hgives⟩ := readSets_gives_malformed client reader total left start store before hbad
        exact ⟨e, _, 0, hcode, Nat.zero_le _, hgives⟩
      -- The first set is read, and the damage is in the others or behind them.
      · have hrest : ∀ index, (sets[index]?.elim ∅ (setRow blockSize)).Includes
            (MemoryStore.row (store.insertIfNew (setKey content blockId start) ∅)
              (setKey content blockId (start + 1 + index))) := by
          intro index
          rw [MemoryStore.row_insertIfNew, Nat.add_assoc, Nat.add_comm 1 index]
          exact hrows (index + 1)
        have hlater : (∃ index blocks, sets[index]? = some blocks ∧ ¬HoldsSet (MemoryStore.row
            (store.insertIfNew (setKey content blockId start) ∅) (setKey content blockId (start + 1 + index))) blocks) ∨
            sets.length < left := by
          rcases hdamage with ⟨index, lacking, hset, hlacks⟩ | hlt
          · cases index with
            | zero =>
              obtain rfl : blocks = lacking := Option.some.inj hset
              exact absurd hholds hlacks
            | succ index =>
              refine .inl ⟨index, lacking, hset, ?_⟩
              rwa [MemoryStore.row_insertIfNew, Nat.add_assoc, Nat.add_comm 1 index]
          · exact .inr (by rw [List.length_cons] at hlt; omega)
        obtain ⟨e, store', stop, hcode, hstop, hgives⟩ := ih left (start + 1) (before ++ [setKey content blockId start])
          (fun later hmem => hwords later (List.mem_cons_of_mem _ hmem)) (by rw [List.length_cons] at hleft; omega) hrest hlater
        refine ⟨e, store', stop + 1, hcode, Nat.succ_le_succ hstop, ?_⟩
        rw [List.range'_succ, List.map_cons, List.append_cons]
        rw [hcount] at hbad
        refine .bind (noting_get_gives client ..) ?_
        simp only [hcount, if_neg hbad, blocksOf_of_holdsSet hholds blocks.length 0 (Nat.zero_add _)]
        exact .bind .liftExcept (.bind_error hgives)
    · obtain ⟨e, hcode, hgives⟩ := readSets_gives_of_not_holdsSet client reader total left start before hrow hword hholds
      exact ⟨e, _, 0, hcode, Nat.zero_le _, hgives⟩

/-- Records that differ in the length of the body alone are read alike. -/
theorem read_congr {σ : Type} (reader : BlockSets) (rows : RowAccess σ) (content : RowKey) (blockId : String) {record record' : Row}
    (h : ∀ column, column ≠ lengthColumn → record[column]? = record'[column]?) :
    reader.read rows content blockId record = reader.read rows content blockId record' := by
  have hcount : countIn record setCountColumn = countIn record' setCountColumn := by
    rw [countIn, countIn, h setCountColumn (by decide)]
  rw [BlockSets.read, BlockSets.read, hcount]

end Body.BlockSets

/-- Damage to a stored body is never silent. After a body is stored, blocks and numbers of blocks may be deleted from its
sets and sets removed, with anything else in between that puts nothing into their rows, and the row that records the body
may tell more sets than there are, up to the largest number there is. Unless nothing of this was done, reading the body
fails, whoever reads it in whatever layout, after it asked for the rows of the sets in turn and at most for one row more
than there are sets. It changes no row, and the length that is recorded makes no difference to it. The blocks of a set are
counted in words of 64 bits. -/
theorem read_of_damaged (s : Logged MemoryStore) (earlier later : List StoreStep) (writer : MemoryClient) (body : BodyWrite)
    (metadata record : Row) (hfresh : ∀ index, s.state.row (setKey body.content body.blockId index) = ∅)
    (hapart : ∀ step ∈ earlier, ∀ key, step.op.key? = some key → ∀ index, key ≠ setKey body.content body.blockId index)
    (hwords : ∀ step ∈ earlier ++ [⟨writer, .write body⟩], ∀ other, step.op = .write other →
      step.op.WritesTo body.content body.blockId → min other.layout.blocksPerSet other.blockCount < 2 ^ 63)
    (hok : reply ⟨writer, .write body⟩ (after s earlier) = .ok (.stored metadata))
    (hlater : ∀ step ∈ later, ∀ index, ¬step.op.Fills (setKey body.content body.blockId index))
    (hcount : body.sets.length ≤ countIn record setCountColumn)
    (hdamage : (∃ step ∈ later, step.op.Takes body.content body.blockId body.sets) ∨
      body.sets.length < countIn record setCountColumn)
    (client : MemoryClient) (reader : BlockSets) (place : RowKey) (hspace : place.space = body.content.space)
    (htable : place.table = body.content.table) :
    let damaged := after s (earlier ++ ⟨writer, .write body⟩ :: later)
    let read (record : Row) : StoreStep := ⟨client, .read reader place body.blockId record⟩
    (∃ e, reply (read record) damaged = .error e ∧ e.code = .io) ∧
      (∃ stop ≤ body.sets.length,
        (read record).reached damaged = (List.range (stop + 1)).map (setKey body.content body.blockId)) ∧
      (∀ key, (after damaged [read record]).state.row key = damaged.state.row key) ∧
      ∀ record', (∀ column, column ≠ lengthColumn → record'[column]? = record[column]?) →
        (read record').action = (read record).action := by
  intro damaged read
  have hsame : setKey place body.blockId = setKey body.content body.blockId := funext (setKey_congr hspace htable body.blockId)
  -- What is there of the sets after the damage was there once the body was stored.
  have hsplit : damaged = after (after s (earlier ++ [⟨writer, .write body⟩])) later := by
    rw [← after_append, List.append_assoc]
    rfl
  have hrows : ∀ index, (body.sets[index]?.elim ∅ (setRow body.layout.blockSize)).Includes
      (damaged.state.row (setKey place body.blockId (0 + index))) := by
    intro index
    rw [Nat.zero_add, hsame, hsplit, ← row_of_write hfresh hapart hwords hok index]
    exact includes_after (fun step hstep => hlater step hstep index) _
  have hmissing : (∃ index blocks, body.sets[index]? = some blocks ∧
      ¬HoldsSet (damaged.state.row (setKey place body.blockId (0 + index))) blocks) ∨
      body.sets.length < countIn record setCountColumn := by
    rcases hdamage with ⟨step, hstep, htakes⟩ | hlt
    · obtain ⟨index, blocks, hset, hlacks⟩ :=
        exists_not_holdsSet_after hstep htakes hlater (after s (earlier ++ [⟨writer, .write body⟩]))
      refine .inl ⟨index, blocks, hset, ?_⟩
      rwa [Nat.zero_add, hsame, hsplit]
    · exact .inr hlt
  have hlengths : ∀ blocks ∈ body.sets, blocks.length < 2 ^ 63 := fun blocks hblocks =>
    Nat.lt_of_le_of_lt (body.length_of_mem_sets hblocks).2 (hwords ⟨writer, .write body⟩ (by simp) body rfl ⟨rfl, rfl, rfl⟩)
  obtain ⟨e, store', stop, hcode, hstop, hsets⟩ := readSets_gives_damaged client reader (countIn record setCountColumn)
    (countIn record setCountColumn) 0 [] hlengths hcount hrows hmissing
  have hnoted : ((read record).op.work client.access.noting).Gives ⟨damaged.state, []⟩ (.error e) ⟨store', _⟩ :=
    .bind_error (.bind_error hsets)
  obtain ⟨r, store'', keys, hgives, hreaches, -⟩ :=
    (work_reaches client (rfl : (read record).op.blockId? = none) fun _ => id).run damaged.state
  have hr : r = .error e := ((hreaches []).run_eq {}).1.symm.trans (hnoted.run_eq {}).1
  refine ⟨⟨e, ?_, hcode⟩, ⟨stop, hstop, ?_⟩, fun key => row_after (by simp [read, StoreOp.Touches]) damaged,
    fun record' hrecord => ?_⟩
  · rw [reply, action_eq_work, (hgives.run_eq damaged.journal).1, hr]
  · rw [List.range_eq_range', ← hsame]
    exact congrArg Noted.reached (hnoted.run_eq damaged.journal).2
  · simp only [read, action, read_congr reader client.access place body.blockId hrecord]

/-- Five bytes cannot be read any more once a block is deleted from their first set and their second set is removed, though
their row now tells the largest number of sets there is, and a length of two. A longer body was stored under their id
before. -/
theorem read_of_damaged_fiveBytes :
    let client : MemoryClient := ⟨fiveBytes.layout, .discard⟩
    let longer : BodyWrite := { fiveBytes with source := [.bytes (List.replicate 9 7)] }
    let later : List StoreStep :=
      [⟨client, .row (.insert (setKey fiveBytes.content "b" 0) (Changes.empty.remove (blockColumn 1)))⟩,
        ⟨client, .row (.remove (setKey fiveBytes.content "b" 1))⟩]
    let record := Row.ofList [(setCountColumn, .integer (Int64.ofNat (2 ^ 63 - 1))), (lengthColumn, .integer 2)]
    ∃ e, reply ⟨client, .read fiveBytes.layout fiveBytes.content "b" record⟩
      (after ⟨∅, {}⟩ ([⟨client, .write longer⟩] ++ ⟨client, .write fiveBytes⟩ :: later)) = .error e ∧ e.code = .io := by
  intro client longer later record
  have hcount : countIn record setCountColumn = 2 ^ 63 - 1 := countIn_of_integer rfl (by decide)
  have hsets : fiveBytes.sets.length ≤ countIn record setCountColumn := by
    rw [hcount]
    exact Nat.le_trans fiveBytes.length_sets_le (by decide)
  refine (read_of_damaged ⟨∅, {}⟩ [⟨client, .write longer⟩] later client fiveBytes fiveBytes.record record
    (fun _ => MemoryStore.row_empty _) ?_ ?_ (fiveBytes.write_ends rfl client _).1 ?_ hsets ?_ client fiveBytes.layout
    fiveBytes.content rfl rfl).1
  · intro step hstep key hkey
    obtain rfl := List.mem_singleton.mp hstep
    cases hkey
  · intro step hstep other hother _
    simp only [List.cons_append, List.nil_append, List.mem_cons, List.not_mem_nil, or_false] at hstep
    rcases hstep with rfl | rfl <;> cases hother <;> decide
  · intro step hstep index
    simp only [later, List.mem_cons, List.not_mem_nil, or_false] at hstep
    rcases hstep with rfl | rfl
    · rintro ⟨-, column, v, hput⟩
      rw [Changes.get?_remove, Changes.get?_empty] at hput
      split at hput <;> cases hput
    · exact id
  · refine .inr (Nat.lt_of_le_of_lt fiveBytes.length_sets_le ?_)
    rw [hcount]
    decide

end SparseRows
