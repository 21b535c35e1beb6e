import SparseRows.Proofs.Body.Pieces
import SparseRows.Proofs.Body.SetRows

/-!
# Bodies in a store in memory

What storing and reading a body do to the rows of a store. Storing puts each set into its row and removes the rows behind
the last one (`write_gives`); no other row is touched. Reading gives what the rows hold as long as the sets fit the reader
(`readSets_gives`), fails at the first that does not (`readSets_gives_error`), and changes no row.
-/

namespace SparseRows.Body.BlockSets

open Std

/-! ## Storing -/

/-- The store once sets are in their rows, from the one of a number on. -/
def storeSets (layout : BlockSets) (content : RowKey) (blockId : String) : Nat → List (List Bytes) → MemoryStore → MemoryStore
  | _, [], store => store
  | index, blocks :: sets, store =>
    let key := setKey content blockId index
    let changes := layout.setChanges blocks (countIn (store.row key) blockCountColumn)
    storeSets layout content blockId (index + 1) sets (store.insert key (changes.applyTo (store.row key)))

/-- The store without the rows of at most so many sets, from the one of a number on up to the first that is empty. -/
def dropSets (content : RowKey) (blockId : String) : (most index : Nat) → MemoryStore → MemoryStore
  | 0, _, store => store
  | most + 1, index, store =>
    let key := setKey content blockId index
    if (store.row key).isEmpty then store.erase key else dropSets content blockId most (index + 1) (store.erase key)

/-- What a content row is to record of a body of these sets. -/
def metadata (layout : BlockSets) (blockId : String) (sets : List (List Bytes)) (now : Int64) : Row :=
  Row.ofList
    [(blockIdColumn, .text blockId), (setCountColumn, .integer (Int64.ofNat sets.length)),
     (lengthColumn, .integer (Int64.ofNat (byteCount sets.flatten))),
     (blockSizeColumn, .integer (Int64.ofNat layout.blockSize)), (modifiedColumn, .integer now)]

/-- The row of no set of this number or a later one. -/
def Outside (content : RowKey) (blockId : String) (index : Nat) (name : RowKey) : Prop :=
  ∀ i, index ≤ i → setKey content blockId i ≠ name

variable {layout : BlockSets} {client : MemoryClient} {content : RowKey} {blockId : String}

/-- What is outside the sets from a number on is outside those from the next number on. -/
theorem Outside.succ {index : Nat} {name : RowKey} (h : Outside content blockId index name) :
    Outside content blockId (index + 1) name :=
  fun i hi => h i (by omega)

/-- Writing sets stores their rows, one after the other, and does not fail. -/
theorem writeSets_gives (index : Nat) (sets : List (List Bytes)) (store : MemoryStore) :
    (layout.writeSets client.access content blockId index sets).Gives store (.ok ())
      (layout.storeSets content blockId index sets store) := by
  induction sets generalizing index store with
  | nil => exact .pure
  | cons blocks sets ih =>
    have hstore := MemoryStore.insert_insertIfNew store (setKey content blockId index) ∅
    have hrow := MemoryStore.row_insertIfNew store (setKey content blockId index) (setKey content blockId index)
    refine .bind (client.access_get_gives ..) (.bind (client.access_insert_gives ..) ?_)
    rw [hstore, hrow]
    exact ih ..

/-- Removing sets drops rows up to the first that is empty, and does not fail. -/
theorem removeSets_gives (most index : Nat) (store : MemoryStore) :
    (removeSets client.access content blockId most index).Gives store (.ok ()) (dropSets content blockId most index store) := by
  induction most generalizing index store with
  | zero => exact .pure
  | succ most ih =>
    have hstore := MemoryStore.erase_insertIfNew store (setKey content blockId index) ∅
    refine .bind (client.access_get_gives ..) (.bind (client.access_remove_gives ..) ?_)
    rw [hstore, dropSets]
    by_cases hempty : (store.row (setKey content blockId index)).isEmpty
    · simp only [hempty, if_true]
      exact .pure
    · simp only [hempty]
      exact ih ..

/-- Storing a body that ends puts its sets into their rows and removes the rows behind them. -/
theorem write_gives {source : Source} {sets : List (List Bytes)}
    (h : source.blockSets layout.blockSize_pos layout.blocksPerSet = (sets, none)) (now : Int64) (store : MemoryStore) :
    (layout.write client.access content blockId source now).Gives store (.ok (layout.metadata blockId sets now))
      (dropSets content blockId ((layout.storeSets content blockId 0 sets store).size + 1) sets.length
        (layout.storeSets content blockId 0 sets store)) := by
  unfold write
  rw [h]
  exact .bind (writeSets_gives ..) (.bind (.bind .currentState (removeSets_gives ..)) (.bind .log .pure))

/-- Storing a body that fails puts the sets before the failure into their rows and removes none. -/
theorem write_gives_error {source : Source} {sets : List (List Bytes)} {text : String}
    (h : source.blockSets layout.blockSize_pos layout.blocksPerSet = (sets, some text)) (now : Int64) (store : MemoryStore) :
    (layout.write client.access content blockId source now).Gives store (.error (.ofIo .bodyUnreadable (.stream text)))
      (layout.storeSets content blockId 0 sets store) := by
  unfold write
  rw [h]
  exact .bind (writeSets_gives ..) (.bind_error .throw)

/-! ## What stays and what comes to be -/

/-- Storing sets touches the rows of these sets alone: a row of another key is as it was, and is not made if it was not
there. -/
theorem getElem?_storeSets_of_ne {index : Nat} {sets : List (List Bytes)} (store : MemoryStore) {name : RowKey}
    (h : ∀ i < sets.length, setKey content blockId (index + i) ≠ name) :
    (layout.storeSets content blockId index sets store)[name]? = store[name]? := by
  induction sets generalizing index store with
  | nil => rfl
  | cons blocks sets ih =>
    have hfirst : setKey content blockId index ≠ name := h 0 (Nat.zero_lt_succ _)
    have hrest : ∀ i < sets.length, setKey content blockId (index + 1 + i) ≠ name := by
      intro i hi
      rw [Nat.add_assoc, Nat.add_comm 1 i]
      exact h (i + 1) (Nat.succ_lt_succ hi)
    rw [storeSets, ih _ hrest, ExtTreeMap.getElem?_insert, if_neg (by simpa using hfirst)]

/-- Storing sets touches no row outside them. -/
theorem getElem?_storeSets {index : Nat} {sets : List (List Bytes)} (store : MemoryStore) {name : RowKey}
    (h : Outside content blockId index name) : (layout.storeSets content blockId index sets store)[name]? = store[name]? :=
  getElem?_storeSets_of_ne store fun i _ => h (index + i) (Nat.le_add_right _ _)

/-- Removing sets touches their rows alone. -/
theorem getElem?_dropSets {most index : Nat} (store : MemoryStore) {name : RowKey} (h : Outside content blockId index name) :
    (dropSets content blockId most index store)[name]? = store[name]? := by
  induction most generalizing index store with
  | zero => rfl
  | succ most ih =>
    have herase : (store.erase (setKey content blockId index))[name]? = store[name]? := by
      rw [ExtTreeMap.getElem?_erase, if_neg (by simpa using h index (Nat.le_refl _))]
    rw [dropSets]
    split
    · exact herase
    · rw [ih _ h.succ, herase]

/-- Storing a body, whether it can be read to its end or not, touches the rows of its sets alone. -/
theorem write_frame (layout : BlockSets) (client : MemoryClient) (content : RowKey) (blockId : String) (source : Source)
    (now : Int64) (store : MemoryStore) :
    ∃ result store', (layout.write client.access content blockId source now).Gives store result store' ∧
      ∀ name, Outside content blockId 0 name → store'[name]? = store[name]? := by
  cases h : source.blockSets layout.blockSize_pos layout.blocksPerSet with
  | mk sets failure =>
    cases failure with
    | some text => exact ⟨_, _, write_gives_error h now store, fun name hname => getElem?_storeSets store hname⟩
    | none =>
      refine ⟨_, _, write_gives h now store, fun name hname => ?_⟩
      have hlater : Outside content blockId sets.length name := fun i _ => hname i (Nat.zero_le i)
      rw [getElem?_dropSets _ hlater, getElem?_storeSets store hname]

/-- A store holds the sets of a body, from the one of a number on, each in its row. -/
def HoldsFrom (content : RowKey) (blockId : String) (start : Nat) (sets : List (List Bytes)) (store : MemoryStore) : Prop :=
  ∀ index blocks, sets[index]? = some blocks → HoldsSet (store.row (setKey content blockId (start + index))) blocks

/-- Once sets are stored, the store holds them. -/
theorem holdsFrom_storeSets (layout : BlockSets) (start : Nat) (sets : List (List Bytes)) (store : MemoryStore) :
    HoldsFrom content blockId start sets (layout.storeSets content blockId start sets store) := by
  induction sets generalizing start store with
  | nil =>
    intro index blocks h
    simp at h
  | cons first sets ih =>
    intro index blocks h
    cases index with
    | zero =>
      rw [List.getElem?_cons_zero, Option.some.injEq] at h
      subst h
      have hout : Outside content blockId (start + 1) (setKey content blockId start) := by
        intro i hi heq
        have := (setKey_inj heq).2.2.2
        omega
      rw [Nat.add_zero, storeSets, MemoryStore.row, getElem?_storeSets _ hout, ExtTreeMap.getElem?_insert_self]
      exact holdsSet_setChanges ..
    | succ index =>
      rw [List.getElem?_cons_succ] at h
      have hrest : HoldsFrom content blockId (start + 1) sets (layout.storeSets content blockId start (first :: sets) store) :=
        ih (start + 1) _
      have hset := hrest index blocks h
      rwa [Nat.add_assoc, Nat.add_comm 1 index] at hset

/-- Stores with the same rows for a body hold the same sets of it. -/
theorem HoldsFrom.congr {start : Nat} {sets : List (List Bytes)} {store store' : MemoryStore}
    (h : HoldsFrom content blockId start sets store)
    (hsame : ∀ index < sets.length,
      store'.row (setKey content blockId (start + index)) = store.row (setKey content blockId (start + index))) :
    HoldsFrom content blockId start sets store' := by
  intro index blocks hblocks
  rw [hsame index (List.getElem?_eq_some_iff.mp hblocks).1]
  exact h index blocks hblocks

/-! ## Reading -/

/-- The blocks of a row that holds a set are those of the set. -/
theorem blocksOf_of_holdsSet {key : RowKey} {row : Row} {blocks : List Bytes} (h : HoldsSet row blocks) (count index : Nat)
    (hcount : index + count = blocks.length) : blocksOf key row count index = .ok (blocks.drop index).flatten := by
  induction count generalizing index with
  | zero =>
    rw [blocksOf, List.drop_of_length_le (by omega)]
    rfl
  | succ count ih =>
    have hlt : index < blocks.length := by omega
    have hblock := h.2 index blocks[index] (List.getElem?_eq_getElem hlt)
    rw [blocksOf, hblock]
    simp only [Option.bind_some, Value.asBytes?]
    rw [ih (index + 1) (by omega), List.drop_eq_getElem_cons hlt, List.flatten_cons]
    rfl

/-- The number of blocks that a row tells is that of the set it holds. -/
theorem HoldsSet.countIn_eq {row : Row} {blocks : List Bytes} (h : HoldsSet row blocks) (hlength : blocks.length < 2 ^ 63) :
    countIn row blockCountColumn = blocks.length :=
  countIn_of_integer h.1 hlength

/-- Reading sets that the store holds and that fit the reader gives their bytes. -/
theorem readSets_gives (client : MemoryClient) (reader : BlockSets) (total left start : Nat) {sets : List (List Bytes)}
    {store : MemoryStore} (hleft : sets.length = left) (h : HoldsFrom content blockId start sets store)
    (hsets : ∀ blocks ∈ sets, 0 < blocks.length ∧ blocks.length ≤ reader.blocksPerSet ∧ blocks.length < 2 ^ 63) :
    ∃ store', (reader.readSets client.access content blockId total left start).Gives store (.ok sets.flatten.flatten) store' := by
  induction left generalizing start sets store with
  | zero =>
    obtain rfl := List.eq_nil_of_length_eq_zero hleft
    exact ⟨store, .pure⟩
  | succ left ih =>
    obtain ⟨blocks, sets, rfl⟩ := List.exists_cons_of_length_eq_add_one hleft
    obtain ⟨hpos, hfits, hword⟩ := hsets blocks List.mem_cons_self
    have hrow : HoldsSet (store.row (setKey content blockId start)) blocks := h 0 blocks rfl
    have hrest : HoldsFrom content blockId (start + 1) sets (store.insertIfNew (setKey content blockId start) ∅) := by
      intro index blocks' hblocks'
      rw [MemoryStore.row_insertIfNew, Nat.add_assoc, Nat.add_comm 1 index]
      exact h (index + 1) blocks' hblocks'
    obtain ⟨store', hread⟩ := ih (start + 1) (by simpa using hleft) hrest fun b hb => hsets b (List.mem_cons_of_mem _ hb)
    refine ⟨store', .bind (client.access_get_gives ..) ?_⟩
    have hgood : ¬(blocks.length = 0 ∨ reader.blocksPerSet < blocks.length) := by omega
    simp only [hrow.countIn_eq hword, if_neg hgood, blocksOf_of_holdsSet hrow blocks.length 0 (Nat.zero_add _)]
    rw [List.drop_zero, List.flatten_cons, List.flatten_append]
    exact .bind .liftExcept (.bind hread .pure)

/-- Reading fails at a set that does not fit the reader. -/
theorem readSets_gives_error (client : MemoryClient) (reader : BlockSets) (total left start : Nat) {blocks : List Bytes}
    {sets : List (List Bytes)} {store : MemoryStore} (h : HoldsFrom content blockId start (blocks :: sets) store)
    (hlarge : reader.blocksPerSet < blocks.length) (hword : blocks.length < 2 ^ 63) :
    (reader.readSets client.access content blockId total (left + 1) start).Gives store
      (.error (StorageError.ofIo (.blockSetMalformed start total) .badBlockSet |>.forRow (setKey content blockId start)))
      (store.insertIfNew (setKey content blockId start) ∅) := by
  have hrow : HoldsSet (store.row (setKey content blockId start)) blocks := h 0 blocks rfl
  refine .bind (client.access_get_gives ..) ?_
  simp only [hrow.countIn_eq hword, if_pos (Or.inr hlarge : blocks.length = 0 ∨ reader.blocksPerSet < blocks.length)]
  exact .bind_error .throw

/-- Whatever the rows hold, reading sets comes to an end and changes none. -/
theorem readSets_keeps (reader : BlockSets) (total left start : Nat) (store : MemoryStore) :
    (reader.readSets client.access content blockId total left start).Keeps fun store' =>
      ∀ name, store'.row name = store.row name := by
  induction left generalizing start with
  | zero => exact .pure
  | succ left ih =>
    refine .bind (client.access_get_keeps store _) fun set => ?_
    dsimp only
    split
    · exact .bind .throw fun _ => .bind .liftExcept fun _ => .bind (ih _) fun _ => .pure
    · exact .bind .liftExcept fun _ => .bind (ih _) fun _ => .pure

/-- Reading a body gives the bytes of its sets. -/
theorem read_gives {reader : BlockSets} {record : Row} {store store' : MemoryStore} {bytes : Bytes} {total : Nat}
    (htotal : countIn record setCountColumn = total)
    (h : (reader.readSets client.access content blockId total total 0).Gives store (.ok bytes) store') :
    (reader.read client.access content blockId record).Gives store (.ok bytes) store' := by
  unfold BlockSets.read
  rw [htotal]
  exact .bind h (.bind .log .pure)

/-- Reading a body fails as reading its sets does. -/
theorem read_gives_error {reader : BlockSets} {record : Row} {store store' : MemoryStore} {e : StorageError} {total : Nat}
    (htotal : countIn record setCountColumn = total)
    (h : (reader.readSets client.access content blockId total total 0).Gives store (.error e) store') :
    (reader.read client.access content blockId record).Gives store (.error e) store' := by
  unfold BlockSets.read
  rw [htotal]
  exact .bind_error h

/-- Reading a body changes no row, whether it succeeds or fails. -/
theorem read_keeps (client : MemoryClient) (content : RowKey) (blockId : String) (reader : BlockSets) (record : Row)
    (store : MemoryStore) :
    (reader.read client.access content blockId record).Keeps fun store' => ∀ name, store'.row name = store.row name :=
  .bind (readSets_keeps ..) fun _ => .bind .log fun _ => .pure

end SparseRows.Body.BlockSets
