import SparseRows.Proofs.Memory.Runs

/-!
# Bodies come back

A store in memory keeps bodies as a map from block ids to bytes: what was stored last under an id is what is read, whatever
is stored under other ids in the meantime and whatever was stored under this id before. A reader that takes fewer blocks to
a set than the first set has gets an error instead. What carries this is `HoldsFrom`: storing a body makes the store hold
its sets, every other step leaves their rows alone, and reading goes by these rows.
-/

namespace SparseRows

open Body Body.BlockSets StoreStep

namespace BodyWrite

/-- The bytes that the source of a body delivers. -/
def bytes (body : BodyWrite) : Bytes :=
  body.source.contents.1

/-- The number of blocks that a body is cut into. -/
def blockCount (body : BodyWrite) : Nat :=
  (body.bytes.length + body.layout.blockSize - 1) / body.layout.blockSize

/-- The sets of blocks that a body is cut into. -/
def sets (body : BodyWrite) : List (List Bytes) :=
  pieces body.layout.blocksPerSet (pieces body.layout.blockSize body.bytes)

variable (body : BodyWrite)

/-- The bytes in the blocks of all sets are those of the body, in order. -/
theorem flatten_sets : body.sets.flatten.flatten = body.bytes := by
  rw [sets, flatten_pieces, flatten_pieces]

/-- The body is cut into as many blocks as it records. -/
theorem length_blocks : (pieces body.layout.blockSize body.bytes).length = body.blockCount :=
  length_pieces body.layout.blockSize_pos _

/-- There are no more sets than blocks. -/
theorem length_sets_le : body.sets.length ≤ body.blockCount := by
  rw [← body.length_blocks]
  exact length_pieces_le _

/-- A set has a block, and no more than there are or than a set takes. -/
theorem length_of_mem_sets {blocks : List Bytes} (h : blocks ∈ body.sets) :
    0 < blocks.length ∧ blocks.length ≤ min body.layout.blocksPerSet body.blockCount := by
  have hpiece := length_of_mem_pieces body.layout.blocksPerSet_pos h
  have hall := length_le_of_mem_pieces h
  rw [length_blocks] at hall
  exact ⟨hpiece.1, Nat.le_min.mpr ⟨hpiece.2, hall⟩⟩

/-- The first set is as full as can be. -/
theorem exists_sets_eq_cons (h : 0 < body.blockCount) :
    ∃ first rest, body.sets = first :: rest ∧ first.length = min body.layout.blocksPerSet body.blockCount := by
  have hne : pieces body.layout.blockSize body.bytes ≠ [] := by
    rw [← length_blocks] at h
    exact List.ne_nil_of_length_pos h
  refine ⟨_, _, pieces_of_ne_nil body.layout.blocksPerSet_pos hne, ?_⟩
  rw [List.length_take, length_blocks]

/-- What is to be recorded of a body. -/
def record : Row :=
  body.layout.metadata body.blockId body.sets body.now

/-- A body whose source ends by itself is stored, with its sets in their rows. -/
theorem write_ends (h : body.source.contents.2 = none) (client : MemoryClient) (s : Logged MemoryStore) :
    reply ⟨client, .write body⟩ s = .ok (.stored body.record) ∧
      HoldsFrom body.content body.blockId 0 body.sets (after s [⟨client, .write body⟩]).state := by
  have hsets : body.source.blockSets body.layout.blockSize_pos body.layout.blocksPerSet = (body.sets, none) :=
    Source.blockSets_of_ends body.layout.blockSize_pos body.layout.blocksPerSet_pos h
  have hwrite : (body.layout.write client.access body.content body.blockId body.source body.now).Gives s.state
      (.ok body.record) _ :=
    write_gives hsets body.now s.state
  have hstep : (action ⟨client, .write body⟩).Gives s.state (.ok (.stored body.record)) _ := .bind hwrite .pure
  obtain ⟨hreply, hstate⟩ := hstep.run_eq s.journal
  refine ⟨hreply, ?_⟩
  rw [show (after s [⟨client, .write body⟩]).state = _ from hstate]
  refine HoldsFrom.congr (holdsFrom_storeSets body.layout 0 body.sets s.state) fun index hindex => ?_
  have hout : Outside body.content body.blockId body.sets.length (setKey body.content body.blockId (0 + index)) := by
    intro i hi heq
    have := (setKey_inj heq).2.2.2
    omega
  exact congrArg (·.getD ∅) (getElem?_dropSets _ hout)

/-- A body whose source fails is not stored. -/
theorem write_fails {text : String} (h : body.source.contents.2 = some text) (client : MemoryClient) (s : Logged MemoryStore) :
    ∃ e, reply ⟨client, .write body⟩ s = .error e := by
  have hsets := Source.blockSets_of_fails body.layout.blockSize_pos body.layout.blocksPerSet_pos h
  have hwrite : (body.layout.write client.access body.content body.blockId body.source body.now).Gives s.state (.error _) _ :=
    write_gives_error hsets body.now s.state
  have hstep : (action ⟨client, .write body⟩).Gives s.state _ _ := .bind_error hwrite
  exact ⟨_, (hstep.run_eq s.journal).1⟩

/-- If a body was stored, its sets are in their rows, and what is to be recorded tells their number. -/
theorem reply_write {client : MemoryClient} {s : Logged MemoryStore} {metadata : Row}
    (h : reply ⟨client, .write body⟩ s = .ok (.stored metadata)) :
    metadata = body.record ∧ HoldsFrom body.content body.blockId 0 body.sets (after s [⟨client, .write body⟩]).state := by
  cases hends : body.source.contents.2 with
  | some text =>
    obtain ⟨e, he⟩ := body.write_fails hends client s
    rw [h] at he
    cases he
  | none =>
    obtain ⟨hreply, hholds⟩ := body.write_ends hends client s
    rw [h, Except.ok.injEq, StoreReply.stored.injEq] at hreply
    exact ⟨hreply, hholds⟩

/-- The sets of a body stay in their rows as long as no row operation names one of them and no other body is stored under
the same id in the same table. -/
theorem holds_after {steps : List StoreStep}
    (hapart : ∀ step ∈ steps, ∀ key, step.op.key? = some key → ∀ index : Nat, key.key ≠ body.blockId ++ ":" ++ index.repr)
    (hlatest : ∀ step ∈ steps, ¬step.op.WritesTo body.content body.blockId) {s : Logged MemoryStore}
    (h : HoldsFrom body.content body.blockId 0 body.sets s.state) :
    HoldsFrom body.content body.blockId 0 body.sets (after s steps).state := by
  refine h.congr fun index _ => row_after (fun step hstep htouch => ?_) s
  obtain ⟨client, op⟩ := step
  cases op with
  | row op =>
    have hkey : op.key = setKey body.content body.blockId (0 + index) := htouch
    exact hapart _ hstep op.key rfl (0 + index) (hkey ▸ rfl)
  | write later =>
    obtain ⟨i, hi⟩ := htouch
    obtain ⟨hspace, htable, hid, -⟩ := setKey_inj hi
    exact hlatest _ hstep ⟨hspace, htable, hid⟩
  | read layout content blockId record => exact htouch

/-- What is to be recorded of a body tells the number of its sets. -/
theorem countIn_record {row : Row} (h : row.Includes body.record) (hcount : body.blockCount < 2 ^ 63) :
    countIn row setCountColumn = body.sets.length := by
  have hcolumn : body.record[setCountColumn]? = some (.integer (Int64.ofNat body.sets.length)) :=
    Row.getElem?_ofList_of_mem (by simp only [List.map_cons, List.map_nil]; decide) (by simp)
  exact countIn_of_integer (h _ _ hcolumn) (Nat.lt_of_le_of_lt body.length_sets_le hcount)

/-- A store that holds the sets of a body gives it to every reader whose sets are large enough, and an error to any other. -/
theorem read_of_holds {store : MemoryStore} {place : RowKey} (h : HoldsFrom place body.blockId 0 body.sets store)
    (hcount : body.blockCount < 2 ^ 63) {record : Row} (hrecord : countIn record setCountColumn = body.sets.length)
    (client : MemoryClient) (reader : BlockSets) :
    (min body.layout.blocksPerSet body.blockCount ≤ reader.blocksPerSet →
      ∃ store', (reader.read client.access place body.blockId record).Gives store (.ok body.bytes) store') ∧
    (reader.blocksPerSet < min body.layout.blocksPerSet body.blockCount →
      ∃ e store', (reader.read client.access place body.blockId record).Gives store (.error e) store' ∧ e.code = .io) := by
  constructor
  · intro hfits
    have hsets : ∀ blocks ∈ body.sets, 0 < blocks.length ∧ blocks.length ≤ reader.blocksPerSet ∧ blocks.length < 2 ^ 63 := by
      intro blocks hblocks
      obtain ⟨hpos, hle⟩ := body.length_of_mem_sets hblocks
      have := Nat.min_le_right body.layout.blocksPerSet body.blockCount
      omega
    obtain ⟨store', hread⟩ := readSets_gives client reader body.sets.length body.sets.length 0 rfl h hsets
    rw [flatten_sets] at hread
    exact ⟨store', read_gives hrecord hread⟩
  · intro hlarge
    obtain ⟨first, rest, hsets, hfirst⟩ := body.exists_sets_eq_cons (by omega)
    have hword : first.length < 2 ^ 63 := by
      have := Nat.min_le_right body.layout.blocksPerSet body.blockCount
      omega
    have hread := readSets_gives_error client reader body.sets.length rest.length 0 (hsets ▸ h) (by omega) hword
    have htotal : rest.length + 1 = body.sets.length := by rw [hsets, List.length_cons]
    rw [htotal] at hread
    exact ⟨_, _, read_gives_error hrecord hread, rfl⟩

end BodyWrite

/-- In the course of a run, what is to be recorded of a body is inserted into a row, and this row is read back later, before
any row operation overwrites what was recorded. -/
def ReadBack (s : Logged MemoryStore) (steps : List StoreStep) (metadata record : Row) : Prop :=
  ∃ (key : RowKey) (recorder reader : MemoryClient) (earlier between rest : List StoreStep),
    steps = earlier ++ ⟨recorder, .row (.insert key (.ofRow metadata))⟩ :: (between ++ ⟨reader, .row (.get key)⟩ :: rest) ∧
    (∀ step ∈ between, ¬step.op.Overwrites key metadata) ∧
    reply ⟨reader, .row (.get key)⟩ (after s (earlier ++ ⟨recorder, .row (.insert key (.ofRow metadata))⟩ :: between)) =
      .ok (.row (some record))

/-- A row that was read back has all that was recorded in it, as long as no body is stored over it. -/
theorem ReadBack.includes {s : Logged MemoryStore} {steps : List StoreStep} {metadata record : Row}
    (h : ReadBack s steps metadata record) (hapart : KeysApart steps) : record.Includes metadata := by
  obtain ⟨key, recorder, reader, earlier, between, rest, rfl, hbetween, hreply⟩ := h
  have hbodies : ∀ step ∈ between, ∀ body, step.op = .write body → ¬step.op.Touches key := by
    intro step hstep body hop htouch
    rw [hop] at htouch
    obtain ⟨index, hindex⟩ := htouch
    refine hapart ⟨reader, .row (.get key)⟩ (by simp) key rfl step (by simp [hstep]) body.blockId (by simp [hop, StoreOp.blockId?])
      index ?_
    rw [← hindex]
    rfl
  have hinserted :
      ((after (after s earlier) [⟨recorder, .row (.insert key (.ofRow metadata))⟩]).state.row key).Includes metadata := by
    intro column v hcolumn
    obtain ⟨store', hgives, hrows⟩ := row_gives recorder (.insert key (.ofRow metadata)) (after s earlier).state
    have hstate : (after (after s earlier) [⟨recorder, .row (.insert key (.ofRow metadata))⟩]).state = store' :=
      (hgives.run_eq (after s earlier).journal).2
    rw [hstate, hrows, RowOp.effect, Function.update_self, Row.mapValues_id, Changes.getElem?_applyTo, Changes.get?_ofRow, hcolumn]
    rfl
  have hkept := columns_after hbetween hbodies _ hinserted
  have hread := reply_get reader key (after s (earlier ++ ⟨recorder, .row (.insert key (.ofRow metadata))⟩ :: between))
  rw [hreply, Except.ok.injEq, StoreReply.row.injEq, Option.some.injEq, after_append, after_cons] at hread
  rw [hread]
  exact hkept

/-- What was stored last under a block id is read back: after any run in which the latest attempt to store a body under the
id succeeded, a reader gets its bytes, be it by the metadata of that attempt or by a row in which they were recorded, if a
set of the reader takes as many blocks as the largest set stored; otherwise it gets an error. Block ids may be any texts,
layouts may differ from step to step and from the reader's, and attempts before the latest may have stored more or less or
have failed midway. The blocks of the body are counted in words of 64 bits. -/
theorem read_of_latest_write (s : Logged MemoryStore) (earlier later : List StoreStep) (writer : MemoryClient) (body : BodyWrite)
    (metadata record : Row) (hapart : KeysApart (earlier ++ ⟨writer, .write body⟩ :: later))
    (hok : reply ⟨writer, .write body⟩ (after s earlier) = .ok (.stored metadata))
    (hlatest : ∀ step ∈ later, ¬step.op.WritesTo body.content body.blockId) (hcount : body.blockCount < 2 ^ 63)
    (hrecord : record = metadata ∨ ReadBack (after s (earlier ++ [⟨writer, .write body⟩])) later metadata record)
    (client : MemoryClient) (reader : BlockSets) (place : RowKey) (hspace : place.space = body.content.space)
    (htable : place.table = body.content.table) :
    let result := ((reader.read client.access place body.blockId record).attempt.run
      (after s (earlier ++ ⟨writer, .write body⟩ :: later))).1
    (min body.layout.blocksPerSet body.blockCount ≤ reader.blocksPerSet → result = .ok body.bytes) ∧
    (reader.blocksPerSet < min body.layout.blocksPerSet body.blockCount → ∃ e, result = .error e ∧ e.code = .io) := by
  obtain ⟨hmetadata, hstored⟩ := body.reply_write hok
  have hkeys : ∀ step ∈ later, ∀ key, step.op.key? = some key → ∀ index : Nat, key.key ≠ body.blockId ++ ":" ++ index.repr :=
    fun step hstep key hkey index => hapart step (by simp [hstep]) key hkey ⟨writer, .write body⟩ (by simp) body.blockId rfl index
  have hlater : KeysApart later := fun step hstep key hkey step' hstep' =>
    hapart step (by simp [hstep]) key hkey step' (by simp [hstep'])
  have hincludes : record.Includes body.record := by
    rw [← hmetadata]
    rcases hrecord with rfl | hread
    · exact fun _ _ hcolumn => hcolumn
    · exact hread.includes hlater
  have hholds : HoldsFrom place body.blockId 0 body.sets (after s (earlier ++ ⟨writer, .write body⟩ :: later)).state := by
    rw [after_append, after_cons]
    intro index blocks hblocks
    rw [setKey_congr hspace htable]
    exact body.holds_after hkeys hlatest hstored index blocks hblocks
  obtain ⟨hfits, hlarge⟩ := body.read_of_holds hholds hcount (body.countIn_record hincludes hcount) client reader
  refine ⟨fun h => ?_, fun h => ?_⟩
  · obtain ⟨store', hgives⟩ := hfits h
    exact (hgives.run_eq _).1
  · obtain ⟨e, store', hgives, hcode⟩ := hlarge h
    exact ⟨e, (hgives.run_eq _).1, hcode⟩

/-- Five bytes that come in two reads with an interruption between them. -/
def fiveBytes : BodyWrite where
  layout := { blockSize := 2, blocksPerSet := 2, logger := .discard }
  content := ⟨"ns", "tab", "doc"⟩
  blockId := "b"
  source := [.bytes [1, 2, 3], .interrupted, .bytes [4, 5]]
  now := 0

/-- Five bytes are read back after a longer body was stored under their id before, and another one under an id that looks
like the key of their first set later. They were recorded in between. -/
theorem read_of_fiveBytes :
    let client : MemoryClient := ⟨fiveBytes.layout, .discard⟩
    let longer : BodyWrite := { fiveBytes with source := [.bytes (List.replicate 9 7)] }
    let other : BodyWrite := { fiveBytes with source := [.bytes [8]], blockId := "b:0" }
    let steps : List StoreStep :=
      [⟨client, .write longer⟩, ⟨client, .write fiveBytes⟩, ⟨client, .row (.insert fiveBytes.content (.ofRow fiveBytes.record))⟩]
    let done := after ⟨∅, {}⟩ (steps ++ [⟨client, .row (.get fiveBytes.content)⟩, ⟨client, .write other⟩])
    ((fiveBytes.layout.read client.access fiveBytes.content "b" ((after ⟨∅, {}⟩ steps).state.row fiveBytes.content)).attempt.run
      done).1 = .ok [1, 2, 3, 4, 5] := by
  intro client longer other steps done
  have hread := reply_get client fiveBytes.content (after ⟨∅, {}⟩ steps)
  have happly := read_of_latest_write ⟨∅, {}⟩ [⟨client, .write longer⟩]
    [⟨client, .row (.insert fiveBytes.content (.ofRow fiveBytes.record))⟩, ⟨client, .row (.get fiveBytes.content)⟩,
     ⟨client, .write other⟩]
    client fiveBytes fiveBytes.record ((after ⟨∅, {}⟩ steps).state.row fiveBytes.content) ?_
    (fiveBytes.write_ends rfl client _).1 ?_ (by decide)
    (.inr ⟨fiveBytes.content, client, client, [], [], [⟨client, .write other⟩], rfl, by simp, hread⟩)
    client fiveBytes.layout fiveBytes.content rfl rfl
  · exact happly.1 (by decide)
  · intro step hstep key hkey step' _ blockId _ index heq
    have hcontent : key = fiveBytes.content := by
      simp only [List.cons_append, List.nil_append, List.mem_cons, List.not_mem_nil, or_false] at hstep
      rcases hstep with rfl | rfl | rfl | rfl | rfl <;> simp_all [StoreOp.key?, RowOp.key]
    have hcolon : ':' ∈ key.key.toList := by
      rw [heq]
      simp [String.toList_append]
    rw [hcontent] at hcolon
    exact absurd hcolon (by decide)
  · intro step hstep
    simp only [List.mem_cons, List.not_mem_nil, or_false] at hstep
    rcases hstep with rfl | rfl | rfl <;> simp [StoreOp.WritesTo, other, fiveBytes]

end SparseRows
