import SparseRows.Proofs.Memory.Rows
import SparseRows.Proofs.Relational.Fleet
import SparseRows.Proofs.Relational.TripleDriver

/-!
# The relational store simulates the store in memory

Whatever is done to a database by any number of clients in any order, a client in memory that does the same gets the same
rows, but for the form of the values: the database gives every value back as a text. The relation that each move keeps is
that the table shows the rows in memory in the form of texts, with one triple at most to a row and a column.
-/

namespace SparseRows

/-- What one of several clients does. -/
inductive Move (ι : Type) where
  | row (client : ι) (op : RowOp)
  /-- The client is made ready. -/
  | activate (client : ι)
  /-- The client is let rest. -/
  | passivate (client : ι)

namespace Move

variable {ι κ δ : Type}

/-- The key of a row operation. -/
def key? : Move ι → Option RowKey
  | row _ op => some op.key
  | activate _ | passivate _ => none

/-- Whether every value that is inserted is among some values. -/
def PutsOnly (Takes : Value → Prop) : Move ι → Prop
  | row _ op => op.PutsOnly Takes
  | activate _ | passivate _ => True

/-- What a move gives if the rows are these. -/
def reply (rows : Rows) : Move ι → Option Row
  | row _ op => op.reply rows
  | activate _ | passivate _ => none

/-- The rows after a move, in a store that gives values this form. -/
def effect (form : Value → Value) (rows : Rows) : Move ι → Rows
  | row _ op => op.effect form rows
  | activate _ | passivate _ => rows

/-- Whether a move does not write the row of a key. -/
def Spares (name : RowKey) : Move ι → Prop
  | row _ op => op.Spares name
  | activate _ | passivate _ => True

/-- A row that a move does not write is as it was. -/
theorem Spares.effect_eq {name : RowKey} {move : Move ι} (h : move.Spares name) (form : Value → Value) (rows : Rows) :
    move.effect form rows name = rows name := by
  cases move with
  | row i op => exact RowOp.Spares.effect_eq h form rows
  | activate i | passivate i => rfl

/-- The work of a client in memory that does the same. It is always ready. -/
def runInMemory (client : MemoryClient) : Move ι → Action MemoryStore StorageError (Option Row)
  | row _ op => op.run client.access
  | activate _ | passivate _ => return none

/-- A move of a client in memory gives what the rows say and leaves its effect on them. -/
theorem runInMemory_gives (client : MemoryClient) (move : Move ι) (store : MemoryStore) :
    ∃ store', (move.runInMemory client).Gives store (.ok (move.reply store.row)) store' ∧
      store'.row = move.effect id store.row := by
  cases move with
  | row i op =>
    obtain ⟨store', hgives, hview⟩ := client.access_lawful.run_gives op (s := store) rfl trivial op.putsOnly_true
    exact ⟨store', hgives, hview⟩
  | activate i => exact ⟨store, .pure, rfl⟩
  | passivate i => exact ⟨store, .pure, rfl⟩

/-- What some moves give, one after the other. -/
def replies (form : Value → Value) : Rows → List (Move ι) → List (Option Row)
  | _, [] => []
  | rows, move :: moves => move.reply rows :: replies form (move.effect form rows) moves

/-- The rows after some moves. -/
def effects (form : Value → Value) (rows : Rows) (moves : List (Move ι)) : Rows :=
  moves.foldl (effect form) rows

/-- In a store that gives values a form, moves give the rows in this form. -/
theorem replies_mapValues {form : Value → Value} (hform : ∀ v, form (form v) = form v) (rows : Rows) (moves : List (Move ι)) :
    replies form (fun key => (rows key).mapValues form) moves = (replies id rows moves).map (·.map (Row.mapValues form)) := by
  induction moves generalizing rows with
  | nil => rfl
  | cons move moves ih =>
    cases move with
    | row i op =>
      simp only [replies, reply, effect, List.map_cons, RowOp.reply_mapValues, RowOp.effect_mapValues hform, ih]
    | activate i => simp only [replies, reply, effect, List.map_cons, Option.map_none, ih]
    | passivate i => simp only [replies, reply, effect, List.map_cons, Option.map_none, ih]

/-- The work of some moves, one after the other, whether they fail or not. -/
def runAll {σ : Type} (work : Move ι → Action σ StorageError (Option Row)) (moves : List (Move ι)) :
    Step σ (List (Except StorageError (Option Row))) :=
  moves.mapM fun move => (work move).attempt

/-- If each move gives what the rows say and leaves its effect on them, so do moves one after the other. -/
theorem runAll_gives {σ : Type} {View : σ → Rows → Prop} {form : Value → Value}
    {work : Move ι → Action σ StorageError (Option Row)} {moves : List (Move ι)}
    (hstep : ∀ move ∈ moves, ∀ s rows, View s rows →
      ∃ t, (work move).Gives s (.ok (move.reply rows)) t ∧ View t (move.effect form rows))
    {s : σ} {rows : Rows} (hview : View s rows) :
    ∃ t, (runAll work moves).Gives s ((replies form rows moves).map .ok) t ∧ View t (effects form rows moves) := by
  induction moves generalizing s rows with
  | nil => exact ⟨s, .pure, hview⟩
  | cons move moves ih =>
    obtain ⟨t, hmove, ht⟩ := hstep move List.mem_cons_self s rows hview
    obtain ⟨u, hmoves, hu⟩ := ih (fun later hlater => hstep later (List.mem_cons_of_mem _ hlater)) ht
    refine ⟨u, ?_, hu⟩
    rw [runAll, List.mapM_cons]
    exact .bind hmove.attempt (.bind hmoves .pure)

/-- Moves of a client in memory give what the rows say. -/
theorem runAll_inMemory (client : MemoryClient) (moves : List (Move ι)) (store : MemoryStore) (journal : Journal) :
    ((runAll (runInMemory client) moves).run ⟨store, journal⟩).1 = (replies id store.row moves).map .ok := by
  have hstep : ∀ move ∈ moves, ∀ (store : MemoryStore) (rows : Rows), store.row = rows →
      ∃ store', (runInMemory client move).Gives store (.ok (move.reply rows)) store' ∧ store'.row = move.effect id rows := by
    rintro move - store rows rfl
    exact move.runInMemory_gives client store
  obtain ⟨store', hgives, -⟩ := runAll_gives hstep (rfl : store.row = store.row)
  exact (hgives.run_eq journal).1

variable [DecidableEq ι] [SqlConnection κ]

/-- The work of the client that makes a move. -/
def run (driver : Driver κ δ) (clients : ι → RelationalClient) : Move ι → Action (Fleet ι κ δ) StorageError (Option Row)
  | row i op => op.run (Fleet.access driver clients i)
  | activate i => do
    Fleet.onClient driver i (clients i).activate
    return none
  | passivate i => do
    Fleet.onClient driver i (clients i).passivate.toAction
    return none

variable {driver : Driver κ δ} {clients : ι → RelationalClient} {a : HashAlgorithm} {Known : RowKey → Prop}

/-- A move of one of several clients of a database gives what the rows say and leaves its effect on them, in the form of
texts. -/
theorem run_gives (hdriver : ∀ i, driver.Faithful (clients i).dialect) (halgorithm : ∀ i, (clients i).algorithm = a)
    (hseparated : RowKey.Separated a Known) {move : Move ι} (hknown : ∀ key, move.key? = some key → Known key)
    (htakes : move.PutsOnly Value.Textual) {fleet : Fleet ι κ δ} {rows : Rows} (hview : fleet.Shows driver a Known rows) :
    ∃ fleet', (move.run driver clients).Gives fleet (.ok (move.reply rows)) fleet' ∧
      fleet'.Shows driver a Known (move.effect Value.textForm rows) := by
  cases move with
  | row i op => exact (Fleet.access_lawful hdriver halgorithm hseparated i).run_gives op hview (hknown op.key rfl) htakes
  | activate i =>
    obtain ⟨session, hgives, hsees⟩ :=
      RelationalClient.activate_gives (hdriver i) (Fleet.checkOut_sees (hdriver i) (hview.ready i))
    exact ⟨_, .bind (Fleet.onClient_gives hgives) .pure,
      hview.checkIn hsees hview.keyed fun _ hname => hview.shows hname⟩
  | passivate i =>
    obtain ⟨session, hgives, hsees⟩ :=
      RelationalClient.passivate_gives (hdriver i) (Fleet.checkOut_sees (hdriver i) (hview.ready i))
    exact ⟨_, .bind (Fleet.onClient_gives (.toAction hgives)) .pure,
      hview.checkIn hsees hview.keyed fun _ hname => hview.shows hname⟩

end Move

/-- What any number of clients do to a database whose table is empty at first, by any operations in any order, gives the
rows that a client in memory gets by the same operations, with every value as its text. No operation fails, and no row id
and column id come to stand in the table twice, though only the clients see to that. It is assumed that the driver is
faithful, that no bytes are inserted, and that the digest does not take different keys among those used to the same bytes.
-/
theorem relational_simulates_memory {ι κ δ : Type} [DecidableEq ι] [SqlConnection κ] {driver : Driver κ δ}
    (clients : ι → RelationalClient) {a : HashAlgorithm} (hdriver : ∀ i, driver.Faithful (clients i).dialect)
    (halgorithm : ∀ i, (clients i).algorithm = a) (fleet : Fleet ι κ δ) (hready : ∀ i, (fleet.sessions i).Ready driver)
    (hempty : driver.triples fleet.database = 0) (moves : List (Move ι)) (htakes : ∀ move ∈ moves, move.PutsOnly Value.Textual)
    (hseparated : RowKey.Separated a fun key => ∃ move ∈ moves, move.key? = some key) (memory : MemoryClient)
    (journal journal' : Journal) :
    let inDatabase := (Move.runAll (Move.run driver clients) moves).run ⟨fleet, journal⟩
    let inMemory := (Move.runAll (Move.runInMemory memory) moves).run ⟨∅, journal'⟩
    ∃ replies : List (Option Row),
      inMemory.1 = replies.map .ok ∧
      inDatabase.1 = (replies.map (·.map (Row.mapValues Value.textForm))).map .ok ∧
      (driver.triples inDatabase.2.state.database).Keyed := by
  intro inDatabase inMemory
  have hview : fleet.Shows driver a (fun key => ∃ move ∈ moves, move.key? = some key)
      fun key => (MemoryStore.row ∅ key).mapValues Value.textForm := by
    refine ⟨hready, hempty ▸ Bag.keyed_zero, fun _ => ?_⟩
    rw [hempty, MemoryStore.row_empty, Row.mapValues_empty]
    exact Bag.shows_zero _
  obtain ⟨fleet', hfleet, hshows⟩ := Move.runAll_gives
    (fun move hmove fleet rows hrows =>
      Move.run_gives hdriver halgorithm hseparated (fun key hkey => ⟨move, hmove, hkey⟩) (htakes move hmove) hrows)
    hview
  obtain ⟨hdatabase, hstate⟩ := hfleet.run_eq journal
  refine ⟨_, Move.runAll_inMemory memory moves ∅ journal', ?_, hstate ▸ hshows.keyed⟩
  rw [← Move.replies_mapValues Value.textForm_textForm]
  exact hdatabase

/-- Two clients share a table of triples without an index: one inserts a number and a truth value and rests, the other
changes the row, and the first reads it. -/
theorem relational_simulates_memory_of_two :
    let key : RowKey := ⟨"ns", "tab", "doc"⟩
    let moves : List (Move Bool) :=
      [.row true (.insert key ((Changes.empty.put "n" (.integer 1)).put "flag" (.boolean true))), .passivate true,
       .row false (.insert key ((Changes.empty.put "n" (.integer 2)).remove "flag")), .row true (.get key)]
    let fleet : Fleet Bool TripleTable (List Triple) := ⟨[], fun _ => ⟨{}, .schemaChecked⟩⟩
    let inDatabase := (Move.runAll (Move.run TripleTable.driver fun _ => TripleTable.client) moves).run ⟨fleet, {}⟩
    ∃ row : Row, inDatabase.1 = [.ok none, .ok none, .ok none, .ok (some row)] ∧ row["n"]? = some (.text "2") ∧
      row["flag"]? = none ∧ (TripleTable.driver.triples inDatabase.2.state.database).Keyed := by
  intro key moves fleet inDatabase
  have hready : ∀ i, (fleet.sessions i).Ready TripleTable.driver := fun _ => ⟨rfl, rfl, fun heq => nomatch heq⟩
  have htakes : ∀ move ∈ moves, move.PutsOnly Value.Textual := by
    intro move hmove
    simp only [moves, List.mem_cons, List.not_mem_nil, or_false] at hmove
    rcases hmove with rfl | rfl | rfl | rfl
    · intro column v h
      simp only [Changes.get?_put, Changes.get?_empty] at h
      split at h
      · cases h
        rfl
      · split at h <;> cases h
        rfl
    · trivial
    · intro column v h
      simp only [Changes.get?_put, Changes.get?_remove, Changes.get?_empty] at h
      split at h
      · cases h
      · split at h <;> cases h
        rfl
    · trivial
  have hkey : ∀ name, (∃ move ∈ moves, move.key? = some name) → name = key := by
    rintro name ⟨move, hmove, hname⟩
    simp only [moves, List.mem_cons, List.not_mem_nil, or_false] at hmove
    rcases hmove with rfl | rfl | rfl | rfl <;> simp_all [Move.key?, RowOp.key]
  have hseparated : RowKey.Separated .sha256 fun name => ∃ move ∈ moves, move.key? = some name := by
    intro k k' hk hk' _
    rw [hkey k hk, hkey k' hk']
  obtain ⟨replies, hmemory, hdatabase, hkeyed⟩ := relational_simulates_memory (fun _ => TripleTable.client)
    (fun _ => TripleTable.driver_faithful TripleTable.dialect_speaks) (fun _ => rfl) fleet hready rfl moves htakes hseparated
    ⟨.ofSizes 1 1 .discard, .discard⟩ {} {}
  rw [Move.runAll_inMemory] at hmemory
  have hreplies := List.map_injective_iff.mpr (fun _ _ => Except.ok.inj) hmemory
  have hlist : Move.replies id (MemoryStore.row ∅) moves =
      [none, none, none, some (Move.effects id (MemoryStore.row ∅) moves key)] := rfl
  rw [← hreplies, hlist] at hdatabase
  simp only [List.map_cons, List.map_nil, Option.map_none, Option.map_some] at hdatabase
  refine ⟨_, hdatabase, ?_, ?_, ?_⟩
  · rw [Row.getElem?_mapValues]
    have htext : (Value.integer 2).textForm = .text "2" := by decide
    simp [moves, Move.effects, Move.effect, RowOp.effect, Change.value?, htext]
  · rw [Row.getElem?_mapValues]
    simp [moves, Move.effects, Move.effect, RowOp.effect, Change.value?]
  · unfold inDatabase
    exact hkeyed

end SparseRows
