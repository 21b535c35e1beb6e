import SparseRows.Proofs.Body.Stored

/-!
# Rows that are reached

Work on rows can be done on a store that has it written down which rows are reached, be it that they are asked for or
inserted into. This makes no difference to the work. In memory a row comes to be when it is reached, so the rows that there
are after a body was read are those from before and those that reading it reached (`read_reaches`).
-/

namespace SparseRows

/-- A store with the keys of the rows that were reached, in order. -/
structure Noted (σ : Type) where
  state : σ
  reached : List RowKey := []

namespace Noted

variable {σ ε α : Type}

/-- Work on the store itself. -/
def work (action : Action σ ε α) : Action (Noted σ) ε α :=
  ExceptT.mk fun s =>
    let (r, after) := action.attempt.run ⟨s.state.state, s.journal⟩
    (r, ⟨{ s.state with state := after.state }, after.journal⟩)

/-- Writes down that a row is reached. -/
def note (key : RowKey) : Action (Noted σ) ε Unit := do
  let noted ← currentState
  setState { noted with reached := noted.reached ++ [key] }

/-- Work that is not noted does what it does anyway. -/
theorem work_gives {action : Action σ ε α} {s t : σ} {r : Except ε α} (h : action.Gives s r t) (keys : List RowKey) :
    (work action).Gives ⟨s, keys⟩ r ⟨t, keys⟩ := by
  refine ⟨fun journal => ?_⟩
  obtain ⟨journal', hrun⟩ := h.run journal
  refine ⟨journal', ?_⟩
  simp only [work, Action.attempt, ExceptT.run_mk, StateT.run] at hrun ⊢
  rw [hrun]

/-- A note is put behind those before. -/
theorem note_gives (key : RowKey) (s : σ) (keys : List RowKey) :
    (note key : Action (Noted σ) ε Unit).Gives ⟨s, keys⟩ (.ok ()) ⟨s, keys ++ [key]⟩ :=
  .bind .currentState .setState

end Noted

namespace RowAccess

variable {σ : Type} (access : RowAccess σ)

/-- A store as rows, where it is written down which are reached. -/
def noting : RowAccess (Noted σ) where
  get key := do
    Noted.note key
    Noted.work (access.get key)
  insert key changes := do
    Noted.note key
    Noted.work (access.insert key changes)
  remove key := Noted.work (access.remove key)
  mostRows s := access.mostRows s.state

end RowAccess

/-- Work in memory gives the same where it is written down which rows are reached, and these come to be if they are not
there. -/
structure Action.Reaches {ε α : Type} (action : Action MemoryStore ε α) (noted : Action (Noted MemoryStore) ε α) : Prop where
  run : ∀ store, ∃ r store' keys, action.Gives store r store' ∧
    (∀ before, noted.Gives ⟨store, before⟩ r ⟨store', before ++ keys⟩) ∧ ∀ name, name ∈ store' ↔ name ∈ store ∨ name ∈ keys

namespace Action.Reaches

variable {ε α β : Type}

/-- Work that changes no store reaches no row. -/
theorem of_stays {action : Action MemoryStore ε α} {noted : Action (Noted MemoryStore) ε α} {r : Except ε α}
    (h : ∀ store, action.Gives store r store) (h' : ∀ s, noted.Gives s r s) : Reaches action noted := by
  refine ⟨fun store => ⟨r, store, [], h store, fun before => ?_, fun name => by simp⟩⟩
  rw [List.append_nil]
  exact h' _

theorem pure {a : α} : Reaches (Pure.pure a : Action MemoryStore ε α) (Pure.pure a) :=
  of_stays (fun _ => .pure) fun _ => .pure

theorem throw {e : ε} : Reaches (MonadExcept.throw e : Action MemoryStore ε α) (MonadExcept.throw e) :=
  of_stays (fun _ => .throw) fun _ => .throw

theorem liftExcept {result : Except ε α} : Reaches (liftM result : Action MemoryStore ε α) (liftM result) :=
  of_stays (fun _ => .liftExcept) fun _ => .liftExcept

theorem log {logger : Logger} {severity : Severity} {event : Event} {fields : List (String × String)} :
    Reaches (SparseRows.log logger severity event fields : Action MemoryStore ε Unit)
      (SparseRows.log logger severity event fields) :=
  of_stays (fun _ => .log) fun _ => .log

/-- Two actions reach the rows that either reaches. -/
theorem bind {action : Action MemoryStore ε α} {noted : Action (Noted MemoryStore) ε α} {f : α → Action MemoryStore ε β}
    {g : α → Action (Noted MemoryStore) ε β} (h : Reaches action noted) (h' : ∀ a, Reaches (f a) (g a)) :
    Reaches (action >>= f) (noted >>= g) := by
  refine ⟨fun store => ?_⟩
  obtain ⟨r, store₁, keys₁, hgives₁, hnoted₁, hmem₁⟩ := h.run store
  cases r with
  | error e => exact ⟨.error e, store₁, keys₁, .bind_error hgives₁, fun before => .bind_error (hnoted₁ before), hmem₁⟩
  | ok a =>
    obtain ⟨r, store₂, keys₂, hgives₂, hnoted₂, hmem₂⟩ := (h' a).run store₁
    refine ⟨r, store₂, keys₁ ++ keys₂, .bind hgives₁ hgives₂, fun before => .bind (hnoted₁ before) ?_, fun name => ?_⟩
    · rw [← List.append_assoc]
      exact hnoted₂ _
    · rw [hmem₂, hmem₁, List.mem_append, or_assoc]

/-- A row that is asked for is reached. -/
theorem get (client : MemoryClient) (key : RowKey) : Reaches (client.access.get key) (client.access.noting.get key) := by
  refine ⟨fun store => ⟨_, _, [key], client.access_get_gives store key, fun before => ?_, fun name => ?_⟩⟩
  · exact .bind (Noted.note_gives key store before) (Noted.work_gives (client.access_get_gives store key) _)
  · rw [Std.ExtTreeMap.mem_insertIfNew, List.mem_singleton, Std.LawfulEqOrd.compare_eq_iff_eq, or_comm, eq_comm]

/-- A row that is inserted into is reached. -/
theorem insert (client : MemoryClient) (key : RowKey) (changes : Changes) :
    Reaches (client.access.insert key changes) (client.access.noting.insert key changes) := by
  refine ⟨fun store => ⟨_, _, [key], client.access_insert_gives store key changes, fun before => ?_, fun name => ?_⟩⟩
  · exact .bind (Noted.note_gives key store before) (Noted.work_gives (client.access_insert_gives store key changes) _)
  · rw [Std.ExtTreeMap.mem_insert, List.mem_singleton, Std.LawfulEqOrd.compare_eq_iff_eq, or_comm, eq_comm]

end Action.Reaches

namespace Body.BlockSets

variable (client : MemoryClient) (content : RowKey) (blockId : String) (reader : BlockSets)

/-- Reading sets reaches the rows that it asks for. -/
theorem readSets_reaches (total left start : Nat) :
    Action.Reaches (reader.readSets client.access content blockId total left start)
      (reader.readSets client.access.noting content blockId total left start) := by
  induction left generalizing start with
  | zero => exact .pure
  | succ left ih =>
    refine .bind (.get client _) fun set => ?_
    dsimp only
    split
    · exact .bind .throw fun _ => .bind .liftExcept fun _ => .bind (ih _) fun _ => .pure
    · exact .bind .liftExcept fun _ => .bind (ih _) fun _ => .pure

/-- Reading a body gives the same where it is written down which rows are reached, and these come to be. -/
theorem read_reaches (record : Row) :
    Action.Reaches (reader.read client.access content blockId record) (reader.read client.access.noting content blockId record) :=
  .bind (readSets_reaches ..) fun _ => .bind .log fun _ => .pure

end Body.BlockSets

end SparseRows
