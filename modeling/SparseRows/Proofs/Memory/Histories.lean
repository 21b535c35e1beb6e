import SparseRows.Proofs.Memory.Runs
import SparseRows.Proofs.Noted

/-!
# Stores in memory by their history

What a store in memory holds is told by what was done to it: the row of a key is what the changes inserted under it since
its last removal make of an empty row, and the row is there if it was reached since then, be it that it was asked for,
inserted into or read as a set of a body. So the rows that came to be by reading never show to those who ask for rows
(`rows_by_history`). Keys are told apart part by part, and not by their texts.
-/

namespace SparseRows

open Body Body.BlockSets StoreStep

/-- The row that some changes make of an empty one, one after the other. -/
def Row.ofChanges (changes : List Changes) : Row :=
  changes.foldl (fun row changes => changes.applyTo row) ∅

namespace StoreOp

/-- The work of an operation on rows, of whatever store they are. -/
def work {σ : Type} (rows : RowAccess σ) : StoreOp → Action σ StorageError StoreReply
  | row op => return .row (← op.run rows)
  | write body => return .stored (← body.layout.write rows body.content body.blockId body.source body.now)
  | read layout content blockId record => return .bytes (← layout.read rows content blockId record)

/-- Whether the row of a key is removed. -/
def Removes (name : RowKey) : StoreOp → Prop
  | row (.remove key) => key = name
  | row (.get _) | row (.insert _ _) | write _ | read .. => False

/-- Whether an operation is meant to change a row. -/
def isChange : StoreOp → Bool
  | row (.insert _ _) | row (.remove _) | write _ => true
  | row (.get _) | read .. => false

/-- The changes inserted into a row since its last removal, once an operation is through, if they were these before. -/
def insertions (name : RowKey) (earlier : List Changes) : StoreOp → List Changes
  | row (.insert key changes) => if key = name then earlier ++ [changes] else earlier
  | row (.remove key) => if key = name then [] else earlier
  | row (.get _) | write _ | read .. => earlier

end StoreOp

namespace StoreStep

/-- The rows that a step reaches: those that it asks for or inserts into, and of a body that is read, those of the sets
asked for. -/
def reached (step : StoreStep) (s : Logged MemoryStore) : List RowKey :=
  ((step.op.work step.client.access.noting).attempt.run ⟨{ state := s.state }, s.journal⟩).2.state.reached

/-- The changes inserted into a row in the course of some steps since its last removal, in order. -/
def insertedSince (name : RowKey) (steps : List StoreStep) : List Changes :=
  steps.foldl (fun earlier step => step.op.insertions name earlier) []

/-- A row is reached in the course of some steps, and not removed from then on. -/
def ReachedSince (s : Logged MemoryStore) (steps : List StoreStep) (name : RowKey) : Prop :=
  ∃ earlier step later, steps = earlier ++ step :: later ∧ name ∈ step.reached (after s earlier) ∧
    ∀ other ∈ later, ¬other.op.Removes name

/-- What a step does is the work of its operation through the access of its client. -/
theorem action_eq_work (step : StoreStep) : step.action = step.op.work step.client.access := by
  obtain ⟨client, op⟩ := step
  cases op <;> rfl

theorem reached_remove (client : MemoryClient) (key : RowKey) (s : Logged MemoryStore) :
    reached ⟨client, .row (.remove key)⟩ s = [] := rfl

/-! ## One step -/

/-- An operation that stores no body and removes nothing reaches the rows that it asks for or inserts into. -/
theorem work_reaches (client : MemoryClient) {op : StoreOp} (hbody : op.blockId? = none) (hkeeps : ∀ name, ¬op.Removes name) :
    Action.Reaches (op.work client.access) (op.work client.access.noting) := by
  cases op with
  | row op =>
    refine .bind ?_ fun _ => .pure
    cases op with
    | get key => exact .bind (.get client key) fun _ => .pure
    | insert key changes => exact .bind (.insert client key changes) fun _ => .pure
    | remove key => exact absurd rfl (hkeeps key)
  | write body => cases hbody
  | read layout content blockId record => exact .bind (read_reaches client content blockId layout record) fun _ => .pure

/-- After a step that stores no body there are the rows from before and those that it reached, but for one that it removed. -/
theorem mem_step_iff {step : StoreStep} (hbody : step.op.blockId? = none) (s : Logged MemoryStore) (name : RowKey) :
    name ∈ (step.action.attempt.run s).2.state ↔ (name ∈ s.state ∧ ¬step.op.Removes name) ∨ name ∈ step.reached s := by
  rw [action_eq_work]
  by_cases hkeeps : ∀ name, ¬step.op.Removes name
  · obtain ⟨r, store', keys, hgives, hnoted, hmem⟩ := (work_reaches step.client hbody hkeeps).run s.state
    have hkeys : step.reached s = keys := congrArg Noted.reached ((hnoted []).run_eq s.journal).2
    rw [(hgives.run_eq s.journal).2, hmem, hkeys, and_iff_left (hkeeps name)]
  · obtain ⟨client, op⟩ := step
    rcases op with (key | ⟨key, changes⟩ | key) | body | _
    · exact absurd (fun _ h => h) hkeeps
    · exact absurd (fun _ h => h) hkeeps
    · have hgives : (StoreOp.work client.access (.row (.remove key))).Gives s.state (.ok (.row none)) (s.state.erase key) :=
        .bind (.bind (client.access_remove_gives s.state key) .pure) .pure
      rw [(hgives.run_eq s.journal).2, Std.ExtTreeMap.mem_erase, reached_remove]
      simp [StoreOp.Removes, and_comm]
    · cases hbody
    · exact absurd (fun _ h => h) hkeeps

/-- If changes make the row of a key, a step that stores no body leaves it to those that there are then. -/
theorem row_step {step : StoreStep} (hbody : step.op.blockId? = none) {s : Logged MemoryStore} {name : RowKey}
    {changes : List Changes} (h : s.state.row name = Row.ofChanges changes) :
    (step.action.attempt.run s).2.state.row name = Row.ofChanges (step.op.insertions name changes) := by
  obtain ⟨client, op⟩ := step
  cases op with
  | row op =>
    obtain ⟨store', hgives, hrows⟩ := row_gives client op s.state
    rw [(hgives.run_eq s.journal).2, hrows]
    cases op with
    | get key => exact h
    | insert key inserted =>
      rw [RowOp.effect, Row.mapValues_id, StoreOp.insertions]
      by_cases hkey : key = name
      · subst hkey
        rw [Function.update_self, if_pos rfl, Row.ofChanges, List.foldl_append, h]
        rfl
      · rw [Function.update_of_ne (Ne.symm hkey), if_neg hkey, h]
    | remove key =>
      rw [RowOp.effect, StoreOp.insertions]
      by_cases hkey : key = name
      · subst hkey
        rw [Function.update_self, if_pos rfl]
        rfl
      · rw [Function.update_of_ne (Ne.symm hkey), if_neg hkey, h]
  | write body => cases hbody
  | read layout content blockId record =>
    have hsame : (after s [⟨client, .read layout content blockId record⟩]).state.row name = s.state.row name :=
      row_after (by simp [StoreOp.Touches]) s
    exact hsame.trans h

/-! ## A run of steps -/

/-- A row was reached by the first step and not removed since, or it was reached later. -/
theorem reachedSince_cons_iff {s : Logged MemoryStore} {step : StoreStep} {steps : List StoreStep} {name : RowKey} :
    ReachedSince s (step :: steps) name ↔
      (name ∈ step.reached s ∧ ∀ other ∈ steps, ¬other.op.Removes name) ∨
        ReachedSince (step.action.attempt.run s).2 steps name := by
  constructor
  · rintro ⟨earlier, last, later, hsteps, hreached, hlater⟩
    cases earlier with
    | nil =>
      obtain ⟨rfl, rfl⟩ := List.cons.inj hsteps
      exact .inl ⟨hreached, hlater⟩
    | cons first earlier =>
      obtain ⟨rfl, rfl⟩ := List.cons.inj hsteps
      exact .inr ⟨earlier, last, later, rfl, hreached, hlater⟩
  · rintro (⟨hreached, hlater⟩ | ⟨earlier, last, later, rfl, hreached, hlater⟩)
    · exact ⟨[], step, steps, rfl, hreached, hlater⟩
    · exact ⟨step :: earlier, last, later, rfl, hreached, hlater⟩

/-- After a run in which no body is stored, there are the rows that were there before and never removed, and those that were
reached since they were removed last. -/
theorem mem_after_iff {steps : List StoreStep} (hbodies : ∀ step ∈ steps, step.op.blockId? = none) (s : Logged MemoryStore)
    (name : RowKey) :
    name ∈ (after s steps).state ↔
      (name ∈ s.state ∧ ∀ step ∈ steps, ¬step.op.Removes name) ∨ ReachedSince s steps name := by
  induction steps generalizing s with
  | nil =>
    have hnone : ¬ReachedSince s [] name := by
      rintro ⟨earlier, step, later, hsteps, -⟩
      simp at hsteps
    simp [after, hnone]
  | cons step steps ih =>
    rw [after_cons, ih (fun later hlater => hbodies later (List.mem_cons_of_mem _ hlater)),
      mem_step_iff (hbodies step List.mem_cons_self), reachedSince_cons_iff, List.forall_mem_cons]
    tauto

/-- In a run in which no body is stored, the changes inserted into a row since its last removal make the row. -/
theorem row_after_eq {steps : List StoreStep} (hbodies : ∀ step ∈ steps, step.op.blockId? = none) {s : Logged MemoryStore}
    {name : RowKey} {changes : List Changes} (h : s.state.row name = Row.ofChanges changes) :
    (after s steps).state.row name =
      Row.ofChanges (steps.foldl (fun earlier step => step.op.insertions name earlier) changes) := by
  induction steps generalizing s changes with
  | nil => exact h
  | cons step steps ih =>
    rw [after_cons, List.foldl_cons]
    exact ih (fun later hlater => hbodies later (List.mem_cons_of_mem _ hlater)) (row_step (hbodies step List.mem_cons_self) h)

/-- Only changes of rows count for what was inserted into a row. -/
theorem insertedSince_filter (name : RowKey) (steps : List StoreStep) :
    insertedSince name (steps.filter (·.op.isChange)) = insertedSince name steps := by
  have hidle : ∀ (changes : List Changes) (op : StoreOp), op.isChange = false → op.insertions name changes = changes := by
    intro changes op h
    rcases op with (key | ⟨key, inserted⟩ | key) | body | _
    · rfl
    · cases h
    · cases h
    · rfl
    · rfl
  rw [insertedSince, List.foldl_filter, insertedSince]
  congr 1
  funext changes step
  cases hchange : step.op.isChange with
  | true => rw [if_pos rfl]
  | false => rw [if_neg Bool.false_ne_true, hidle changes step.op hchange]

/-- A store in memory that several clients have worked on from the first, without storing a body, is known by what they did.
No operation on rows fails. Asking for a row gives what the changes inserted under its key since its last removal make of an
empty row, so that asking for rows and reading bodies, whether that fails or not, makes no difference to what is given
later. A row is there if it was asked for, inserted into, or read as a set of a body since its last removal. -/
theorem rows_by_history (steps : List StoreStep) (journal : Journal) (hbodies : ∀ step ∈ steps, step.op.blockId? = none) :
    let done := after ⟨∅, journal⟩ steps
    (∀ client op, ∃ row, reply ⟨client, .row op⟩ done = .ok (.row row)) ∧
    (∀ client key, reply ⟨client, .row (.get key)⟩ done = .ok (.row (some (Row.ofChanges (insertedSince key steps))))) ∧
    (∀ (others : List StoreStep) (journal' : Journal), (∀ step ∈ others, step.op.blockId? = none) →
      others.filter (·.op.isChange) = steps.filter (·.op.isChange) →
      ∀ client key, reply ⟨client, .row (.get key)⟩ (after ⟨∅, journal'⟩ others) = reply ⟨client, .row (.get key)⟩ done) ∧
    ∀ key, key ∈ done.state ↔ ReachedSince ⟨∅, journal⟩ steps key := by
  intro done
  have hget : ∀ (steps : List StoreStep) (journal : Journal), (∀ step ∈ steps, step.op.blockId? = none) → ∀ client key,
      reply ⟨client, .row (.get key)⟩ (after ⟨∅, journal⟩ steps) = .ok (.row (some (Row.ofChanges (insertedSince key steps)))) := by
    intro steps journal hbodies client key
    have hempty : MemoryStore.row ∅ key = Row.ofChanges [] := MemoryStore.row_empty key
    rw [reply_get, row_after_eq hbodies hempty]
    rfl
  refine ⟨fun client op => ?_, hget steps journal hbodies, fun others journal' hothers hchanges client key => ?_, fun key => ?_⟩
  · obtain ⟨store', hgives, -⟩ := row_gives client op done.state
    exact ⟨_, (hgives.run_eq done.journal).1⟩
  · rw [hget others journal' hothers, hget steps journal hbodies, ← insertedSince_filter key others, hchanges,
      insertedSince_filter key steps]
  · rw [mem_after_iff hbodies]
    simp

/-- Two keys of one text: what is inserted under the first is given back, which is a title alone, and the second one has an
empty row though it was asked for. A body that is recorded but was never stored cannot be read, and leaves the row of its
first set behind. -/
theorem rows_by_history_of_sameText :
    let client : MemoryClient := ⟨.ofSizes 1 1 .discard, .discard⟩
    let first : RowKey := ⟨"a:b", "c", "d"⟩
    let second : RowKey := ⟨"a", "b:c", "d"⟩
    let title : Changes := Changes.empty.put "title" (.text "x")
    let steps : List StoreStep :=
      [⟨client, .row (.insert first title)⟩, ⟨client, .row (.get second)⟩,
        ⟨client, .read client.bodies second "e" (Row.ofList [(setCountColumn, .integer 1)])⟩]
    let done := after ⟨∅, {}⟩ steps
    first.toText = second.toText ∧ reply ⟨client, .row (.get first)⟩ done = .ok (.row (some (title.applyTo ∅))) ∧
      (∀ name, (title.applyTo ∅)[name]? = if name = "title" then some (.text "x") else none) ∧
      reply ⟨client, .row (.get second)⟩ done = .ok (.row (some ∅)) ∧ second.withKey "e:0" ∈ done.state := by
  intro client first second title steps done
  have hbodies : ∀ step ∈ steps, step.op.blockId? = none := by simp [steps, StoreOp.blockId?]
  obtain ⟨-, hget, -, hmem⟩ := rows_by_history steps {} hbodies
  have hcolumns : ∀ name, (title.applyTo ∅)[name]? = if name = "title" then some (.text "x") else none := by
    intro name
    rw [Changes.getElem?_applyTo, Changes.get?_put, Changes.get?_empty]
    by_cases hname : name = "title"
    · rw [if_pos hname.symm, if_pos hname]
      rfl
    · rw [if_neg (Ne.symm hname), if_neg hname]
      rfl
  refine ⟨by decide, hget client first, hcolumns, hget client second, (hmem _).mpr ?_⟩
  exact ⟨steps.take 2, _, [], rfl, by decide, by simp⟩

end StoreStep

end SparseRows
