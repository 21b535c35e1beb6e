import SparseRows.Proofs.Access
import SparseRows.Proofs.Body.Stored

/-!
# Runs on a store in memory

What several clients of one store do to it, step after step. A step touches the rows that it inserts into or removes and,
where it stores a body, the rows of the sets of that body; every other row is the same after a run of such steps
(`row_after`).
-/

namespace SparseRows

open Body Body.BlockSets

/-- The row has every column of another one, with the same value. -/
def Row.Includes (row columns : Row) : Prop :=
  ∀ (column : String) (v : Value), columns[column]? = some v → row[column]? = some v

theorem Row.Includes.refl (row : Row) : row.Includes row :=
  fun _ _ h => h

theorem Row.Includes.trans {a b c : Row} (h : a.Includes b) (h' : b.Includes c) : a.Includes c :=
  fun column v hcolumn => h column v (h' column v hcolumn)

namespace RowOp

/-- Whether an operation changes one of these columns of its row, or removes the row. -/
def Overwrites (columns : Row) : RowOp → Prop
  | get _ => False
  | insert _ changes => ∃ column ∈ columns, changes.get? column ≠ none
  | remove _ => True

/-- Columns that an operation does not overwrite stay in its row. -/
theorem includes_effect {op : RowOp} {rows : Rows} {columns : Row} (h : ¬op.Overwrites columns)
    (hrow : (rows op.key).Includes columns) : (op.effect id rows op.key).Includes columns := by
  cases op with
  | get key => exact hrow
  | insert key changes =>
    intro column v hcolumn
    have hmem : column ∈ columns := Std.ExtTreeMap.mem_iff_isSome_getElem?.mpr (by simp [hcolumn])
    have hnone : changes.get? column = none := Decidable.byContradiction fun hsome => h ⟨column, hmem, hsome⟩
    have hkept := hrow column v hcolumn
    simp only [effect, RowOp.key, Function.update_self, Row.mapValues_id, Changes.getElem?_applyTo, hnone] at hkept ⊢
    exact hkept
  | remove key => exact absurd trivial h

end RowOp

/-- The storing of a body: in which layout, for which content, under which block id, from what source and at what time. -/
structure BodyWrite where
  layout : BlockSets
  content : RowKey
  blockId : String
  source : Source
  now : Int64

/-- What can be done to a store in memory. A body is stored and read in a layout that need not be that of the client. -/
inductive StoreOp where
  | row (op : RowOp)
  | write (body : BodyWrite)
  | read (layout : BlockSets) (content : RowKey) (blockId : String) (record : Row)

/-- What comes back. -/
inductive StoreReply where
  /-- What a row operation gives. -/
  | row (row : Option Row)
  /-- What is to be recorded of a body. -/
  | stored (record : Row)
  | bytes (bytes : Bytes)

/-- A step of a run: what is done, and by which client. -/
structure StoreStep where
  client : MemoryClient
  op : StoreOp

namespace StoreOp

/-- The key that a row operation names. -/
def key? : StoreOp → Option RowKey
  | row op => some op.key
  | write _ | read .. => none

/-- The block id that a body is stored under. -/
def blockId? : StoreOp → Option String
  | write body => some body.blockId
  | row _ | read .. => none

/-- Whether a body of this block id is stored, in the table of the content. It may fail to be. -/
def WritesTo (content : RowKey) (blockId : String) : StoreOp → Prop
  | write body => body.content.space = content.space ∧ body.content.table = content.table ∧ body.blockId = blockId
  | row _ | read .. => False

/-- Whether the row of a key may change. -/
def Touches (name : RowKey) : StoreOp → Prop
  | row op => op.key = name
  | write body => ∃ index, setKey body.content body.blockId index = name
  | read .. => False

/-- Whether a row operation changes or removes one of these columns of a row. -/
def Overwrites (name : RowKey) (columns : Row) : StoreOp → Prop
  | row op => op.key = name ∧ op.Overwrites columns
  | write _ | read .. => False

end StoreOp

/-- No row operation of a run names a row that a set of a body stored in the run could be in, in any table. -/
def KeysApart (steps : List StoreStep) : Prop :=
  ∀ step ∈ steps, ∀ key, step.op.key? = some key → ∀ step' ∈ steps, ∀ blockId, step'.op.blockId? = some blockId →
    ∀ index : Nat, key.key ≠ blockId ++ ":" ++ index.repr

namespace StoreStep

/-- The work of a step. -/
def action (step : StoreStep) : Action MemoryStore StorageError StoreReply :=
  let rows := step.client.access
  match step.op with
  | .row op => return .row (← op.run rows)
  | .write body => return .stored (← body.layout.write rows body.content body.blockId body.source body.now)
  | .read layout content blockId record => return .bytes (← layout.read rows content blockId record)

/-- What a step gives back, an error if it fails. -/
def reply (step : StoreStep) (s : Logged MemoryStore) : Except StorageError StoreReply :=
  (step.action.attempt.run s).1

/-- The store and the journal after some steps. -/
def after (s : Logged MemoryStore) (steps : List StoreStep) : Logged MemoryStore :=
  steps.foldl (fun s step => (step.action.attempt.run s).2) s

/-- Steps are made one after the other. -/
theorem after_append (s : Logged MemoryStore) (steps steps' : List StoreStep) :
    after s (steps ++ steps') = after (after s steps) steps' :=
  List.foldl_append ..

theorem after_cons (s : Logged MemoryStore) (step : StoreStep) (steps : List StoreStep) :
    after s (step :: steps) = after (step.action.attempt.run s).2 steps := rfl

/-- A row operation gives what the rows say and leaves its effect on them. -/
theorem row_gives (client : MemoryClient) (op : RowOp) (store : MemoryStore) :
    ∃ store', (action ⟨client, .row op⟩).Gives store (.ok (.row (op.reply store.row))) store' ∧
      store'.row = op.effect id store.row := by
  obtain ⟨store', hgives, hview⟩ := client.access_lawful.run_gives op (s := store) rfl trivial op.putsOnly_true
  exact ⟨store', .bind hgives .pure, hview⟩

/-- Asking for a row gives the row. -/
theorem reply_get (client : MemoryClient) (key : RowKey) (s : Logged MemoryStore) :
    reply ⟨client, .row (.get key)⟩ s = .ok (.row (some (s.state.row key))) := by
  obtain ⟨store', hgives, -⟩ := row_gives client (.get key) s.state
  exact (hgives.run_eq s.journal).1

/-- A step comes to an end, and changes no row that it does not touch. -/
theorem action_frame (step : StoreStep) (store : MemoryStore) :
    ∃ result store', step.action.Gives store result store' ∧
      ∀ name, ¬step.op.Touches name → store'.row name = store.row name := by
  obtain ⟨client, op⟩ := step
  cases op with
  | row op =>
    obtain ⟨store', hgives, hrows⟩ := row_gives client op store
    refine ⟨_, store', hgives, fun name h => ?_⟩
    rw [hrows, (RowOp.spares_of_ne (Ne.symm h)).effect_eq id store.row]
  | write body =>
    obtain ⟨result, store', hwrite, hframe⟩ := write_frame body.layout client body.content body.blockId body.source body.now store
    have hrow : ∀ name, ¬(StoreOp.write body).Touches name → store'.row name = store.row name := by
      intro name h
      have hout : Outside body.content body.blockId 0 name := fun i _ heq => h ⟨i, heq⟩
      rw [MemoryStore.row, hframe name hout, MemoryStore.row]
    cases result with
    | error e => exact ⟨_, _, .bind_error hwrite, hrow⟩
    | ok metadata => exact ⟨_, _, .bind hwrite .pure, hrow⟩
  | read layout content blockId record =>
    obtain ⟨result, store', hread, hframe⟩ :=
      (read_keeps client content blockId layout record store).run store fun _ => rfl
    cases result with
    | error e => exact ⟨_, _, .bind_error hread, fun name _ => hframe name⟩
    | ok bytes => exact ⟨_, _, .bind hread .pure, fun name _ => hframe name⟩

/-- A run leaves a row alone that none of its steps touches. -/
theorem row_after {steps : List StoreStep} {name : RowKey} (h : ∀ step ∈ steps, ¬step.op.Touches name)
    (s : Logged MemoryStore) : (after s steps).state.row name = s.state.row name := by
  induction steps generalizing s with
  | nil => rfl
  | cons step steps ih =>
    obtain ⟨result, store', hgives, hframe⟩ := step.action_frame s.state
    have hstate : (step.action.attempt.run s).2.state = store' := (hgives.run_eq s.journal).2
    rw [after_cons, ih (fun later hlater => h later (List.mem_cons_of_mem _ hlater)), hstate]
    exact hframe name (h step List.mem_cons_self)

/-- In a run, columns of a row stay as they are if no row operation overwrites them and no body is stored over them. -/
theorem columns_after {steps : List StoreStep} {name : RowKey} {columns : Row}
    (h : ∀ step ∈ steps, ¬step.op.Overwrites name columns)
    (hbodies : ∀ step ∈ steps, ∀ body, step.op = .write body → ¬step.op.Touches name) (s : Logged MemoryStore)
    (hs : (s.state.row name).Includes columns) : ((after s steps).state.row name).Includes columns := by
  induction steps generalizing s with
  | nil => exact hs
  | cons step steps ih =>
    rw [after_cons]
    refine ih (fun later hlater => h later (List.mem_cons_of_mem _ hlater))
      (fun later hlater => hbodies later (List.mem_cons_of_mem _ hlater)) _ ?_
    have hstep := h step List.mem_cons_self
    by_cases htouch : step.op.Touches name
    · obtain ⟨client, op⟩ := step
      cases op with
      | row op =>
        obtain rfl : op.key = name := htouch
        obtain ⟨store', hgives, hrows⟩ := row_gives client op s.state
        have hstate : ((StoreStep.action ⟨client, .row op⟩).attempt.run s).2.state = store' := (hgives.run_eq s.journal).2
        rw [hstate, hrows]
        exact RowOp.includes_effect (fun hover => hstep ⟨rfl, hover⟩) hs
      | write body => exact absurd htouch (hbodies _ List.mem_cons_self body rfl)
      | read layout content blockId record => exact absurd htouch id
    · have hrow : (after s [step]).state.row name = s.state.row name := row_after (by simpa using htouch) s
      have hsame : (step.action.attempt.run s).2.state.row name = s.state.row name := hrow
      intro column v hcolumn
      rw [hsame]
      exact hs column v hcolumn

end StoreStep

end SparseRows
