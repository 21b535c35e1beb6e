import Mathlib.Logic.Function.Basic
import SparseRows.Proofs.Work

/-!
# Lawful access to rows

What every store is to its clients: a row under every key, which is read as it is, changed by insertions alone, and emptied by
removals. Stores differ in the values that they take and in the form that they give them. `RowAccess.Lawful` says what holds of
the work of a store, with the rows behind a state as a view of it, so that what is done to rows can be told without the store.
-/

namespace SparseRows

/-- A row with another value in place of each of its own. -/
def Row.mapValues (f : Value → Value) (row : Row) : Row :=
  row.map fun _ v => f v

/-- A row in another form has its values in that form, in the same columns. -/
@[simp] theorem Row.getElem?_mapValues (f : Value → Value) (row : Row) (column : String) :
    (row.mapValues f)[column]? = row[column]?.map f := by
  simp [mapValues]

@[simp] theorem Row.mapValues_id (row : Row) : row.mapValues id = row := by
  refine Std.ExtTreeMap.ext_getElem? fun column => ?_
  rw [getElem?_mapValues, Option.map_id_fun, id]

@[simp] theorem Row.mapValues_empty (f : Value → Value) : Row.mapValues f ∅ = ∅ := by
  refine Std.ExtTreeMap.ext_getElem? fun column => ?_
  simp

/-- The row of every key. -/
abbrev Rows := RowKey → Row

/-- What can be done to the rows of a store. -/
inductive RowOp where
  | get (key : RowKey)
  | insert (key : RowKey) (changes : Changes)
  | remove (key : RowKey)

/-- Whether every value that the changes put is among some values. -/
def Changes.PutsOnly (changes : Changes) (Takes : Value → Prop) : Prop :=
  ∀ (column : String) (v : Value), changes.get? column = some (.put v) → Takes v

namespace RowOp

/-- The key of the row. -/
def key : RowOp → RowKey
  | get key | insert key _ | remove key => key

/-- Whether every value that is inserted is among some values. -/
def PutsOnly (Takes : Value → Prop) : RowOp → Prop
  | insert _ changes => changes.PutsOnly Takes
  | get _ | remove _ => True

/-- A store that takes all values takes those of every operation. -/
theorem putsOnly_true (op : RowOp) : op.PutsOnly fun _ => True := by
  cases op with
  | insert key changes => exact fun _ _ _ => trivial
  | get key | remove key => trivial

/-- The work of an operation. It gives a row if it asks for one. -/
def run {σ : Type} (access : RowAccess σ) : RowOp → Action σ StorageError (Option Row)
  | get key => return some (← access.get key)
  | insert key changes => do
    access.insert key changes
    return none
  | remove key => do
    access.remove key
    return none

/-- What an operation gives if the rows are these. -/
def reply (rows : Rows) : RowOp → Option Row
  | get key => some (rows key)
  | insert _ _ | remove _ => none

/-- The rows after an operation, in a store that gives values this form. -/
def effect (form : Value → Value) (rows : Rows) : RowOp → Rows
  | get _ => rows
  | insert key changes => Function.update rows key ((changes.applyTo (rows key)).mapValues form)
  | remove key => Function.update rows key ∅

/-- Whether an operation does not write the row of a key. -/
def Spares (name : RowKey) : RowOp → Prop
  | get _ => True
  | insert key _ | remove key => name ≠ key

/-- A row that an operation does not write is as it was. -/
theorem Spares.effect_eq {name : RowKey} {op : RowOp} (h : op.Spares name) (form : Value → Value) (rows : Rows) :
    op.effect form rows name = rows name := by
  cases op with
  | get key => rfl
  | insert key changes => exact Function.update_of_ne h ..
  | remove key => exact Function.update_of_ne h ..

/-- An operation writes no row but that of its key. -/
theorem spares_of_ne {name : RowKey} {op : RowOp} (h : name ≠ op.key) : op.Spares name := by
  cases op with
  | get key => trivial
  | insert key changes | remove key => exact h

/-- In a store that gives values a form, an operation gives the row in this form. -/
theorem reply_mapValues (form : Value → Value) (rows : Rows) (op : RowOp) :
    op.reply (fun key => (rows key).mapValues form) = (op.reply rows).map (Row.mapValues form) := by
  cases op <;> rfl

/-- A store that gives values a form has every row in this form after an operation, if it had before. -/
theorem effect_mapValues {form : Value → Value} (hform : ∀ v, form (form v) = form v) (rows : Rows) (op : RowOp) :
    op.effect form (fun key => (rows key).mapValues form) = fun key => (op.effect id rows key).mapValues form := by
  cases op with
  | get key => rfl
  | insert key changes =>
    have hrow : (changes.applyTo ((rows key).mapValues form)).mapValues form = (changes.applyTo (rows key)).mapValues form := by
      refine Std.ExtTreeMap.ext_getElem? fun column => ?_
      simp only [Row.getElem?_mapValues, Changes.getElem?_applyTo]
      cases changes.get? column with
      | some change => rfl
      | none =>
        rw [Option.elim_none, Option.elim_none, Option.map_map]
        exact congrArg (fun f => (rows key)[column]?.map f) (funext hform)
    funext name
    simp only [effect, Row.mapValues_id, hrow, Function.update_apply]
    split <;> rfl
  | remove key =>
    funext name
    simp only [effect, Function.update_apply]
    split
    · exact (Row.mapValues_empty form).symm
    · rfl

end RowOp

/-- The work of a store does to the rows of some keys what it says, and it does not fail. The rows behind a state are those
of the view; the store takes some values and gives them a form. -/
structure RowAccess.Lawful {σ : Type} (access : RowAccess σ) (View : σ → Rows → Prop) (Known : RowKey → Prop)
    (Takes : Value → Prop) (form : Value → Value) : Prop where
  get {s : σ} {rows : Rows} {key : RowKey} (hview : View s rows) (hknown : Known key) :
    ∃ t, (access.get key).Gives s (.ok (rows key)) t ∧ View t rows
  insert {s : σ} {rows : Rows} {key : RowKey} {changes : Changes} (hview : View s rows) (hknown : Known key)
    (htakes : changes.PutsOnly Takes) :
    ∃ t, (access.insert key changes).Gives s (.ok ()) t ∧ View t ((RowOp.insert key changes).effect form rows)
  remove {s : σ} {rows : Rows} {key : RowKey} (hview : View s rows) (hknown : Known key) :
    ∃ t, (access.remove key).Gives s (.ok ()) t ∧ View t ((RowOp.remove key).effect form rows)

namespace RowAccess.Lawful

variable {σ : Type} {access : RowAccess σ} {View : σ → Rows → Prop} {Known : RowKey → Prop} {Takes : Value → Prop}
  {form : Value → Value}

/-- Every operation gives what the rows say and leaves its effect on them. -/
theorem run_gives (h : access.Lawful View Known Takes form) (op : RowOp) {s : σ} {rows : Rows} (hview : View s rows)
    (hknown : Known op.key) (htakes : op.PutsOnly Takes) :
    ∃ t, (op.run access).Gives s (.ok (op.reply rows)) t ∧ View t (op.effect form rows) := by
  cases op with
  | get key =>
    obtain ⟨t, hgives, ht⟩ := h.get hview hknown
    exact ⟨t, .bind hgives .pure, ht⟩
  | insert key changes =>
    obtain ⟨t, hgives, ht⟩ := h.insert hview hknown htakes
    exact ⟨t, .bind hgives .pure, ht⟩
  | remove key =>
    obtain ⟨t, hgives, ht⟩ := h.remove hview hknown
    exact ⟨t, .bind hgives .pure, ht⟩

end RowAccess.Lawful

end SparseRows
