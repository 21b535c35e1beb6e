import SparseRows.Proofs.Content.Edits
import SparseRows.Proofs.Memory.Rows

/-!
# Handing an item over

An item that is new is stored, then bound to its structure row, edited again and stored again. Binding keeps both the
overlay and the baseline that the item was made with, which are not what is stored by then: a property that was changed
before and gets its first value back afterwards drops out of the overlay, and the stored row keeps the value in between.
`upToDate_iff` says that this is the only way in which an edit is lost.
-/

namespace SparseRows.Content

variable {σ : Type}

/-- Inserts what an item has to store into its row, and gives the row as it is then. -/
def storeIn (content : Content) (access : RowAccess σ) (key : RowKey) : Action σ StorageError Row := do
  access.insert key content.changes
  access.get key

/-- In a store that takes what an item has to store, its row becomes what the changes make of it. -/
theorem storeIn_gives (content : Content) {access : RowAccess σ} {View : σ → Rows → Prop} {Known : RowKey → Prop}
    {Takes : Value → Prop} {form : Value → Value} (h : access.Lawful View Known Takes form) (key : RowKey) {s : σ} {rows : Rows}
    (hview : View s rows) (hknown : Known key) (htakes : content.changes.PutsOnly Takes) :
    ∃ t, (content.storeIn access key).Gives s (.ok ((content.changes.applyTo (rows key)).mapValues form)) t ∧
      View t ((RowOp.insert key content.changes).effect form rows) := by
  obtain ⟨t, hinsert, ht⟩ := h.insert hview hknown htakes
  obtain ⟨u, hget, hu⟩ := h.get ht hknown
  refine ⟨u, .bind hinsert ?_, hu⟩
  rwa [RowOp.effect, Function.update_self] at hget

/-- Stores an item, and later what became of it, and gives the row as it was after each. -/
def storeTwice (access : RowAccess σ) (key : RowKey) (made changed : Content) : Action σ StorageError (Row × Row) := do
  let stored ← made.storeIn access key
  let stored' ← changed.storeIn access key
  return (stored, stored')

variable {changed : Content}

/-- An item that is not updated, though it can be changed and is stored, has nothing in its overlay. -/
theorem overlay_of_not_isUpdated (hwritable : changed.readOnly = false) (hstored : changed.isNew = false)
    (h : changed.isUpdated = false) : changed.overlay = .empty := by
  simp only [isUpdated, hwritable, hstored, Bool.not_false, Bool.true_and, Bool.false_or, Bool.not_eq_false'] at h
  have hcolumns : changed.overlay.columns = ∅ := Std.ExtTreeMap.isEmpty_iff.mp h
  exact congrArg Changes.mk hcolumns

/-- The overlay of an item makes what another one over the same baseline has stored its own properties, unless a property is
as in the baseline that is not so in the other. -/
theorem applyTo_overlay_eq_iff (made : Content) (hminimal : changed.Minimal) :
    changed.overlay.applyTo made.properties = changed.properties ↔
      ∀ name, changed.property? name = changed.baseline[name]? → made.property? name = changed.baseline[name]? := by
  constructor
  · intro h name hsame
    have hcolumn : (changed.overlay.applyTo made.properties)[name]? = changed.property? name := by
      rw [h, getElem?_properties]
    rw [Changes.getElem?_applyTo, (hminimal.get?_eq_none_iff name).mpr hsame, getElem?_properties] at hcolumn
    exact hcolumn.trans hsame
  · intro h
    refine Std.ExtTreeMap.ext_getElem? fun name => ?_
    rw [Changes.getElem?_applyTo, getElem?_properties, getElem?_properties]
    cases hchange : changed.overlay.get? name with
    | some change => simp only [Option.elim_some, property?, hchange]
    | none =>
      have hsame := (hminimal.get?_eq_none_iff name).mp hchange
      rw [Option.elim_none, hsame]
      exact h name hsame

/-- What is stored of an item that was new, was handed over to its structure row and was edited before and after, is up to
date exactly if no property that was changed before has its first value again. This is so after it is stored again, and also
before if the item has nothing to store. -/
theorem upToDate_iff (path : String) (properties : Row) (logger : Logger) (structureRow : Row) (first later : List Edit)
    (client : MemoryClient) (key : RowKey) (s : Logged MemoryStore) (habsent : s.state.row key = ∅) :
    let made := (make path properties logger).applyEdits first
    let changed := (made.internalize structureRow false).applyEdits later
    let NoneChangedBack := ∀ name, changed.property? name = properties[name]? → made.property? name = properties[name]?
    ∃ stored stored', ((storeTwice client.access key made changed).attempt.run s).1 = .ok (stored, stored') ∧
      (stored' = changed.properties ↔ NoneChangedBack) ∧
      (changed.isUpdated = false → (stored = changed.properties ↔ NoneChangedBack)) := by
  intro made changed NoneChangedBack
  have hmade : SameButOverlay (make path properties logger) made := sameButOverlay_applyEdits first
  have hchanged : SameButOverlay (made.internalize structureRow false) changed := sameButOverlay_applyEdits later
  have hminimal : changed.Minimal :=
    (((minimal_make path properties logger).applyEdits first).internalize structureRow false).applyEdits later
  have hbaseline : changed.baseline = properties := hchanged.baseline.trans hmade.baseline
  have hnew : made.isNew = true := hmade.isNew
  have hstored : changed.isNew = false := hchanged.isNew
  have hwritable : changed.readOnly = false := hchanged.readOnly
  obtain ⟨t, hfirst, ht⟩ := made.storeIn_gives client.access_lawful key (s := s.state) rfl trivial fun _ _ _ => trivial
  obtain ⟨u, hlater, -⟩ := changed.storeIn_gives client.access_lawful key ht trivial fun _ _ _ => trivial
  rw [Row.mapValues_id, habsent, applyTo_changes_of_isNew hnew] at hfirst
  rw [RowOp.effect, Function.update_self, Row.mapValues_id, Row.mapValues_id, habsent, applyTo_changes_of_isNew hnew,
    changes_of_not_isNew hstored] at hlater
  have hiff := applyTo_overlay_eq_iff made hminimal
  rw [hbaseline] at hiff
  have htwice : (storeTwice client.access key made changed).Gives s.state
      (.ok (made.properties, changed.overlay.applyTo made.properties)) u := .bind hfirst (.bind hlater .pure)
  refine ⟨made.properties, changed.overlay.applyTo made.properties, (htwice.run_eq s.journal).1, hiff, fun hidle => ?_⟩
  have hempty := overlay_of_not_isUpdated hwritable hstored hidle
  have hnothing : changed.overlay.applyTo made.properties = made.properties := by rw [hempty]; rfl
  rwa [hnothing] at hiff

/-- A title that is changed before the item is handed over and changed back afterwards remains changed in the store, and the
item has nothing to store. -/
theorem upToDate_iff_of_titleChangedBack :
    let client : MemoryClient := .ofConfig {} .discard
    let draft : Row := Row.ofList [("title", .text "a")]
    let made := (make "/p" draft .discard).applyEdits [.set "title" (.text "b")]
    let changed := (made.internalize ∅ false).applyEdits [.set "title" (.text "a")]
    ∃ stored stored',
      ((storeTwice client.access ⟨"ns", "content", "/p"⟩ made changed).attempt.run ⟨∅, {}⟩).1 = .ok (stored, stored') ∧
      stored' ≠ changed.properties := by
  intro client draft made changed
  obtain ⟨stored, stored', hrun, hiff, -⟩ :=
    upToDate_iff "/p" draft .discard ∅ [.set "title" (.text "b")] [.set "title" (.text "a")] client
      ⟨"ns", "content", "/p"⟩ ⟨∅, {}⟩ (MemoryStore.row_empty _)
  refine ⟨stored, stored', hrun, fun h => ?_⟩
  have hdraft : draft["title"]? = some (.text "a") := Row.getElem?_ofList_of_mem (by simp) (by simp)
  have hmade : made.property? "title" = some (.text "b") := by
    rw [show made = (make "/p" draft .discard).set "title" (.text "b") from rfl, property?_set rfl, if_pos rfl]
  have hchanged : changed.property? "title" = some (.text "a") := by
    rw [show changed = (made.internalize ∅ false).set "title" (.text "a") from rfl, property?_set rfl, if_pos rfl]
  have hback := hiff.mp h "title" (hchanged.trans hdraft.symm)
  rw [hmade, hdraft] at hback
  exact absurd hback (by decide)

end SparseRows.Content
