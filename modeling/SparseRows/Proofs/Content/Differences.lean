import SparseRows.Proofs.Content.PlainItem

/-!
# What an item has to store

The overlay of an item holds just the difference between its baseline and its properties: what every operation keeps is that no
change in it agrees with the baseline (`Content.Minimal`). The baseline, in turn, is told by the history of the item alone, as
`Snapshot` follows it. So what an item has to store hangs on two rows and not on how it came to its properties
(`isDifference_of_history`).
-/

namespace SparseRows

open Std

/-- Whether changes make one row of another without a change too many: a column that has another value in the new row, or
comes to be in it, is put, one that the new row lacks is removed, and the others are left alone. -/
structure Changes.IsDifference (changes : Changes) (old new : Row) : Prop where
  put (name : String) (v : Value) : changes.get? name = some (.put v) ↔ new[name]? = some v ∧ old[name]? ≠ some v
  remove (name : String) : changes.get? name = some .remove ↔ name ∈ old ∧ name ∉ new

/-- Two rows have one difference. -/
theorem Changes.IsDifference.unique {a b : Changes} {old new : Row} (ha : a.IsDifference old new)
    (hb : b.IsDifference old new) : a = b := by
  have hsame : ∀ (name : String) (change : Change), a.get? name = some change ↔ b.get? name = some change := by
    intro name change
    cases change with
    | put v => rw [ha.put, hb.put]
    | remove => rw [ha.remove, hb.remove]
  refine Changes.ext_get? fun name => Option.ext fun change => ?_
  exact hsame name change

/-- How an item begins. -/
inductive ItemOrigin where
  /-- It is made and not stored yet. -/
  | made (path : String) (properties : Row) (logger : Logger)
  /-- It is made from what is stored. -/
  | loaded (path : String) (stored structureRow : Row) (readOnly : Bool) (logger : Logger)

/-- The beginning of an item and what was done to it since. -/
structure ItemHistory where
  origin : ItemOrigin
  ops : List ItemOp

/-- The row that an item goes back to without its changes, and whether it can be changed. -/
structure Snapshot where
  row : Row
  readOnly : Bool

namespace Snapshot

/-- What an operation on an item makes of its snapshot. Only an item that can be changed is reset. -/
def after (snapshot : Snapshot) : ItemOp → Snapshot
  | .edit _ | .touch _ _ => snapshot
  | .reset row => if snapshot.readOnly then snapshot else { snapshot with row }
  | .internalize _ readOnly => { snapshot with readOnly }

/-- What some operations make of it. -/
def afterAll (snapshot : Snapshot) (ops : List ItemOp) : Snapshot :=
  ops.foldl after snapshot

end Snapshot

namespace ItemOrigin

/-- The item at its beginning. -/
def item : ItemOrigin → Content
  | made path properties logger => .make path properties logger
  | loaded path stored structureRow readOnly logger => .ofStored path stored structureRow readOnly logger

/-- The row that the item begins with. -/
def snapshot : ItemOrigin → Snapshot
  | made _ properties _ => ⟨properties, false⟩
  | loaded _ stored _ readOnly _ => ⟨stored, readOnly⟩

end ItemOrigin

namespace ItemHistory

/-- The item that a history leads to. -/
def item {σ : Type} (history : ItemHistory) (s : Logged σ) : Content :=
  ((history.origin.item.runAll history.ops).run s).1

/-- The row that the item was made or loaded with, or that it was reset to last while it could be changed. -/
def baseline (history : ItemHistory) : Row :=
  (history.origin.snapshot.afterAll history.ops).row

end ItemHistory

namespace Content

variable {σ : Type} {content : Content} {snapshot : Snapshot}

/-! ## The overlay of one item -/

/-- The overlay is the difference between the baseline and the properties. -/
theorem Minimal.isDifference (h : content.Minimal) : content.overlay.IsDifference content.baseline content.properties where
  put name v := by
    rw [getElem?_properties, property?]
    cases hchange : content.overlay.get? name with
    | none => simp
    | some change =>
      have hdiffers := h name change hchange
      cases change with
      | put w =>
        simp only [Option.some.injEq, Change.put.injEq, Change.value?]
        constructor
        · rintro rfl
          exact ⟨rfl, Ne.symm hdiffers⟩
        · exact fun hput => hput.1
      | remove => simp [Change.value?]
  remove name := by
    rw [ExtTreeMap.mem_iff_isSome_getElem?, ExtTreeMap.mem_iff_isSome_getElem?, getElem?_properties, property?]
    cases hchange : content.overlay.get? name with
    | none => simp
    | some change =>
      have hdiffers := h name change hchange
      cases change with
      | put w => simp [Change.value?]
      | remove => simpa [Change.value?, Option.isSome_iff_ne_none] using Ne.symm hdiffers

/-- Nothing is in the overlay exactly if the properties are those of the baseline. -/
theorem Minimal.isEmpty_overlay_iff (h : content.Minimal) :
    content.overlay.isEmpty = true ↔ content.properties = content.baseline := by
  constructor
  · intro hempty
    have hcolumns : content.overlay.columns = ∅ := ExtTreeMap.isEmpty_iff.mp hempty
    exact properties_of_overlay_empty (congrArg Changes.mk hcolumns)
  · intro hsame
    refine ExtTreeMap.isEmpty_iff.mpr (ExtTreeMap.ext_getElem? fun name => ?_)
    have hnone : content.overlay.get? name = none := by
      rw [h.get?_eq_none_iff, ← getElem?_properties, hsame]
    rw [ExtTreeMap.getElem?_empty]
    exact hnone

/-- There is something to store of an item that can be changed if it is new or differs from its baseline. -/
theorem Minimal.isUpdated_iff (h : content.Minimal) :
    content.isUpdated = true ↔ content.readOnly = false ∧ (content.isNew = true ∨ content.properties ≠ content.baseline) := by
  rw [isUpdated, Bool.and_eq_true, Bool.or_eq_true, Bool.not_eq_true', Bool.not_eq_true', ← Bool.not_eq_true,
    ← Bool.not_eq_true, h.isEmpty_overlay_iff]

/-! ## Histories -/

/-- Touching an item keeps no change to what the baseline has anyway. -/
theorem Minimal.touch (h : content.Minimal) (actor : String) (now : Int64) : (content.touch actor now).Minimal := by
  unfold Content.touch
  refine Minimal.set (Minimal.set ?_ _ _) _ _
  split
  · exact (h.set _ _).set _ _
  · exact h

/-- What a history says of an item: its baseline, whether it can be changed, and that no change in its overlay is idle. -/
structure Follows (content : Content) (snapshot : Snapshot) : Prop where
  baseline : content.baseline = snapshot.row
  readOnly : content.readOnly = snapshot.readOnly
  minimal : content.Minimal

/-- An item that only its overlay has been changed of follows the same snapshot. -/
theorem Follows.congr (h : content.Follows snapshot) {content' : Content} (hsame : SameButOverlay content content')
    (hminimal : content'.Minimal) : content'.Follows snapshot :=
  ⟨hsame.baseline.trans h.baseline, hsame.readOnly.trans h.readOnly, hminimal⟩

/-- An item follows the snapshot that it was made from. -/
theorem follows_origin (origin : ItemOrigin) : origin.item.Follows origin.snapshot := by
  cases origin with
  | made path properties logger => exact ⟨rfl, rfl, minimal_make path properties logger⟩
  | loaded path stored structureRow readOnly logger =>
    exact ⟨rfl, rfl, (minimal_make path stored logger).internalize structureRow readOnly⟩

/-- An operation on an item does to the snapshot what it is said to do. -/
theorem Follows.perform_gives (h : content.Follows snapshot) (op : ItemOp) (s : σ) :
    ∃ content', (content.perform op).Gives s content' s ∧ content'.Follows (snapshot.after op) := by
  cases op with
  | edit e => exact ⟨_, .pure, h.congr (sameButOverlay_applyEdit e) (h.minimal.applyEdit e)⟩
  | touch actor now => exact ⟨_, .pure, h.congr (sameButOverlay_touch actor now) (h.minimal.touch actor now)⟩
  | reset row =>
    rw [perform, reset]
    cases hreadOnly : content.readOnly with
    | true =>
      have hsame : snapshot.after (.reset row) = snapshot := by
        rw [Snapshot.after, ← h.readOnly, hreadOnly, if_pos rfl]
      rw [hsame]
      exact ⟨content, .pure, h⟩
    | false =>
      have hreset : snapshot.after (.reset row) = { snapshot with row } := by
        rw [Snapshot.after, ← h.readOnly, hreadOnly, if_neg Bool.false_ne_true]
      rw [hreset]
      refine ⟨_, .bind .log .pure, rfl, hreadOnly.symm.trans h.readOnly, fun name change hchange => ?_⟩
      rw [Changes.get?_empty] at hchange
      cases hchange
  | internalize structureRow readOnly => exact ⟨_, .pure, h.baseline, rfl, h.minimal.internalize structureRow readOnly⟩

/-- So do operations one after the other. -/
theorem Follows.runAll_gives (h : content.Follows snapshot) (ops : List ItemOp) (s : σ) :
    ∃ content', (content.runAll ops).Gives s content' s ∧ content'.Follows (snapshot.afterAll ops) := by
  induction ops generalizing content snapshot with
  | nil => exact ⟨content, .pure, h⟩
  | cons op ops ih =>
    obtain ⟨content₁, hop, hfollows⟩ := h.perform_gives op s
    obtain ⟨content₂, hops, hfollows'⟩ := ih hfollows
    refine ⟨content₂, ?_, hfollows'⟩
    rw [runAll, List.foldlM_cons]
    exact .bind hop hops

/-- After any history an item follows the snapshot that the history makes. -/
theorem follows_history (history : ItemHistory) (s : Logged σ) :
    (history.item s).Follows (history.origin.snapshot.afterAll history.ops) := by
  obtain ⟨content', hgives, hfollows⟩ := (follows_origin history.origin).runAll_gives history.ops s.state
  rw [ItemHistory.item, (hgives.run_eq s.journal).1]
  exact hfollows

/-- Whatever was done to an item, what it has to store is known from its baseline and its properties. An item that is stored
has their difference to store, hence the same as any other with this baseline and these properties; one that is new has to
store what makes its properties of an empty row; and there is something to store just of an item that can be changed and is
new or differs from its baseline. The baseline is the row that the item was made or loaded with, or that it was reset to
last. -/
theorem isDifference_of_history (history : ItemHistory) (s : Logged σ) :
    let item := history.item s
    (item.isNew = false → item.changes.IsDifference history.baseline item.properties) ∧
    (item.isNew = false → ∀ (other : ItemHistory) (s' : Logged σ), (other.item s').isNew = false →
      other.baseline = history.baseline → (other.item s').properties = item.properties →
        (other.item s').changes = item.changes) ∧
    (item.isUpdated = true ↔ item.readOnly = false ∧ (item.isNew = true ∨ item.properties ≠ history.baseline)) ∧
    (item.isNew = true → item.changes.applyTo ∅ = item.properties) := by
  intro item
  have hdifference : ∀ (other : ItemHistory) (s' : Logged σ), (other.item s').isNew = false →
      (other.item s').changes.IsDifference other.baseline (other.item s').properties := by
    intro other s' hstored
    have hfollows := follows_history other s'
    rw [changes_of_not_isNew hstored, ItemHistory.baseline, ← hfollows.baseline]
    exact hfollows.minimal.isDifference
  have hfollows := follows_history history s
  refine ⟨hdifference history s, fun hstored other s' hother hbaseline hproperties => ?_, ?_, applyTo_changes_of_isNew⟩
  · have hdifference' := hdifference other s' hother
    rw [hbaseline, hproperties] at hdifference'
    exact hdifference'.unique (hdifference history s hstored)
  · rw [hfollows.minimal.isUpdated_iff, hfollows.baseline]
    rfl

/-- A page that is renamed, counted, renamed back and robbed of a property that it has not is left with its count to store,
as one that is only counted. -/
theorem isDifference_of_renamedBack :
    let origin : ItemOrigin := .loaded "/page" (Row.ofList [("title", .text "a")]) ∅ false .discard
    let renamed : ItemHistory :=
      ⟨origin, [.edit (.set "title" (.text "b")), .edit (.set "count" (.integer 1)), .edit (.set "title" (.text "a")),
        .edit (.unset "subtitle")]⟩
    let counted : ItemHistory := ⟨origin, [.edit (.set "count" (.integer 1))]⟩
    let s : Logged Unit := ⟨(), {}⟩
    (renamed.item s).changes = (counted.item s).changes ∧ (counted.item s).isUpdated = true := by
  intro origin renamed counted s
  have hread : ∀ ops, (ItemHistory.item ⟨origin, ops⟩ s).properties =
      (PlainItem.afterAll ⟨Row.ofList [("title", .text "a")], false, false⟩ ops).row := by
    intro ops
    obtain ⟨content', hgives, hplain⟩ := origin.item.runAll_gives ops s.state
    rw [ItemHistory.item, (hgives.run_eq s.journal).1, ← plain_ofStored "/page" _ ∅ false .discard]
    exact congrArg PlainItem.row hplain
  have hproperties : (renamed.item s).properties = (counted.item s).properties := by
    rw [hread, hread]
    refine ExtTreeMap.ext_getElem? fun name => ?_
    simp only [PlainItem.afterAll, PlainItem.after, Edit.applyTo, List.foldl_cons, List.foldl_nil, Bool.false_eq_true, if_false,
      ExtTreeMap.getElem?_insert, ExtTreeMap.getElem?_erase, LawfulEqOrd.compare_eq_iff_eq]
    by_cases hsubtitle : "subtitle" = name
    · subst hsubtitle
      rw [if_pos rfl, if_neg (by decide)]
      exact (Row.getElem?_ofList_of_notMem (by simp)).symm
    · by_cases htitle : "title" = name
      · subst htitle
        rw [if_neg hsubtitle, if_pos rfl, if_neg (by decide)]
        exact (Row.getElem?_ofList_of_mem (by simp) (by simp)).symm
      · simp only [if_neg hsubtitle, if_neg htitle]
  obtain ⟨-, hsame, hupdated, -⟩ := isDifference_of_history counted s
  refine ⟨hsame rfl renamed s rfl rfl hproperties, hupdated.mpr ⟨rfl, .inr fun heq => ?_⟩⟩
  have hcount : (counted.item s).properties["count"]? = counted.baseline["count"]? := by rw [heq]
  have habsent : counted.baseline["count"]? = none := Row.getElem?_ofList_of_notMem (by simp)
  rw [habsent, hread] at hcount
  simp [PlainItem.afterAll, PlainItem.after, Edit.applyTo] at hcount

end Content

end SparseRows
