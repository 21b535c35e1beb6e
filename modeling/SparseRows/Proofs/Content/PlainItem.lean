import SparseRows.Proofs.Content.Edits
import SparseRows.Proofs.Work

/-!
# Content items as plain rows

To those who read it, an item is a row that can be changed: the overlay, the baseline and what is left out of the overlay do
not show. `PlainItem` is such a row, with the two marks that decide what is done to it. Every operation on an item does to
the properties what it does to the plain row (`perform_gives`), so a run of them does (`runAll_gives`), and each way to read
the item reads the plain row (`reads_as_plain_item`).
-/

namespace SparseRows

open Std

/-- What can be done to an item. -/
inductive ItemOp where
  | edit (edit : Edit)
  | touch (actor : String) (now : Int64)
  | reset (baseline : Row)
  | internalize (structureRow : Row) (readOnly : Bool)

/-- A row that can be changed while it is not read-only. -/
structure PlainItem where
  row : Row
  /-- Whether the row has yet to be stored. -/
  isNew : Bool
  readOnly : Bool

/-- The row after an edit. -/
def Edit.applyTo : Edit → Row → Row
  | set name v, row => row.insert name v
  | unset name, row => row.erase name

namespace PlainItem

/-- The row with the marks of a change, and of a row that is new, those of its making. -/
def stamped (item : PlainItem) (actor : String) (now : Int64) : Row :=
  let made :=
    if item.isNew then (item.row.insert Field.created (.integer now)).insert Field.createdBy (.text actor) else item.row
  (made.insert Field.modified (.integer now)).insert Field.modifiedBy (.text actor)

/-- A plain row after an operation. Read-only rows remain as they are, but they can be bound anew, which leaves the columns
alone. -/
def after (item : PlainItem) : ItemOp → PlainItem
  | .edit e => if item.readOnly then item else { item with row := e.applyTo item.row }
  | .touch actor now => if item.readOnly then item else { item with row := item.stamped actor now }
  | .reset baseline => if item.readOnly then item else { item with row := baseline, isNew := false }
  | .internalize _ readOnly => { item with isNew := false, readOnly }

/-- A plain row after some operations. -/
def afterAll (item : PlainItem) (ops : List ItemOp) : PlainItem :=
  ops.foldl after item

end PlainItem

namespace Content

variable {σ : Type} {content : Content}

/-- An item as its readers see it. -/
def plain (content : Content) : PlainItem :=
  ⟨content.properties, content.isNew, content.readOnly⟩

/-- What an operation makes of an item. -/
def perform (content : Content) : ItemOp → Step σ Content
  | .edit e => return content.applyEdit e
  | .touch actor now => return content.touch actor now
  | .reset baseline => content.reset baseline
  | .internalize structureRow readOnly => return content.internalize structureRow readOnly

/-- What operations make of an item, one after the other. -/
def runAll (content : Content) (ops : List ItemOp) : Step σ Content :=
  ops.foldlM perform content

/-- An item without changes has its baseline as properties. -/
theorem properties_of_overlay_empty (h : content.overlay = .empty) : content.properties = content.baseline := by
  rw [properties, h]
  rfl

/-- A new item is the row that it was made with. -/
theorem plain_make (path : String) (properties : Row) (logger : Logger) :
    (make path properties logger).plain = ⟨properties, true, false⟩ := by
  rw [plain, properties_of_overlay_empty rfl]
  rfl

/-- An item that is read is the row that is stored of it. -/
theorem plain_ofStored (path : String) (stored structureRow : Row) (readOnly : Bool) (logger : Logger) :
    (ofStored path stored structureRow readOnly logger).plain = ⟨stored, false, readOnly⟩ := by
  rw [plain, properties_of_overlay_empty rfl]
  rfl

/-! ## One operation -/

/-- Staging a change makes it to the properties, whether it is kept in the overlay or not. -/
theorem properties_stage (name : String) (change : Change) :
    (content.stage name change).properties = change.applyTo name content.properties := by
  refine ExtTreeMap.ext_getElem? fun other => ?_
  rw [getElem?_properties, property?_stage, Change.getElem?_applyTo, getElem?_properties]

/-- Setting a property inserts it into what the item reads as. -/
theorem properties_set (hwritable : content.readOnly = false) (name : String) (v : Value) :
    (content.set name v).properties = content.properties.insert name v := by
  simp only [set, edit, hwritable, Bool.false_eq_true, if_false, properties_stage, Change.applyTo]

/-- Removing one erases it. -/
theorem properties_unset (hwritable : content.readOnly = false) (name : String) :
    (content.unset name).properties = content.properties.erase name := by
  simp only [unset, edit, hwritable, Bool.false_eq_true, if_false, properties_stage, Change.applyTo]

/-- An edit of an item that is read-only leaves it as it is. -/
theorem applyEdit_of_readOnly (h : content.readOnly = true) (e : Edit) : content.applyEdit e = content := by
  cases e <;> simp only [applyEdit, set, unset, edit, h, if_true]

/-- So what an item reads as after an edit is the row with the edit made on it. -/
theorem properties_applyEdit (hwritable : content.readOnly = false) (e : Edit) :
    (content.applyEdit e).properties = e.applyTo content.properties := by
  cases e with
  | set name v => exact properties_set hwritable name v
  | unset name => exact properties_unset hwritable name

/-- Touching an item that is read-only does nothing. -/
theorem touch_of_readOnly (h : content.readOnly = true) (actor : String) (now : Int64) : content.touch actor now = content := by
  simp only [touch, set, edit, h, if_true, ite_self]

/-- Whoever touches an item leaves the same marks in its properties as in a plain row. -/
theorem properties_touch (hwritable : content.readOnly = false) (actor : String) (now : Int64) :
    (content.touch actor now).properties = content.plain.stamped actor now := by
  have hset : ∀ name v, (content.set name v).readOnly = false := fun name v => (sameButOverlay_set name v).readOnly.trans hwritable
  cases hnew : content.isNew with
  | true =>
    have hset₂ : ∀ name v name' v', ((content.set name v).set name' v').readOnly = false :=
      fun name v name' v' => (sameButOverlay_set name' v').readOnly.trans (hset name v)
    have hset₃ : ∀ name v name' v' name'' v'', (((content.set name v).set name' v').set name'' v'').readOnly = false :=
      fun name v name' v' name'' v'' => (sameButOverlay_set name'' v'').readOnly.trans (hset₂ name v name' v')
    simp only [touch, PlainItem.stamped, plain, hnew, if_true, properties_set, hwritable, hset, hset₂, hset₃]
  | false =>
    simp only [touch, PlainItem.stamped, plain, hnew, Bool.false_eq_true, if_false, properties_set, hwritable, hset]

/-- An operation on an item does to what its readers see what it does to a plain row. -/
theorem perform_gives (content : Content) (op : ItemOp) (s : σ) :
    ∃ content', (content.perform op).Gives s content' s ∧ content'.plain = content.plain.after op := by
  cases op with
  | edit e =>
    refine ⟨_, .pure, ?_⟩
    have hsame : SameButOverlay content (content.applyEdit e) := sameButOverlay_applyEdit e
    cases hreadOnly : content.readOnly with
    | true => simp only [PlainItem.after, plain, hreadOnly, if_true, applyEdit_of_readOnly hreadOnly]
    | false =>
      simp only [PlainItem.after, plain, hreadOnly, Bool.false_eq_true, if_false, properties_applyEdit hreadOnly, hsame.isNew,
        hsame.readOnly]
  | touch actor now =>
    refine ⟨_, .pure, ?_⟩
    have hsame : SameButOverlay content (content.touch actor now) := sameButOverlay_touch actor now
    cases hreadOnly : content.readOnly with
    | true => simp only [PlainItem.after, plain, hreadOnly, if_true, touch_of_readOnly hreadOnly]
    | false =>
      have hproperties := properties_touch hreadOnly actor now
      simp only [plain, hreadOnly] at hproperties
      simp only [PlainItem.after, plain, hreadOnly, Bool.false_eq_true, if_false, hproperties, hsame.isNew, hsame.readOnly]
  | reset baseline =>
    cases hreadOnly : content.readOnly with
    | true =>
      refine ⟨content, ?_, by simp only [PlainItem.after, plain, hreadOnly, if_true]⟩
      rw [perform, reset, if_pos hreadOnly]
      exact .pure
    | false =>
      refine ⟨{ content with baseline, overlay := .empty, isNew := false }, ?_, ?_⟩
      · rw [perform, reset, if_neg (by simp [hreadOnly])]
        exact .bind .log .pure
      · rw [plain, properties_of_overlay_empty rfl]
        simp only [PlainItem.after, plain, hreadOnly, Bool.false_eq_true, if_false]
  | internalize structureRow readOnly => exact ⟨_, .pure, rfl⟩

/-! ## A run of operations -/

/-- Operations on an item, one after the other, do to what its readers see what they do to a plain row. -/
theorem runAll_gives (content : Content) (ops : List ItemOp) (s : σ) :
    ∃ content', (content.runAll ops).Gives s content' s ∧ content'.plain = content.plain.afterAll ops := by
  induction ops generalizing content with
  | nil => exact ⟨content, .pure, rfl⟩
  | cons op ops ih =>
    obtain ⟨content₁, hop, hplain⟩ := content.perform_gives op s
    obtain ⟨content₂, hops, hplain'⟩ := ih content₁
    refine ⟨content₂, ?_, ?_⟩
    · rw [runAll, List.foldlM_cons]
      exact .bind hop hops
    · rw [hplain', hplain]
      rfl

/-- Whether all ways to read an item read a row. -/
structure ReadsAs (content : Content) (row : Row) : Prop where
  properties : content.properties = row
  propertiesForUpdate : content.propertiesForUpdate = row
  property? (name : String) : content.property? name = row[name]?
  hasProperty (name : String) : content.hasProperty name = row.contains name

/-- All ways to read an item agree with the row of its properties. -/
theorem readsAs_properties (content : Content) : content.ReadsAs content.properties where
  properties := rfl
  propertiesForUpdate := rfl
  property? name := (getElem?_properties content name).symm
  hasProperty name := by rw [hasProperty, ← getElem?_properties, ExtTreeMap.contains_eq_isSome_getElem?]

/-- An item reads as a plain row that the same operations are made to, whatever they are and in whatever order: it starts
from the row that it is made with or that is stored of it, setting a property inserts it and removing one erases it,
touching the item inserts the marks, resetting it replaces the row, and handing it over leaves the row alone and decides
whether the others are skipped. -/
theorem reads_as_plain_item (path : String) (row : Row) (logger : Logger) (ops : List ItemOp) (s : Logged σ) :
    (((make path row logger).runAll ops).run s).1.ReadsAs (PlainItem.afterAll ⟨row, true, false⟩ ops).row ∧
    ∀ (structureRow : Row) (readOnly : Bool), (((ofStored path row structureRow readOnly logger).runAll ops).run s).1.ReadsAs
      (PlainItem.afterAll ⟨row, false, readOnly⟩ ops).row := by
  have hreads : ∀ content : Content, ((content.runAll ops).run s).1.ReadsAs (content.plain.afterAll ops).row := by
    intro content
    obtain ⟨content', hgives, hplain⟩ := content.runAll_gives ops s.state
    rw [(hgives.run_eq s.journal).1, ← hplain]
    exact content'.readsAs_properties
  constructor
  · rw [← plain_make path row logger]
    exact hreads _
  · intro structureRow readOnly
    rw [← plain_ofStored path row structureRow readOnly logger]
    exact hreads _

end Content

end SparseRows
