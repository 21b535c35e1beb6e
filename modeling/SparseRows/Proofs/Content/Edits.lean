import SparseRows.Content.Basic

/-!
# Edits of content items

What holds of the overlay of an item whatever is done to it: a change is in it only if it makes a difference to the baseline
(`Minimal`). So the overlay tells which properties differ from the baseline, and what an item has to store follows from what
can be looked up in it.
-/

namespace SparseRows

/-- What users do to properties. -/
inductive Edit where
  | set (name : String) (v : Value)
  | unset (name : String)

namespace Changes

/-- Changes made after those of a list, of which none is to the column, leave it to the others. -/
theorem get?_foldl_insert_of_notMem {changes : List (String × Change)} {name : String} (others : Changes)
    (h : name ∉ changes.map (·.1)) :
    (changes.foldl (fun acc (column, change) => acc.insert column change) others).get? name = others.get? name := by
  induction changes generalizing others with
  | nil => rfl
  | cons head rest ih =>
    obtain ⟨column, change⟩ := head
    simp only [List.map_cons, List.mem_cons, not_or] at h
    rw [List.foldl_cons, ih _ h.2, get?_insert, if_neg (Ne.symm h.1)]

/-- Of changes to different columns each is found under its column. -/
theorem get?_foldl_insert_of_mem {changes : List (String × Change)} {name : String} {change : Change} (others : Changes)
    (hnodup : (changes.map (·.1)).Nodup) (h : (name, change) ∈ changes) :
    (changes.foldl (fun acc (column, change) => acc.insert column change) others).get? name = some change := by
  induction changes generalizing others with
  | nil => cases h
  | cons head rest ih =>
    obtain ⟨column, first⟩ := head
    rw [List.map_cons, List.nodup_cons] at hnodup
    rw [List.foldl_cons]
    rcases List.mem_cons.mp h with heq | hmem
    · obtain ⟨rfl, rfl⟩ := Prod.mk.inj heq
      rw [get?_foldl_insert_of_notMem _ hnodup.1, get?_insert, if_pos rfl]
    · exact ih _ hnodup.2 hmem

/-- Of changes put over others, the upper ones count. -/
theorem get?_foldl_toList (changes others : Changes) (name : String) :
    (changes.toList.foldl (fun acc (column, change) => acc.insert column change) others).get? name =
      (changes.get? name).or (others.get? name) := by
  cases h : changes.get? name with
  | none =>
    refine get?_foldl_insert_of_notMem others fun hmem => ?_
    obtain ⟨⟨column, change⟩, hin, rfl⟩ := List.mem_map.mp hmem
    rw [mem_toList_iff.mp hin] at h
    cases h
  | some change => exact get?_foldl_insert_of_mem others changes.nodup_toList (mem_toList_iff.mpr h)

end Changes

namespace Content

/-- The item after an edit. -/
def applyEdit (content : Content) : Edit → Content
  | .set name v => content.set name v
  | .unset name => content.unset name

/-- The item after some edits. -/
def applyEdits (content : Content) (edits : List Edit) : Content :=
  edits.foldl applyEdit content

/-- Every change in the overlay makes a difference to the baseline. -/
def Minimal (content : Content) : Prop :=
  ∀ (name : String) (change : Change), content.overlay.get? name = some change → change.value? ≠ content.baseline[name]?

/-- What remains of an item through edits of its properties: all but the overlay. -/
structure SameButOverlay (content content' : Content) : Prop where
  baseline : content'.baseline = content.baseline
  isNew : content'.isNew = content.isNew
  readOnly : content'.readOnly = content.readOnly

theorem SameButOverlay.refl (content : Content) : SameButOverlay content content :=
  ⟨rfl, rfl, rfl⟩

theorem SameButOverlay.trans {a b c : Content} (h : SameButOverlay a b) (h' : SameButOverlay b c) : SameButOverlay a c :=
  ⟨h'.baseline.trans h.baseline, h'.isNew.trans h.isNew, h'.readOnly.trans h.readOnly⟩

variable {content : Content}

/-- An item that was just made has no changes. -/
theorem minimal_make (path : String) (properties : Row) (logger : Logger) : (make path properties logger).Minimal := by
  intro name change h
  simp [make] at h

/-- A change that is staged is kept only if it makes a difference to the baseline. -/
theorem Minimal.stage (h : content.Minimal) (name : String) (change : Change) : (content.stage name change).Minimal := by
  intro other change' hchange
  unfold Content.stage at hchange ⊢
  by_cases hbaseline : content.baseline[name]? = change.value?
  · rw [if_pos hbaseline] at hchange ⊢
    rw [Changes.get?_forget] at hchange
    split at hchange
    · cases hchange
    · exact h other change' hchange
  · rw [if_neg hbaseline] at hchange ⊢
    rw [Changes.get?_insert] at hchange
    split at hchange
    · rename_i hname
      subst hname
      rw [Option.some.injEq] at hchange
      exact hchange ▸ Ne.symm hbaseline
    · exact h other change' hchange

theorem Minimal.set (h : content.Minimal) (name : String) (v : Value) : (content.set name v).Minimal := by
  unfold Content.set edit
  split
  · exact h
  · exact h.stage name (.put v)

theorem Minimal.unset (h : content.Minimal) (name : String) : (content.unset name).Minimal := by
  unfold Content.unset edit
  split
  · exact h
  · exact h.stage name .remove

/-- Handing an item over to its structure row changes neither baseline nor overlay. -/
theorem Minimal.internalize (h : content.Minimal) (structureRow : Row) (readOnly : Bool) :
    (content.internalize structureRow readOnly).Minimal := h

/-- So an edit keeps an overlay minimal. -/
theorem Minimal.applyEdit (h : content.Minimal) (edit : Edit) : (content.applyEdit edit).Minimal := by
  cases edit with
  | set name v => exact h.set name v
  | unset name => exact h.unset name

/-- So do edits one after the other. -/
theorem Minimal.applyEdits (h : content.Minimal) (edits : List Edit) : (content.applyEdits edits).Minimal := by
  induction edits generalizing content with
  | nil => exact h
  | cons edit edits ih => exact ih (h.applyEdit edit)

/-- Staging a change leaves everything but the overlay. -/
theorem sameButOverlay_stage (name : String) (change : Change) : SameButOverlay content (content.stage name change) := by
  unfold stage
  split
  · exact ⟨rfl, rfl, rfl⟩
  · exact ⟨rfl, rfl, rfl⟩

theorem sameButOverlay_set (name : String) (v : Value) : SameButOverlay content (content.set name v) := by
  unfold set edit
  split
  · exact .refl content
  · exact sameButOverlay_stage ..

theorem sameButOverlay_unset (name : String) : SameButOverlay content (content.unset name) := by
  unfold unset edit
  split
  · exact .refl content
  · exact sameButOverlay_stage ..

/-- An edit leaves everything but the overlay. -/
theorem sameButOverlay_applyEdit (edit : Edit) : SameButOverlay content (content.applyEdit edit) := by
  cases edit with
  | set name v => exact sameButOverlay_set name v
  | unset name => exact sameButOverlay_unset name

/-- Edits leave everything but the overlay. -/
theorem sameButOverlay_applyEdits (edits : List Edit) : SameButOverlay content (content.applyEdits edits) := by
  induction edits generalizing content with
  | nil => exact .refl content
  | cons edit edits ih => exact (sameButOverlay_applyEdit edit).trans ih

/-- So does touching an item. -/
theorem sameButOverlay_touch (actor : String) (now : Int64) : SameButOverlay content (content.touch actor now) := by
  unfold touch
  refine SameButOverlay.trans ?_ ((sameButOverlay_set _ _).trans (sameButOverlay_set _ _))
  split
  · exact (sameButOverlay_set _ _).trans (sameButOverlay_set _ _)
  · exact .refl content

/-- A change that is staged decides what can be looked up under its name, and nothing else, whether it is kept or not. -/
theorem property?_stage (name other : String) (change : Change) :
    (content.stage name change).property? other = if name = other then change.value? else content.property? other := by
  unfold stage
  by_cases hbaseline : content.baseline[name]? = change.value?
  · rw [if_pos hbaseline, property?, property?, Changes.get?_forget]
    by_cases hname : name = other
    · subst hname
      simpa using hbaseline
    · simp only [if_neg hname]
  · rw [if_neg hbaseline, property?, property?, Changes.get?_insert]
    by_cases hname : name = other
    · simp only [if_pos hname]
    · simp only [if_neg hname]

/-- A property that is set reads as its new value, and the others as before. -/
theorem property?_set (hwritable : content.readOnly = false) (name other : String) (v : Value) :
    (content.set name v).property? other = if name = other then some v else content.property? other := by
  simp only [set, edit, hwritable, Bool.false_eq_true, if_false, property?_stage, Change.value?]

/-- The overlay leaves alone those properties that are as in the baseline. -/
theorem Minimal.get?_eq_none_iff (h : content.Minimal) (name : String) :
    content.overlay.get? name = none ↔ content.property? name = content.baseline[name]? := by
  unfold property?
  cases hchange : content.overlay.get? name with
  | none => simp
  | some change => simp [h name change hchange]

/-! ## What is to be stored -/

/-- An item that is new has the changes of its overlay to store, and of what these leave alone, its baseline. -/
theorem get?_changes_of_isNew (h : content.isNew = true) (name : String) :
    content.changes.get? name = (content.overlay.get? name).or (content.baseline[name]?.map .put) := by
  unfold changes
  rw [if_pos h, Changes.get?_foldl_toList, Changes.get?_ofRow, getElem?_properties, property?]
  cases content.overlay.get? name <;> rfl

/-- What an item that is new has to store makes its properties of an empty row. -/
theorem applyTo_changes_of_isNew (h : content.isNew = true) : content.changes.applyTo ∅ = content.properties := by
  refine Std.ExtTreeMap.ext_getElem? fun name => ?_
  rw [Changes.getElem?_applyTo, get?_changes_of_isNew h, getElem?_properties, property?]
  cases content.overlay.get? name with
  | some change => rfl
  | none =>
    cases content.baseline[name]? with
    | none => exact Std.ExtTreeMap.getElem?_empty
    | some v => rfl

/-- An item that is stored has its overlay to store. -/
theorem changes_of_not_isNew (h : content.isNew = false) : content.changes = content.overlay := by
  simp [changes, h]

end Content

end SparseRows
