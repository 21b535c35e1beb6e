import SparseRows.Proofs.Content.Editors
import SparseRows.Proofs.Content.PlainItem
import SparseRows.Proofs.Lists

/-!
# Who made an item and who changed it

Touching an item stamps it with an actor and a time: as changed by the actor, and while the item is new, as made by the
actor, too. The stamps are properties as all others, so a stamp that is stored already is not staged, and a change set of a
stored item need not have any. `StampedItem` says what holds of the item after any events, and `StampedRow` what holds of
its row: the first save stores who made the item, and no later event changes that; every save stores who changed it last.
-/

namespace SparseRows

open Std

/-- The properties that say by whom and when an item was made. -/
def Field.making : List String :=
  [created, createdBy]

/-- The properties that a touch stamps. -/
def Field.stamps : List String :=
  making ++ [modified, modifiedBy]

/-- By whom and when an item is touched. -/
structure Touch where
  actor : String
  time : Int64

namespace Touch

/-- Whether a row was made by a touch, as far as the row tells. -/
structure Made (touch : Touch) (row : Row) : Prop where
  time : row[Field.created]? = some (.integer touch.time)
  actor : row[Field.createdBy]? = some (.text touch.actor)

/-- Whether a row was changed last by a touch, as far as the row tells. -/
structure Changed (touch : Touch) (row : Row) : Prop where
  time : row[Field.modified]? = some (.integer touch.time)
  actor : row[Field.modifiedBy]? = some (.text touch.actor)

variable {touch : Touch} {row row' : Row}

/-- Whether a touch has made a row hangs on the stamps of the row alone. -/
theorem Made.congr (h : touch.Made row)
    (hsame : ∀ name ∈ Field.stamps, ∀ v, row[name]? = some v → row'[name]? = some v) : touch.Made row' :=
  ⟨hsame _ (by decide) _ h.time, hsame _ (by decide) _ h.actor⟩

/-- So does whether a touch was the last to change it. -/
theorem Changed.congr (h : touch.Changed row)
    (hsame : ∀ name ∈ Field.stamps, ∀ v, row[name]? = some v → row'[name]? = some v) : touch.Changed row' :=
  ⟨hsame _ (by decide) _ h.time, hsame _ (by decide) _ h.actor⟩

/-- A touch stamps a row as changed. -/
theorem changed_stamped (item : PlainItem) : touch.Changed (item.stamped touch.actor touch.time) where
  time := by rw [PlainItem.stamped, ExtTreeMap.getElem?_insert, if_neg (by decide), ExtTreeMap.getElem?_insert_self]
  actor := by rw [PlainItem.stamped, ExtTreeMap.getElem?_insert_self]

/-- A touch stamps a row that is new as made. -/
theorem made_stamped {item : PlainItem} (h : item.isNew = true) : touch.Made (item.stamped touch.actor touch.time) where
  time := by
    rw [PlainItem.stamped, h, if_pos rfl, ExtTreeMap.getElem?_insert, if_neg (by decide), ExtTreeMap.getElem?_insert,
      if_neg (by decide), ExtTreeMap.getElem?_insert, if_neg (by decide), ExtTreeMap.getElem?_insert_self]
  actor := by
    rw [PlainItem.stamped, h, if_pos rfl, ExtTreeMap.getElem?_insert, if_neg (by decide), ExtTreeMap.getElem?_insert,
      if_neg (by decide), ExtTreeMap.getElem?_insert_self]

end Touch

namespace SaveEvent

variable {β : Type}

/-- The touch, if the event is one. -/
def touch? : SaveEvent β → Option Touch
  | touch actor now => some ⟨actor, now⟩
  | edit _ | save | others _ => none

/-- The last touch among some events. -/
def lastTouch? (events : List (SaveEvent β)) : Option Touch :=
  (events.filterMap touch?).getLast?

/-- Whether an event does not edit what a touch stamps. -/
def SparesStamps : SaveEvent β → Prop
  | edit e => e.name ∉ Field.stamps
  | touch _ _ | save | others _ => True

/-- A touch is the last one when it has just been made. -/
theorem lastTouch?_concat_touch (events : List (SaveEvent β)) (actor : String) (now : Int64) :
    lastTouch? (events ++ [touch actor now]) = some ⟨actor, now⟩ := by
  simp [lastTouch?, touch?]

/-- Any other event leaves the last touch as it was. -/
theorem lastTouch?_concat_of_none (events : List (SaveEvent β)) {event : SaveEvent β} (h : event.touch? = none) :
    lastTouch? (events ++ [event]) = lastTouch? events := by
  simp [lastTouch?, h]

end SaveEvent

namespace Content

variable {β : Type} {origin content : Content} {history : List (SaveEvent β)} {row : Row}

/-! ## What is staged -/

/-- Giving a property a value leaves the overlay of others alone. -/
theorem get?_overlay_set_of_ne {name other : String} (h : name ≠ other) (v : Value) :
    (content.set name v).overlay.get? other = content.overlay.get? other := by
  unfold set edit
  split
  · rfl
  · exact get?_overlay_stage_of_ne h (.put v)

/-- Touching an item that is stored stages nothing about its making. -/
theorem get?_overlay_touch (hstored : content.isNew = false) (actor : String) (now : Int64) {name : String}
    (hname : name ∈ Field.making) : (content.touch actor now).overlay.get? name = content.overlay.get? name := by
  have hother : ∀ name ∈ Field.making, Field.modified ≠ name ∧ Field.modifiedBy ≠ name := by decide
  simp only [touch, hstored, Bool.false_eq_true, if_false]
  rw [get?_overlay_set_of_ne (hother name hname).2, get?_overlay_set_of_ne (hother name hname).1]

/-- Every property that there is gets stored, whatever the row of an item that is new was before. -/
theorem getElem?_applyTo_changes (hbaseline : content.isNew = false → content.baseline = row) {name : String} {v : Value}
    (h : content.properties[name]? = some v) : (content.changes.applyTo row)[name]? = some v := by
  rw [Changes.getElem?_applyTo]
  cases hnew : content.isNew with
  | true =>
    rw [getElem?_properties, property?] at h
    rw [get?_changes_of_isNew hnew]
    cases hoverlay : content.overlay.get? name with
    | some change =>
      rw [hoverlay] at h
      exact h
    | none =>
      rw [hoverlay] at h
      have hsame : content.baseline[name]? = some v := h
      rw [Option.none_or, hsame]
      rfl
  | false => rwa [changes_of_not_isNew hnew, ← hbaseline hnew, ← Changes.getElem?_applyTo]

/-! ## The item -/

/-- What holds of an item after some events that do not edit its stamps. The row is what is stored of it. -/
structure StampedItem (origin : Content) (history : List (SaveEvent β)) (content : Content) (row : Row) : Prop where
  writable : content.readOnly = false
  isNew : content.isNew = true ↔ origin.isNew = true ∧ .save ∉ history
  baseline : content.isNew = false → content.baseline = row
  unstaged : content.isNew = false → ∀ name ∈ Field.making, content.overlay.get? name = none
  changed : ∀ touch, SaveEvent.lastTouch? history = some touch → touch.Changed content.properties
  made : content.isNew = true → ∀ touch, SaveEvent.lastTouch? history = some touch → touch.Made content.properties

namespace StampedItem

/-- An edit of another name than those of the stamps leaves an item stamped as it is. -/
theorem edit (h : StampedItem origin history content row) {e : Edit} (hname : e.name ∉ Field.stamps) :
    StampedItem origin (history ++ [.edit e]) (content.applyEdit e) row := by
  have hsame : SameButOverlay content (content.applyEdit e) := sameButOverlay_applyEdit e
  have hproperty : ∀ name ∈ Field.stamps, ∀ v, content.properties[name]? = some v →
      (content.applyEdit e).properties[name]? = some v := by
    intro name hmem v hv
    rw [getElem?_properties] at hv ⊢
    rwa [property?_applyEdit h.writable, if_neg fun heq : e.name = name => hname (heq ▸ hmem)]
  have hlast : SaveEvent.lastTouch? (history ++ [.edit e]) = SaveEvent.lastTouch? history :=
    SaveEvent.lastTouch?_concat_of_none history rfl
  refine ⟨hsame.readOnly.trans h.writable, ?_, ?_, ?_, ?_, ?_⟩
  · rw [hsame.isNew, h.isNew]
    simp
  · rw [hsame.isNew, hsame.baseline]
    exact h.baseline
  · intro hstored name hmade
    rw [hsame.isNew] at hstored
    obtain ⟨change, hstage, -⟩ := applyEdit_eq_stage h.writable e
    have hne : e.name ≠ name := fun heq => hname (List.mem_append_left _ (heq ▸ hmade))
    rw [hstage, get?_overlay_stage_of_ne hne, h.unstaged hstored name hmade]
  · rw [hlast]
    exact fun touch htouch => (h.changed touch htouch).congr hproperty
  · rw [hlast, hsame.isNew]
    exact fun hnew touch htouch => (h.made hnew touch htouch).congr hproperty

/-- Touching an item stamps it. -/
theorem touch (h : StampedItem origin history content row) (actor : String) (now : Int64) :
    StampedItem origin (history ++ [.touch actor now]) (content.touch actor now) row := by
  have hsame : SameButOverlay content (content.touch actor now) := sameButOverlay_touch actor now
  refine ⟨hsame.readOnly.trans h.writable, ?_, ?_, ?_, ?_, ?_⟩
  · rw [hsame.isNew, h.isNew]
    simp
  · rw [hsame.isNew, hsame.baseline]
    exact h.baseline
  · intro hstored name hmade
    rw [hsame.isNew] at hstored
    rw [get?_overlay_touch hstored actor now hmade, h.unstaged hstored name hmade]
  · rw [SaveEvent.lastTouch?_concat_touch, properties_touch h.writable]
    rintro _ ⟨⟩
    exact Touch.changed_stamped _
  · rw [SaveEvent.lastTouch?_concat_touch, hsame.isNew, properties_touch h.writable]
    rintro hnew _ ⟨⟩
    exact Touch.made_stamped hnew

/-- What others do to other rows leaves an item stamped as it is. -/
theorem others (h : StampedItem origin history content row) (work : β) :
    StampedItem origin (history ++ [.others work]) content row := by
  have hlast : SaveEvent.lastTouch? (history ++ [.others work]) = SaveEvent.lastTouch? history :=
    SaveEvent.lastTouch?_concat_of_none history rfl
  refine ⟨h.writable, ?_, h.baseline, h.unstaged, hlast ▸ h.changed, hlast ▸ h.made⟩
  rw [h.isNew]
  simp

/-- Saving an item leaves it stamped as its row is now. -/
theorem save (h : StampedItem origin history content row) :
    StampedItem origin (history ++ [.save]) (content.rebased (content.changes.applyTo row)) (content.changes.applyTo row) := by
  have hlast : SaveEvent.lastTouch? (history ++ [.save]) = SaveEvent.lastTouch? history :=
    SaveEvent.lastTouch?_concat_of_none history rfl
  have hproperties : (content.rebased (content.changes.applyTo row)).properties = content.changes.applyTo row :=
    properties_of_overlay_empty rfl
  refine ⟨h.writable, ?_, fun _ => rfl, fun _ name _ => Changes.get?_empty name, ?_, fun hnew => nomatch hnew⟩
  · simp [rebased]
  · rw [hlast, hproperties]
    exact fun touch htouch => (h.changed touch htouch).congr fun name _ v hv => getElem?_applyTo_changes h.baseline hv

end StampedItem

/-! ## The row -/

/-- What holds of the row of an item after some events: it was made by the last touch before the first save, if the item was new
then, and changed last by the last touch before the last save. -/
structure StampedRow (origin : Content) (history : List (SaveEvent β)) (row : Row) : Prop where
  made : origin.isNew = true → ∀ before after, history = before ++ .save :: after → .save ∉ before →
    ∀ touch, SaveEvent.lastTouch? before = some touch → touch.Made row
  changed : ∀ before after, history = before ++ .save :: after → .save ∉ after →
    ∀ touch, SaveEvent.lastTouch? before = some touch → touch.Changed row

namespace StampedRow

theorem nil (origin : Content) (row : Row) : StampedRow origin ([] : List (SaveEvent β)) row :=
  ⟨fun _ _ _ hsplit => by simp at hsplit, fun _ _ hsplit => by simp at hsplit⟩

/-- An event that is no save leaves the row alone. -/
theorem concat (h : StampedRow origin history row) {event : SaveEvent β} (hevent : event ≠ .save) :
    StampedRow origin (history ++ [event]) row := by
  constructor
  · intro hnew before after hsplit hfirst
    rcases split_concat hsplit with ⟨-, hsave⟩ | ⟨more, rfl, hearlier⟩
    · exact absurd hsave hevent
    · exact h.made hnew before more hearlier hfirst
  · intro before after hsplit hlast
    rcases split_concat hsplit with ⟨-, hsave⟩ | ⟨more, rfl, hearlier⟩
    · exact absurd hsave hevent
    · exact h.changed before more hearlier fun hmem => hlast (List.mem_append_left _ hmem)

/-- The first save stores who made the item, no later one does, and each stores who changed it last. -/
theorem save (h : StampedRow origin history row) (hitem : StampedItem origin history content row) :
    StampedRow origin (history ++ [.save]) (content.changes.applyTo row) := by
  have hstored : ∀ name ∈ Field.stamps, ∀ v, content.properties[name]? = some v →
      (content.changes.applyTo row)[name]? = some v :=
    fun name _ v hv => getElem?_applyTo_changes hitem.baseline hv
  constructor
  · intro hnew before after hsplit hfirst touch htouch
    rcases split_concat hsplit with ⟨rfl, -⟩ | ⟨more, rfl, hearlier⟩
    · exact (hitem.made (hitem.isNew.mpr ⟨hnew, hfirst⟩) touch htouch).congr hstored
    · -- The item was saved before, so its changes have nothing about its making.
      have hmade := h.made hnew before more hearlier hfirst touch htouch
      have hkept : content.isNew = false := by
        rw [Bool.eq_false_iff]
        exact fun hnew' => (hitem.isNew.mp hnew').2 (hearlier ▸ by simp)
      have hsame : ∀ name ∈ Field.making, (content.changes.applyTo row)[name]? = row[name]? := by
        intro name hname
        rw [Changes.getElem?_applyTo, changes_of_not_isNew hkept, hitem.unstaged hkept name hname]
        rfl
      exact ⟨(hsame _ (by decide)).trans hmade.time, (hsame _ (by decide)).trans hmade.actor⟩
  · intro before after hsplit hlast touch htouch
    rcases split_concat hsplit with ⟨rfl, -⟩ | ⟨more, rfl, -⟩
    · exact (hitem.changed touch htouch).congr hstored
    · exact absurd (List.mem_append_right _ (List.mem_singleton_self _)) hlast

end StampedRow

/-! ## Any run -/

/-- An item that is made, or that is made from the row stored of it, has no stamps of its own yet. -/
theorem stampedItem_nil (h : (∃ path properties logger, content = make path properties logger) ∨
    ∃ path structureRow logger, content = ofStored path row structureRow false logger) :
    StampedItem content ([] : List (SaveEvent β)) content row := by
  have hchanged : ∀ touch, SaveEvent.lastTouch? ([] : List (SaveEvent β)) = some touch → touch.Changed content.properties := by
    intro touch hlast
    cases hlast
  have hmade : content.isNew = true → ∀ touch, SaveEvent.lastTouch? ([] : List (SaveEvent β)) = some touch →
      touch.Made content.properties := by
    intro _ touch hlast
    cases hlast
  rcases h with ⟨path, properties, logger, rfl⟩ | ⟨path, structureRow, logger, rfl⟩
  · have hnew : (make path properties logger).isNew = false → False := by
      intro hstored
      cases hstored
    exact ⟨rfl, by simp, fun hstored => (hnew hstored).elim, fun hstored => (hnew hstored).elim, hchanged, hmade⟩
  · exact ⟨rfl, by simp, fun _ => rfl, fun _ name _ => Changes.get?_empty name, hchanged, hmade⟩

/-- One event, after which the item and its row are stamped as before or anew. -/
theorem happen_stamped (client : MemoryClient) {key : RowKey} {history : List (SaveEvent (MemoryClient × RowOp))}
    {event : SaveEvent (MemoryClient × RowOp)} (hstamps : event.SparesStamps)
    (hothers : ∀ other op, event = .others (other, op) → op.Spares key) {store : MemoryStore}
    (hitem : StampedItem origin history content (store.row key)) (hrow : StampedRow origin history (store.row key)) :
    ∃ content' store', (content.happen client.access key workInMemory event).Gives store (.ok content') store' ∧
      StampedItem origin (history ++ [event]) content' (store'.row key) ∧
      StampedRow origin (history ++ [event]) (store'.row key) := by
  cases event with
  | edit e => exact ⟨_, store, .pure, hitem.edit hstamps, hrow.concat nofun⟩
  | touch actor now => exact ⟨_, store, .pure, hitem.touch actor now, hrow.concat nofun⟩
  | save =>
    obtain ⟨store', hgives, hsaved⟩ := save_gives_rebased hitem.writable client key store
    exact ⟨_, store', hgives, hsaved ▸ hitem.save, hsaved ▸ hrow.save hitem⟩
  | others work =>
    obtain ⟨other, op⟩ := work
    obtain ⟨store', hgives, hview⟩ := other.access_lawful.run_gives op (s := store) rfl trivial op.putsOnly_true
    have hsame : store'.row key = store.row key :=
      (congrFun hview key).trans ((hothers other op rfl).effect_eq id store.row)
    exact ⟨content, store', .bind hgives .pure, hsame ▸ hitem.others _, hsame ▸ hrow.concat nofun⟩

/-- Any events after some others. -/
theorem live_stamped (client : MemoryClient) {key : RowKey} {history events : List (SaveEvent (MemoryClient × RowOp))}
    (hstamps : ∀ event ∈ events, event.SparesStamps) (hothers : ∀ other op, .others (other, op) ∈ events → op.Spares key)
    {store : MemoryStore} (hitem : StampedItem origin history content (store.row key))
    (hrow : StampedRow origin history (store.row key)) :
    ∃ content' store', (content.live client.access key workInMemory events).Gives store (.ok content') store' ∧
      StampedItem origin (history ++ events) content' (store'.row key) ∧
      StampedRow origin (history ++ events) (store'.row key) := by
  induction events generalizing history content store with
  | nil => exact ⟨content, store, .pure, by simpa using hitem, by simpa using hrow⟩
  | cons event events ih =>
    obtain ⟨content₁, store₁, hevent, hitem₁, hrow₁⟩ := happen_stamped client (hstamps event List.mem_cons_self)
      (fun other op heq => hothers other op (heq ▸ List.mem_cons_self)) hitem hrow
    obtain ⟨content₂, store₂, hevents, hitem₂, hrow₂⟩ := ih (fun later hlater => hstamps later (List.mem_cons_of_mem _ hlater))
      (fun other op hmem => hothers other op (List.mem_cons_of_mem _ hmem)) hitem₁ hrow₁
    rw [List.append_assoc, List.singleton_append] at hitem₂ hrow₂
    refine ⟨content₂, store₂, ?_, hitem₂, hrow₂⟩
    rw [live, List.foldlM_cons]
    exact .bind hevent hevents

/-- Stamps tell the truth, whatever happens to an item that is new or made from its row: touches at any times, edits of
other properties, saves, and what others do to other rows. For an item that was made from its row, or has been saved,
nothing about its making is staged, and touching it stages nothing of the kind. The row was made by the last touch before
the first save, if the item was new and touched by then, and changed last by the last touch before the last save, if there
was one. -/
theorem stamps_of_live (client : MemoryClient) (key : RowKey) (content : Content) (s : Logged MemoryStore)
    (events : List (SaveEvent (MemoryClient × RowOp)))
    (hstarts : (∃ path properties logger, content = make path properties logger) ∨
      ∃ path structureRow logger, content = ofStored path (s.state.row key) structureRow false logger)
    (hstamps : ∀ event ∈ events, event.SparesStamps) (hothers : ∀ other op, .others (other, op) ∈ events → op.Spares key) :
    ∃ content' s', (content.live client.access key workInMemory events).attempt.run s = (.ok content', s') ∧
      (content.isNew = false ∨ .save ∈ events → ∀ name ∈ Field.making, content'.overlay.get? name = none ∧
        ∀ actor now, (content'.touch actor now).overlay.get? name = none) ∧
      StampedRow content events (s'.state.row key) := by
  obtain ⟨content', store', hgives, hitem, hrow⟩ :=
    live_stamped client hstamps hothers (stampedItem_nil hstarts) (.nil content (s.state.row key))
  obtain ⟨journal, hrun⟩ := hgives.attempt.run s.journal
  refine ⟨content', _, hrun, fun hold name hname => ?_, hrow⟩
  have hstored : content'.isNew = false := by
    rw [Bool.eq_false_iff, ne_eq, hitem.isNew]
    rintro ⟨hnew, hunsaved⟩
    rcases hold with hloaded | hsaved
    · exact Bool.false_ne_true (hloaded.symm.trans hnew)
    · exact hunsaved hsaved
  have hunstaged := hitem.unstaged hstored name hname
  exact ⟨hunstaged, fun actor now => (get?_overlay_touch hstored actor now hname).trans hunstaged⟩

/-- A draft is touched, saved, touched by another in the same millisecond, saved again and touched once more, while a note
is removed beside it. The time of its first touch is the one that it was made with, so it is not even in the overlay. -/
theorem stamps_of_draft :
    let client : MemoryClient := .ofConfig {} .discard
    let key : RowKey := ⟨"ns", "content", "draft"⟩
    let draft : Content := make "/draft" (Row.ofList [("created", .integer 5)]) .discard
    let events : List (SaveEvent (MemoryClient × RowOp)) :=
      [.touch "ann" 5, .edit (.set "title" (.text "a")), .save, .touch "bob" 5, .others (client, .remove ⟨"ns", "content", "note"⟩),
       .save, .touch "eve" 9]
    ∃ content' s', (draft.live client.access key workInMemory events).attempt.run ⟨∅, {}⟩ = (.ok content', s') ∧
      Touch.Made ⟨"ann", 5⟩ (s'.state.row key) ∧ Touch.Changed ⟨"bob", 5⟩ (s'.state.row key) := by
  intro client key draft events
  have hstamps : ∀ event ∈ events, event.SparesStamps := by
    have htitle : "title" ∉ Field.stamps := by decide
    intro event hevent
    simp only [events, List.mem_cons, List.not_mem_nil, or_false] at hevent
    rcases hevent with rfl | rfl | rfl | rfl | rfl | rfl | rfl
    case inr.inl => exact htitle
    all_goals trivial
  have hothers : ∀ other op, .others (other, op) ∈ events → op.Spares key := by
    intro other op hevent
    obtain ⟨-, rfl⟩ : other = client ∧ op = .remove ⟨"ns", "content", "note"⟩ := by simpa [events] using hevent
    simp [RowOp.Spares, key]
  obtain ⟨content', s', hrun, -, hrow⟩ := stamps_of_live client key draft ⟨∅, {}⟩ events (.inl ⟨_, _, _, rfl⟩) hstamps hothers
  refine ⟨content', s', hrun, ?_, ?_⟩
  · exact hrow.made rfl [.touch "ann" 5, .edit (.set "title" (.text "a"))] _ rfl (by simp) _ rfl
  · exact hrow.changed (events.take 5) [.touch "eve" 9] rfl (by simp) _ rfl

end Content

end SparseRows
