import SparseRows.Proofs.Content.HandOver
import SparseRows.Proofs.Relational.Simulation

/-!
# The save cycle

An item is edited and saved time and again, where saving inserts what is to be stored, reads the row and resets the item to
it. What carries this is `InStep`: the row is the baseline of the item, or there is none while the item is new. Edits leave
both alone, saving makes the properties of them both, and others do not write the row. So every save stores the properties,
whatever was done before, in the form that the store gives values.
-/

namespace SparseRows

/-- What happens to an item and to the store that it is kept in. -/
inductive SaveEvent (β : Type) where
  | edit (edit : Edit)
  | touch (actor : String) (now : Int64)
  | save
  /-- Others do something to the store. -/
  | others (work : β)

/-- Whether the value that an edit gives is among some values. -/
def Edit.PutsOnly (Takes : Value → Prop) : Edit → Prop
  | set _ v => Takes v
  | unset _ => True

/-- Whether the value that an edit gives, if it is one, is among some values. -/
def SaveEvent.EditsOnly {β : Type} (Takes : Value → Prop) : SaveEvent β → Prop
  | edit e => e.PutsOnly Takes
  | touch _ _ | save | others _ => True

/-- Whether a store that takes some values takes also the form that it gives them, and what an item notes of its changes. -/
structure TakesBack (Takes : Value → Prop) (form : Value → Value) : Prop where
  form {v : Value} (h : Takes v) : Takes (form v)
  integer (i : Int64) : Takes (.integer i)
  text (t : String) : Takes (.text t)

/-- A store that keeps all values as they are takes back what it gives. -/
theorem takesBack_id : TakesBack (fun _ => True) id :=
  ⟨fun _ => trivial, fun _ => trivial, fun _ => trivial⟩

/-- So does a store of texts, since the form that it gives is a text. -/
theorem takesBack_textForm : TakesBack Value.Textual Value.textForm := by
  refine ⟨fun {v} hv => ?_, fun _ => rfl, fun _ => rfl⟩
  obtain ⟨text, -, hform⟩ := hv.toText?
  rw [hform]
  rfl

namespace Content

/-- Whether an item and the row that is stored of it are in step. The item can be changed. -/
structure InStep (content : Content) (stored : Row) : Prop where
  writable : content.readOnly = false
  stored : stored = if content.isNew then ∅ else content.baseline

/-- Whether every value of an item is among some values. -/
structure PutsOnly (Takes : Value → Prop) (content : Content) : Prop where
  baseline {name : String} {v : Value} (h : content.baseline[name]? = some v) : Takes v
  overlay : content.overlay.PutsOnly Takes

variable {content : Content} {Takes : Value → Prop} {stored : Row}

/-- Whether an item is in step with its row does not hang on the overlay. -/
theorem InStep.congr (h : content.InStep stored) {content' : Content} (hsame : SameButOverlay content content') :
    content'.InStep stored :=
  ⟨hsame.readOnly.trans h.writable, by rw [hsame.isNew, hsame.baseline]; exact h.stored⟩

/-- What an item has to store makes its properties of the row that it is in step with. -/
theorem InStep.applyTo_changes (h : content.InStep stored) : content.changes.applyTo stored = content.properties := by
  rw [h.stored]
  cases hnew : content.isNew with
  | true => exact applyTo_changes_of_isNew hnew
  | false => rw [changes_of_not_isNew hnew]; rfl

/-- An item keeps to the values of a store if the change that is staged does. -/
theorem PutsOnly.stage (h : content.PutsOnly Takes) (name : String) {change : Change} (htakes : ∀ v, change = .put v → Takes v) :
    (content.stage name change).PutsOnly Takes := by
  refine ⟨fun hbaseline => h.baseline ((sameButOverlay_stage name change).baseline ▸ hbaseline), fun other v hput => ?_⟩
  unfold Content.stage at hput
  split at hput
  · rw [Changes.get?_forget] at hput
    split at hput
    · cases hput
    · exact h.overlay other v hput
  · rw [Changes.get?_insert] at hput
    split at hput
    · exact htakes v (Option.some.inj hput)
    · exact h.overlay other v hput

theorem PutsOnly.set (h : content.PutsOnly Takes) (name : String) {v : Value} (htakes : Takes v) :
    (content.set name v).PutsOnly Takes := by
  unfold Content.set Content.edit
  split
  · exact h
  · exact h.stage name fun w heq => Change.put.inj heq ▸ htakes

theorem PutsOnly.unset (h : content.PutsOnly Takes) (name : String) : (content.unset name).PutsOnly Takes := by
  unfold Content.unset Content.edit
  split
  · exact h
  · exact h.stage name fun w heq => nomatch heq

/-- It does so through edits that put such values only. -/
theorem PutsOnly.applyEdit (h : content.PutsOnly Takes) {edit : Edit} (htakes : edit.PutsOnly Takes) :
    (content.applyEdit edit).PutsOnly Takes := by
  cases edit with
  | set name v => exact h.set name htakes
  | unset name => exact h.unset name

/-- It does so when it is touched, if the store takes times and names. -/
theorem PutsOnly.touch (h : content.PutsOnly Takes) (actor : String) (now : Int64) (hinteger : Takes (.integer now))
    (htext : Takes (.text actor)) : (content.touch actor now).PutsOnly Takes := by
  unfold Content.touch
  refine PutsOnly.set (PutsOnly.set ?_ _ hinteger) _ htext
  split
  · exact (h.set _ hinteger).set _ htext
  · exact h

/-- An item has only values of its own to store. -/
theorem PutsOnly.changes (h : content.PutsOnly Takes) : content.changes.PutsOnly Takes := by
  intro name v hput
  cases hnew : content.isNew with
  | true =>
    rw [get?_changes_of_isNew hnew] at hput
    cases hoverlay : content.overlay.get? name with
    | some change =>
      rw [hoverlay, Option.some_or] at hput
      exact h.overlay name v (hoverlay.trans hput)
    | none =>
      rw [hoverlay, Option.none_or, Option.map_eq_some_iff] at hput
      obtain ⟨w, hw, heq⟩ := hput
      exact Change.put.inj heq ▸ h.baseline hw
  | false =>
    rw [changes_of_not_isNew hnew] at hput
    exact h.overlay name v hput

/-- The properties of an item are values of its own. -/
theorem PutsOnly.properties (h : content.PutsOnly Takes) {name : String} {v : Value} (hv : content.properties[name]? = some v) :
    Takes v := by
  rw [getElem?_properties, property?] at hv
  cases hoverlay : content.overlay.get? name with
  | none =>
    rw [hoverlay] at hv
    exact h.baseline hv
  | some change =>
    rw [hoverlay] at hv
    cases change with
    | put w =>
      cases hv
      exact h.overlay name _ hoverlay
    | remove => cases hv

/-! ## Saving -/

variable {σ β : Type}

/-- Saves an item: inserts what it has to store, reads its row and resets it to that. -/
def save (content : Content) (access : RowAccess σ) (key : RowKey) : Action σ StorageError Content := do
  let stored ← content.storeIn access key
  (content.reset stored).toAction

/-- What an event makes of an item. -/
def happen (access : RowAccess σ) (key : RowKey) (work : β → Action σ StorageError (Option Row)) (content : Content) :
    SaveEvent β → Action σ StorageError Content
  | .edit e => return content.applyEdit e
  | .touch actor now => return content.touch actor now
  | .save => content.save access key
  | .others w => do
    let _ ← work w
    return content

/-- What events make of an item, one after the other. -/
def live (access : RowAccess σ) (key : RowKey) (work : β → Action σ StorageError (Option Row)) (content : Content)
    (events : List (SaveEvent β)) : Action σ StorageError Content :=
  events.foldlM (happen access key work) content

/-- An item that is saved in a store that gives values a form. -/
def saved (content : Content) (form : Value → Value) : Content :=
  { content with baseline := content.properties.mapValues form, overlay := .empty, isNew := false }

/-- An item that was saved is in step with the row that it was saved as. -/
theorem inStep_saved (h : content.InStep stored) (form : Value → Value) :
    (content.saved form).InStep (content.properties.mapValues form) :=
  ⟨h.writable, rfl⟩

/-- It keeps to the values of the store, for what the store gives it takes back. -/
theorem PutsOnly.saved (h : content.PutsOnly Takes) {form : Value → Value} (hform : TakesBack Takes form) :
    (content.saved form).PutsOnly Takes := by
  refine ⟨fun {name v} hbaseline => ?_, fun name v hput => ?_⟩
  · rw [Content.saved, Row.getElem?_mapValues, Option.map_eq_some_iff] at hbaseline
    obtain ⟨w, hw, rfl⟩ := hbaseline
    exact hform.form (h.properties hw)
  · rw [Content.saved, Changes.get?_empty] at hput
    cases hput

variable {access : RowAccess σ} {View : σ → Rows → Prop} {Known : RowKey → Prop} {form : Value → Value} {key : RowKey}
  {work : β → Action σ StorageError (Option Row)} {s : σ} {rows : Rows}

/-- Saving an item that is in step with its row makes the properties of it both the row and the baseline. -/
theorem save_gives (h : access.Lawful View Known Takes form) (hview : View s rows) (hknown : Known key)
    (hstep : content.InStep (rows key)) (hputs : content.PutsOnly Takes) :
    ∃ t rows', (content.save access key).Gives s (.ok (content.saved form)) t ∧ View t rows' ∧
      rows' key = content.properties.mapValues form := by
  obtain ⟨t, hstore, ht⟩ := content.storeIn_gives h key hview hknown hputs.changes
  refine ⟨t, _, .bind hstore ?_, ht, ?_⟩
  · rw [hstep.applyTo_changes, reset, if_neg (Bool.eq_false_iff.mp hstep.writable)]
    exact .toAction (.bind .log .pure)
  · rw [RowOp.effect, Function.update_self, hstep.applyTo_changes]

/-- An event leaves an item in step with its row, if others do not write the row. -/
theorem happen_gives (h : access.Lawful View Known Takes form) (hview : View s rows) (hknown : Known key)
    (hform : TakesBack Takes form) {event : SaveEvent β} (hedits : event.EditsOnly Takes)
    (hothers : ∀ w, event = .others w →
      ∃ reply t rows', (work w).Gives s (.ok reply) t ∧ View t rows' ∧ rows' key = rows key)
    (hstep : content.InStep (rows key)) (hputs : content.PutsOnly Takes) :
    ∃ content' t rows', (content.happen access key work event).Gives s (.ok content') t ∧ View t rows' ∧
      content'.InStep (rows' key) ∧ content'.PutsOnly Takes := by
  cases event with
  | edit e => exact ⟨_, s, rows, .pure, hview, hstep.congr (sameButOverlay_applyEdit e), hputs.applyEdit hedits⟩
  | touch actor now =>
    exact ⟨_, s, rows, .pure, hview, hstep.congr (sameButOverlay_touch actor now),
      hputs.touch actor now (hform.integer now) (hform.text actor)⟩
  | save =>
    obtain ⟨t, rows', hgives, ht, hrow⟩ := content.save_gives h hview hknown hstep hputs
    exact ⟨_, t, rows', hgives, ht, hrow ▸ inStep_saved hstep form, hputs.saved hform⟩
  | others w =>
    obtain ⟨reply, t, rows', hgives, ht, hrow⟩ := hothers w rfl
    exact ⟨content, t, rows', .bind hgives .pure, ht, hrow ▸ hstep, hputs⟩

/-- Any events, one after the other, leave an item in step with its row, if others do not write the row. -/
theorem live_gives (h : access.Lawful View Known Takes form) (hview : View s rows) (hknown : Known key)
    (hform : TakesBack Takes form) {events : List (SaveEvent β)} (hedits : ∀ event ∈ events, event.EditsOnly Takes)
    (hothers : ∀ w, .others w ∈ events → ∀ s rows, View s rows →
      ∃ reply t rows', (work w).Gives s (.ok reply) t ∧ View t rows' ∧ rows' key = rows key)
    (hstep : content.InStep (rows key)) (hputs : content.PutsOnly Takes) :
    ∃ content' t rows', (content.live access key work events).Gives s (.ok content') t ∧ View t rows' ∧
      content'.InStep (rows' key) ∧ content'.PutsOnly Takes := by
  induction events generalizing content s rows with
  | nil => exact ⟨content, s, rows, .pure, hview, hstep, hputs⟩
  | cons event events ih =>
    obtain ⟨content', t, rows', hevent, ht, hstep', hputs'⟩ :=
      happen_gives h hview hknown hform (hedits event List.mem_cons_self)
        (fun w heq => hothers w (heq ▸ List.mem_cons_self) s rows hview) hstep hputs
    obtain ⟨content'', u, rows'', hevents, hu, hlater⟩ :=
      ih ht (fun later hlater => hedits later (List.mem_cons_of_mem _ hlater))
        (fun w hw => hothers w (List.mem_cons_of_mem _ hw)) hstep' hputs'
    refine ⟨content'', u, rows'', ?_, hu, hlater⟩
    rw [live, List.foldlM_cons]
    exact .bind hevent hevents

/-! ## The cycle -/

/-- Whether an item is new to a row that is not there, or is made from the row. It can be changed. -/
def StartsFrom (content : Content) (stored : Row) : Prop :=
  (∃ path properties logger, content = make path properties logger ∧ stored = ∅) ∨
    ∃ path structureRow logger, content = ofStored path stored structureRow false logger

/-- An item is in step with its row from the start. -/
theorem StartsFrom.inStep (h : content.StartsFrom stored) : content.InStep stored := by
  rcases h with ⟨path, properties, logger, rfl, rfl⟩ | ⟨path, structureRow, logger, rfl⟩
  · exact ⟨rfl, rfl⟩
  · exact ⟨rfl, rfl⟩

/-- Whether saving an item stores its properties, in the form that the store gives values, and leaves it with these
properties and nothing to store. -/
structure SavedAs (content : Content) (form : Value → Value) (content' : Content) (stored : Row) : Prop where
  stored : stored = content.properties.mapValues form
  properties : content'.properties = content.properties.mapValues form
  isNew : content'.isNew = false
  isUpdated : content'.isUpdated = false

/-- What saving makes of an item is what is said of a saved item. -/
theorem savedAs_saved (content : Content) (form : Value → Value) :
    content.SavedAs form (content.saved form) (content.properties.mapValues form) := by
  have hnothing : Changes.empty.isEmpty = true := rfl
  exact ⟨rfl, rfl, rfl, by simp [isUpdated, saved, hnothing]⟩

/-- Whether after some events the baseline of an item is stored of it, or nothing if the item is new, and saving it then
stores its properties. -/
def CycleHolds (content : Content) (access : RowAccess σ) (key : RowKey) (work : β → Action σ StorageError (Option Row))
    (Stored : σ → Row → Prop) (form : Value → Value) (s : Logged σ) (events : List (SaveEvent β)) : Prop :=
  ∃ content' s', (content.live access key work events).attempt.run s = (.ok content', s') ∧
    Stored s'.state (if content'.isNew then ∅ else content'.baseline) ∧
    ∃ content'' s'' stored, (content'.save access key).attempt.run s' = (.ok content'', s'') ∧ Stored s''.state stored ∧
      content'.SavedAs form content'' stored

/-- The cycle holds in a lawful store, if others do not write the row. -/
theorem cycleHolds_of_lawful (h : access.Lawful View Known Takes form) (hview : View s rows) (hknown : Known key)
    (hform : TakesBack Takes form) {events : List (SaveEvent β)} (hedits : ∀ event ∈ events, event.EditsOnly Takes)
    (hothers : ∀ w, .others w ∈ events → ∀ s rows, View s rows →
      ∃ reply t rows', (work w).Gives s (.ok reply) t ∧ View t rows' ∧ rows' key = rows key)
    (hstarts : content.StartsFrom (rows key)) (hputs : content.PutsOnly Takes) {Stored : σ → Row → Prop}
    (hstored : ∀ {s rows}, View s rows → Stored s (rows key)) (journal : Journal) :
    content.CycleHolds access key work Stored form ⟨s, journal⟩ events := by
  obtain ⟨content', t, rows', hlive, ht, hstep, hputs'⟩ :=
    live_gives h hview hknown hform hedits hothers hstarts.inStep hputs
  obtain ⟨u, rows'', hsave, hu, hrow⟩ := content'.save_gives h ht hknown hstep hputs'
  obtain ⟨journal', hrun⟩ := hlive.attempt.run journal
  obtain ⟨journal'', hrun'⟩ := hsave.attempt.run journal'
  exact ⟨content', _, hrun, hstep.stored ▸ hstored ht, _, _, _, hrun', hrow ▸ hstored hu, savedAs_saved content' form⟩

/-- What another client does in memory. -/
def workInMemory : MemoryClient × RowOp → Action MemoryStore StorageError (Option Row)
  | (client, op) => op.run client.access

/-- An item that is new to a row, or made from it, has what is stored of it as its baseline before every save, and every
save stores its properties, whatever was done to the item and the store before, as long as others do not write its row. In
memory its values are stored as they are. In a database, whose table holds one triple at most to a row and a column at
first, they are stored as their texts; it is assumed that the driver is faithful, that no bytes are stored, and that the
digest does not take different keys among those used to the same bytes. -/
theorem cycleHolds_of_startsFrom :
    (∀ (client : MemoryClient) (key : RowKey) (content : Content) (s : Logged MemoryStore)
        (events : List (SaveEvent (MemoryClient × RowOp))),
      content.StartsFrom (s.state.row key) →
      (∀ other op, .others (other, op) ∈ events → op.Spares key) →
      content.CycleHolds client.access key workInMemory (fun store row => store.row key = row) id s events) ∧
    ∀ {ι κ δ : Type} [DecidableEq ι] [SqlConnection κ] {driver : Driver κ δ} (clients : ι → RelationalClient) {a : HashAlgorithm}
        (i : ι) (key : RowKey) (content : Content) (s : Logged (Fleet ι κ δ)) (row : Row) (events : List (SaveEvent (Move ι))),
      (∀ j, driver.Faithful (clients j).dialect) →
      (∀ j, (clients j).algorithm = a) →
      (∀ j, (s.state.sessions j).Ready driver) →
      (driver.triples s.state.database).Keyed →
      (driver.triples s.state.database).Shows (key.hash a) row →
      content.StartsFrom row →
      content.PutsOnly Value.Textual →
      (∀ event ∈ events, event.EditsOnly Value.Textual) →
      (∀ move, .others move ∈ events → move.Spares key ∧ move.PutsOnly Value.Textual) →
      RowKey.Separated a (fun name => name = key ∨ ∃ move, .others move ∈ events ∧ move.key? = some name) →
      content.CycleHolds (Fleet.access driver clients i) key (Move.run driver clients)
        (fun fleet row => (driver.triples fleet.database).Shows (key.hash a) row) Value.textForm s events := by
  constructor
  · intro client key content s events hstarts hspares
    refine cycleHolds_of_lawful client.access_lawful rfl trivial takesBack_id (fun event _ => ?_) ?_ hstarts
      ⟨fun _ => trivial, fun _ _ _ => trivial⟩ (fun hview => congrFun hview key) s.journal
    · rcases event with (_ | _) | _ | _ | _ <;> trivial
    · rintro ⟨other, op⟩ hin store rows hview
      obtain ⟨store', hgives, hview'⟩ := other.access_lawful.run_gives op hview trivial op.putsOnly_true
      exact ⟨_, store', _, hgives, hview', (hspares other op hin).effect_eq id rows⟩
  · intro ι κ δ _ _ driver clients a i key content s row events hdriver halgorithm hready hkeyed hrow hstarts hputs hedits hothers
      hseparated
    have hrows : ∃ rows : Rows,
        s.state.Shows driver a (fun name => name = key ∨ ∃ move, .others move ∈ events ∧ move.key? = some name) rows ∧
          rows key = row := Fleet.exists_shows hready hkeyed hrow
    obtain ⟨rows, hview, rfl⟩ := hrows
    refine cycleHolds_of_lawful (Fleet.access_lawful hdriver halgorithm hseparated i) hview (.inl rfl)
      takesBack_textForm hedits ?_ hstarts hputs (fun hview => hview.shows (.inl rfl)) s.journal
    intro move hin fleet rows hview
    obtain ⟨hspares, htakes⟩ := hothers move hin
    obtain ⟨fleet', hgives, hview'⟩ :=
      Move.run_gives hdriver halgorithm hseparated (fun name hname => .inr ⟨move, hin, hname⟩) htakes hview
    exact ⟨_, fleet', _, hgives, hview', hspares.effect_eq Value.textForm rows⟩

/-- A note is made, saved, counted and saved again, in memory beside another row, and in a database with a reader of the
note that comes and goes. -/
theorem cycleHolds_of_note :
    let key : RowKey := ⟨"ns", "content", "note"⟩
    let note : Content := make "/note" (Row.ofList [("title", .text "a")]) .discard
    let client : MemoryClient := ⟨.ofSizes 1 1 .discard, .discard⟩
    let beside : List (SaveEvent (MemoryClient × RowOp)) :=
      [.save, .others (client, .remove ⟨"ns", "content", "draft"⟩), .edit (.set "count" (.integer 1)), .save, .touch "me" 5]
    let fleet : Fleet Bool TripleTable (List Triple) := ⟨[], fun _ => ⟨{}, .schemaChecked⟩⟩
    let read : List (SaveEvent (Move Bool)) :=
      [.save, .others (.row false (.get key)), .edit (.set "count" (.integer 1)), .others (.passivate false), .save, .touch "me" 5]
    note.CycleHolds client.access key workInMemory (fun store row => store.row key = row) id ⟨∅, {}⟩ beside ∧
      note.CycleHolds (Fleet.access TripleTable.driver (fun _ => TripleTable.client) true) key
        (Move.run TripleTable.driver fun _ => TripleTable.client)
        (fun fleet row => (TripleTable.driver.triples fleet.database).Shows (key.hash .sha256) row) Value.textForm ⟨fleet, {}⟩
        read := by
  intro key note client beside fleet read
  have hputs : note.PutsOnly Value.Textual := by
    refine ⟨fun {name v} hbaseline => ?_, fun _ _ hput => nomatch (Changes.get?_empty _).symm.trans hput⟩
    have hnote : note.baseline = (∅ : Row).insert "title" (.text "a") := rfl
    rw [hnote, Std.ExtTreeMap.getElem?_insert] at hbaseline
    split at hbaseline
    · cases hbaseline
      rfl
    · exact nomatch Std.ExtTreeMap.getElem?_empty.symm.trans hbaseline
  have hothers : ∀ move, .others move ∈ read → move = .row false (.get key) ∨ move = .passivate false := by
    intro move hin
    simpa [read] using hin
  have hseparated : RowKey.Separated .sha256 fun name =>
      name = key ∨ ∃ move, .others move ∈ read ∧ move.key? = some name := by
    have hkey : ∀ name, (name = key ∨ ∃ move, .others move ∈ read ∧ move.key? = some name) → name = key := by
      rintro name (rfl | ⟨move, hin, hname⟩)
      · rfl
      · rcases hothers move hin with rfl | rfl
        · exact (Option.some.inj hname).symm
        · cases hname
    intro k k' hk hk' _
    rw [hkey k hk, hkey k' hk']
  obtain ⟨hmemory, hdatabase⟩ := cycleHolds_of_startsFrom
  constructor
  · refine hmemory client key note _ beside (.inl ⟨_, _, _, rfl, MemoryStore.row_empty key⟩) fun other op hin => ?_
    obtain ⟨-, rfl⟩ : other = client ∧ op = .remove ⟨"ns", "content", "draft"⟩ := by simpa [beside] using hin
    simp [RowOp.Spares, key]
  · refine hdatabase (fun _ => TripleTable.client) true key note _ ∅ read
      (fun _ => TripleTable.driver_faithful TripleTable.dialect_speaks) (fun _ => rfl)
      (fun _ => ⟨rfl, rfl, fun heq => nomatch heq⟩) Bag.keyed_zero (Bag.shows_zero _) (.inl ⟨_, _, _, rfl, rfl⟩) hputs ?_ ?_
      hseparated
    · intro event hin
      simp only [read, List.mem_cons, List.not_mem_nil, or_false] at hin
      rcases hin with rfl | rfl | rfl | rfl | rfl | rfl <;> trivial
    · intro move hin
      rcases hothers move hin with rfl | rfl <;> exact ⟨trivial, trivial⟩

end Content

end SparseRows
