import SparseRows.Proofs.Relational.Driver
import SparseRows.Proofs.Relational.Texts

/-!
# What a relational client does to the bag of triples

One lemma for each operation of a client whose schema is there and whose driver is faithful: it does not fail, it leaves the
client ready for the next operation, and its effect on the bag is that of the row statements it runs. A client that rests
prepares its statements when they are needed, so whether it is active makes no difference to what its operations do.
-/

namespace SparseRows

variable {κ δ : Type}

/-- The handles of a client are those of the row statements. -/
structure Driver.RunsAll (driver : Driver κ δ) (connection : κ) (statements : Statements) : Prop where
  deleteRow : driver.Runs connection statements.deleteRow .deleteRow
  selectRow : driver.Runs connection statements.selectRow .selectRow
  insertColumn : driver.Runs connection statements.insertColumn .insertColumn
  updateColumn : driver.Runs connection statements.updateColumn .updateColumn
  removeColumn : driver.Runs connection statements.removeColumn .removeColumn

/-- The handles of a client are good after a call. -/
theorem Driver.RunsAll.keep {driver : Driver κ δ} {before after : κ} {statements : Statements}
    (h : driver.RunsAll before statements) (hkeeps : driver.Keeps before after) : driver.RunsAll after statements :=
  ⟨hkeeps.runs h.deleteRow, hkeeps.runs h.selectRow, hkeeps.runs h.insertColumn, hkeeps.runs h.updateColumn,
    hkeeps.runs h.removeColumn⟩

namespace Session

/-- A client that can work: its connection is in order, its schema is there, it is not closed, and the handles it has are
good. -/
structure Ready (driver : Driver κ δ) (session : Session κ) : Prop where
  usable : driver.Usable session.connection
  alive : session.phase.isAlive = true
  runsAll {statements : Statements} (h : session.phase = .active statements) : driver.RunsAll session.connection statements

/-- A client that can work and sees these triples. -/
structure Sees (driver : Driver κ δ) (session : Session κ) (bag : Bag) : Prop where
  ready : session.Ready driver
  bag : driver.bag session.connection = bag

/-- A client that is active with these statements and sees these triples. -/
structure Works (driver : Driver κ δ) (session : Session κ) (statements : Statements) (bag : Bag) : Prop where
  sees : session.Sees driver bag
  active : session.phase = .active statements

variable {driver : Driver κ δ} {session : Session κ} {statements : Statements} {bag : Bag}

/-- A ready client whose connection has been through a call is ready. -/
theorem Ready.keep (h : session.Ready driver) {connection : κ} (hkeeps : driver.Keeps session.connection connection) :
    Ready driver { session with connection } :=
  ⟨hkeeps.usable, h.alive, fun hactive => (h.runsAll hactive).keep hkeeps⟩

/-- A client that works goes on to do so after a call. -/
theorem Works.keep (h : session.Works driver statements bag) {connection : κ} {bag' : Bag}
    (hkeeps : driver.Keeps session.connection connection) (hbag : driver.bag connection = bag') :
    Works driver { session with connection } statements bag' :=
  ⟨⟨h.sees.ready.keep hkeeps, hbag⟩, h.active⟩

theorem Works.runsAll (h : session.Works driver statements bag) : driver.RunsAll session.connection statements :=
  h.sees.ready.runsAll h.active

end Session

namespace RelationalClient

open Session

variable {driver : Driver κ δ} {client : RelationalClient} {session : Session κ} {statements : Statements} {bag : Bag}

/-! ## Calls and statements -/

/-- A call gives what the connection answers. -/
theorem call_gives {α : Type} {request : Call κ α} {result : Except DriverError α} {after : κ}
    (h : request.run session.connection = (result, after)) :
    (call request).Gives session result { session with connection := after } := by
  unfold call
  refine .bind .currentState ?_
  rw [h]
  exact .bind .setState .pure

/-- A call for a row operation that the connection answers gives the answer. -/
theorem perform_gives {α : Type} {request : Call κ α} {a : α} {after : κ} (operation : String) (key : RowKey)
    (h : request.run session.connection = (.ok a, after)) :
    (client.perform operation key request).Gives session (.ok a) { session with connection := after } :=
  .bind (.toAction (call_gives h)) .pure

variable [SqlConnection κ]

/-- A faithful driver prepares the statement of a row template. -/
theorem prepare_gives (hdriver : driver.Faithful client.dialect) (session : Session κ) {template : Template}
    (htemplate : template ∈ Template.ofRows) (husable : driver.Usable session.connection) :
    ∃ handle after, (client.prepare template).Gives session (.ok handle) { session with connection := after } ∧
      driver.Runs after handle template ∧ driver.Keeps session.connection after ∧
      driver.bag after = driver.bag session.connection := by
  obtain ⟨sql, hsql, hprepare⟩ := hdriver.prepare htemplate
  obtain ⟨handle, after, hrun, hruns, hkeeps, hbag⟩ := hprepare session.connection husable
  refine ⟨handle, after, ?_, hruns, hkeeps, hbag⟩
  unfold prepare
  rw [hsql]
  exact .bind .liftExcept (.bind (.toAction (call_gives hrun)) .pure)

/-- All five row statements are prepared. -/
theorem prepareAll_gives (hdriver : driver.Faithful client.dialect) (husable : driver.Usable session.connection) :
    ∃ statements after, client.prepareAll.Gives session (.ok statements) { session with connection := after } ∧
      driver.RunsAll after statements ∧ driver.Keeps session.connection after ∧
      driver.bag after = driver.bag session.connection := by
  obtain ⟨deleteRow, c₁, h₁, hruns₁, hkeeps₁, hbag₁⟩ :=
    prepare_gives hdriver session (by decide : Template.deleteRow ∈ Template.ofRows) husable
  obtain ⟨selectRow, c₂, h₂, hruns₂, hkeeps₂, hbag₂⟩ :=
    prepare_gives hdriver { session with connection := c₁ } (by decide : Template.selectRow ∈ Template.ofRows) hkeeps₁.usable
  obtain ⟨insertColumn, c₃, h₃, hruns₃, hkeeps₃, hbag₃⟩ :=
    prepare_gives hdriver { session with connection := c₂ } (by decide : Template.insertColumn ∈ Template.ofRows) hkeeps₂.usable
  obtain ⟨updateColumn, c₄, h₄, hruns₄, hkeeps₄, hbag₄⟩ :=
    prepare_gives hdriver { session with connection := c₃ } (by decide : Template.updateColumn ∈ Template.ofRows) hkeeps₃.usable
  obtain ⟨removeColumn, c₅, h₅, hruns₅, hkeeps₅, hbag₅⟩ :=
    prepare_gives hdriver { session with connection := c₄ } (by decide : Template.removeColumn ∈ Template.ofRows) hkeeps₄.usable
  have hfrom₄ := hkeeps₄.trans hkeeps₅
  have hfrom₃ := hkeeps₃.trans hfrom₄
  have hfrom₂ := hkeeps₂.trans hfrom₃
  refine ⟨⟨deleteRow, selectRow, insertColumn, updateColumn, removeColumn⟩, c₅, ?_, ?_, hkeeps₁.trans hfrom₂, ?_⟩
  · exact .bind h₁ (.bind h₂ (.bind h₃ (.bind h₄ (.bind h₅ .pure))))
  · exact ⟨hfrom₂.runs hruns₁, hfrom₃.runs hruns₂, hfrom₄.runs hruns₃, hkeeps₅.runs hruns₄, hruns₅⟩
  · exact hbag₅.trans (hbag₄.trans (hbag₃.trans (hbag₂.trans hbag₁)))

/-- A client that can work comes to be active, if it is not. -/
theorem startUp_gives (hdriver : driver.Faithful client.dialect) (h : session.Sees driver bag) :
    ∃ statements session', client.startUp.Gives session (.ok statements) session' ∧ session'.Works driver statements bag := by
  obtain ⟨prepared, after, hprepare, hruns, hkeeps, hbag⟩ := prepareAll_gives hdriver h.ready.usable
  have hready : Ready driver ⟨after, .active prepared⟩ := by
    refine ⟨hkeeps.usable, rfl, fun heq => ?_⟩
    cases heq
    exact hruns
  have hworks : Works driver ⟨after, .active prepared⟩ prepared bag := ⟨⟨hready, hbag.trans h.bag⟩, rfl⟩
  have halive := h.ready.alive
  cases hphase : session.phase with
  | created =>
    rw [hphase] at halive
    cases halive
  | closed =>
    rw [hphase] at halive
    cases halive
  | active statements =>
    refine ⟨statements, session, .bind .currentState ?_, h, hphase⟩
    rw [hphase]
    exact .pure
  | schemaChecked =>
    refine ⟨prepared, ⟨after, .active prepared⟩, .bind .currentState ?_, hworks⟩
    rw [hphase]
    exact .bind (.toAction hprepare.attempt) (.bind (.toAction (.bind .currentState .setState)) (.bind .log .pure))
  | passive =>
    refine ⟨prepared, ⟨after, .active prepared⟩, .bind .currentState ?_, hworks⟩
    rw [hphase]
    exact .bind (.toAction hprepare.attempt) (.bind (.toAction (.bind .currentState .setState)) (.bind .log .pure))

/-- Making a client ready has no effect on the triples. -/
theorem activate_gives (hdriver : driver.Faithful client.dialect) (h : session.Sees driver bag) :
    ∃ session', client.activate.Gives session (.ok ()) session' ∧ session'.Sees driver bag := by
  obtain ⟨statements, session', hgives, hworks⟩ := startUp_gives hdriver h
  exact ⟨session', .bind hgives .pure, hworks.sees⟩

/-- Nor has letting it rest. -/
theorem passivate_gives (hdriver : driver.Faithful client.dialect) (h : session.Sees driver bag) :
    ∃ session', client.passivate.Gives session () session' ∧ session'.Sees driver bag := by
  by_cases hphase : ∃ statements, session.phase = .active statements
  · obtain ⟨statements, hphase⟩ := hphase
    obtain ⟨after, hrelease, husable, hbag⟩ := hdriver.release h.ready.usable
    refine ⟨⟨after, .passive⟩, .bind .currentState ?_, ⟨husable, rfl, fun heq => nomatch heq⟩, hbag.trans h.bag⟩
    rw [hphase]
    exact .bind (.bind (call_gives hrelease) .pure) (.bind (.bind .currentState .setState) .log)
  · refine ⟨session, .bind .currentState ?_, h⟩
    cases hother : session.phase with
    | active statements => exact absurd ⟨statements, hother⟩ hphase
    | created | schemaChecked | passive | closed => exact .pure

/-! ## Rows -/

/-- Asking for a row gives the one that the bag shows. -/
theorem get_gives (hdriver : driver.Faithful client.dialect) (h : session.Sees driver bag) (hkeyed : bag.Keyed) {key : RowKey}
    {row : Row} (hrow : bag.Shows (client.rowId key) row) :
    ∃ session', (client.get key).Gives session (.ok row) session' ∧ session'.Sees driver bag := by
  obtain ⟨statements, session₁, hstart, hworks⟩ := startUp_gives hdriver h
  obtain ⟨pairs, after, hquery, hpairs, hkeeps, hbag⟩ :=
    hdriver.query (client.rowId key) hworks.sees.ready.usable hworks.runsAll.selectRow
  rw [hworks.sees.bag] at hpairs hbag
  refine ⟨_, ?_, (hworks.keep hkeeps hbag).sees⟩
  rw [← hrow.ofList_eq hkeyed hpairs]
  exact .bind hstart (.bind (perform_gives "get" key hquery) .pure)

/-- An update that is made for an operation on a row has its effect on the bag and tells its reach. -/
theorem performUpdate_gives (hdriver : driver.Faithful client.dialect) (h : session.Works driver statements bag)
    (operation : String) (key : RowKey) {handle : Nat} {template : Template}
    (hruns : driver.Runs session.connection handle template)
    (params : List String) {reached : Nat} {bag' : Bag} (heffect : template.effect params bag = some (reached, bag')) :
    ∃ session', (client.perform operation key (SqlConnection.update handle params)).Gives session (.ok reached) session' ∧
      session'.Works driver statements bag' := by
  rw [← h.sees.bag] at heffect
  obtain ⟨after, hupdate, hkeeps, hbag⟩ := hdriver.update h.sees.ready.usable hruns heffect
  exact ⟨_, perform_gives operation key hupdate, h.keep hkeeps hbag⟩

/-- Saving a column of a row has its effect on the bag. -/
theorem saveColumn_gives (hdriver : driver.Faithful client.dialect) (h : session.Works driver statements bag) (key : RowKey)
    (change : String × Option String) :
    ∃ session', (client.saveColumn statements key change).Gives session (.ok ()) session' ∧
      session'.Works driver statements (bag.save (client.rowId key) change) := by
  obtain ⟨column, text⟩ := change
  cases text with
  | none =>
    obtain ⟨session₁, hremove, hworks⟩ := performUpdate_gives hdriver h "insert" key h.runsAll.removeColumn
      [client.rowId key, column] rfl
    exact ⟨session₁, .bind hremove .log, hworks⟩
  | some v =>
    obtain ⟨session₁, hupdate, hworks⟩ := performUpdate_gives hdriver h "insert" key h.runsAll.updateColumn
      [v, client.rowId key, column] rfl
    simp only [Bag.save]
    by_cases hcount : 0 < bag.countP (·.isAt (client.rowId key) column)
    · rw [if_pos hcount]
      refine ⟨session₁, .bind hupdate ?_, hworks⟩
      simp only [if_pos hcount]
      exact .log
    · rw [if_neg hcount]
      rw [Bag.update_of_countP_eq_zero (Nat.eq_zero_of_not_pos hcount)] at hworks
      obtain ⟨session₂, hinsert, hworks⟩ := performUpdate_gives hdriver hworks "insert" key hworks.runsAll.insertColumn
        [v, client.rowId key, column] rfl
      refine ⟨session₂, .bind hupdate ?_, hworks⟩
      simp only [if_neg hcount]
      exact .bind hinsert (.bind .pure .log)

/-- Saving columns one after the other has the effects of all of them. -/
theorem saveColumns_gives (hdriver : driver.Faithful client.dialect) (h : session.Works driver statements bag) (key : RowKey)
    (texts : List (String × Option String)) :
    ∃ session', Action.Gives (texts.forM (client.saveColumn statements key)) session (.ok ()) session' ∧
      session'.Works driver statements (bag.saveAll (client.rowId key) texts) := by
  induction texts generalizing session bag with
  | nil => exact ⟨session, .pure, h⟩
  | cons change texts ih =>
    obtain ⟨session₁, hsave, hworks⟩ := saveColumn_gives hdriver h key change
    obtain ⟨session₂, hrest, hworks⟩ := ih hworks
    exact ⟨session₂, .bind hsave hrest, hworks⟩

/-- Inserting changes that put no bytes has the effects of saving their texts. -/
theorem insert_gives (hdriver : driver.Faithful client.dialect) (h : session.Sees driver bag) (key : RowKey) {changes : Changes}
    (htakes : changes.PutsOnly Value.Textual) :
    ∃ texts session', Bag.TextsOf changes.toList texts ∧ (client.insert key changes).Gives session (.ok ()) session' ∧
      session'.Sees driver (bag.saveAll (client.rowId key) texts) := by
  obtain ⟨texts, hmap, htexts⟩ := mapM_textOf fun column v hmem => htakes column v (Changes.mem_toList_iff.mp hmem)
  obtain ⟨statements, session₁, hstart, hworks⟩ := startUp_gives hdriver h
  obtain ⟨session₂, hsave, hworks⟩ := saveColumns_gives hdriver hworks key texts
  refine ⟨texts, session₂, htexts, ?_, hworks.sees⟩
  unfold insert
  rw [hmap]
  exact .bind .ofExcept (.bind hstart hsave)

/-- Removing a row leaves its triples out. -/
theorem remove_gives (hdriver : driver.Faithful client.dialect) (h : session.Sees driver bag) (key : RowKey) :
    ∃ session', (client.remove key).Gives session (.ok ()) session' ∧ session'.Sees driver (bag.dropRow (client.rowId key)) := by
  obtain ⟨statements, session₁, hstart, hworks⟩ := startUp_gives hdriver h
  obtain ⟨session₂, hremove, hworks⟩ := performUpdate_gives hdriver hworks "remove" key hworks.runsAll.deleteRow
    [client.rowId key] rfl
  exact ⟨session₂, .bind hstart (.bind hremove .log), hworks.sees⟩

end RelationalClient

end SparseRows
