import SparseRows.Proofs.Relational.Changed
import SparseRows.Proofs.Relational.Client
import SparseRows.Proofs.Relational.FailingDriver
import SparseRows.Proofs.Relational.Operations

/-!
# Calls that lapse

That a call of a relational client has failed, or has inserted nothing, is told from the calls that were noted
(`Seen.Lapses`). What comes of an insertion is known, so it remains to be said what a driver that fails cleanly makes of its
calls: a client that starts up either works with its statements or has been refused one (`StartsUp.serves`,
`StartsUp.refuses`), and saving columns stops at the first call that lapses, and is the same as if this call had not been
made (`SavesColumns.settles`).
-/

namespace SparseRows

variable {κ δ : Type}

namespace Seen

/-- A call runs a statement for a column of a row. -/
inductive IsFor (rid column : String) : Seen → Prop
  | save {handle : Nat} {text : String} {answer : Except DriverError Nat} :
      IsFor rid column (.update handle [text, rid, column] answer)
  | remove {handle : Nat} {answer : Except DriverError Nat} : IsFor rid column (.update handle [rid, column] answer)

/-- A call by a client in a phase does not do what it is made for: it fails, or it is to insert a text and inserts none. -/
inductive Lapses (phase : Phase) : Seen → Prop
  | failed {call : Seen} {e : DriverError} (h : call.failure? = some e) : Lapses phase call
  | idle {statements : Statements} {handle : Nat} {text rid column : String} (h : phase = .active statements)
      (hhandle : statements.insertColumn = handle) : Lapses phase (.update handle [text, rid, column] (.ok 0))

/-- A call is for one column at most. -/
theorem IsFor.unique {rid column name : String} {call : Seen} (h : call.IsFor rid column) (h' : call.IsFor rid name) :
    column = name := by
  cases h <;> cases h' <;> rfl

/-- A call for a column goes by a handle. -/
theorem IsFor.handle? {rid column : String} {call : Seen} (h : call.IsFor rid column) : call.handle? ≠ none := by
  cases h <;> exact Option.some_ne_none _

/-- Only a call by a handle is for nothing without failing. -/
theorem not_lapses_of_handle? {phase : Phase} {call : Seen} (hhandle : call.handle? = none) (hfailure : call.failure? = none) :
    ¬call.Lapses phase := by
  intro hlapses
  cases hlapses with
  | failed h =>
    rw [hfailure] at h
    cases h
  | idle => cases hhandle

end Seen

/-- A driver whose connections are watched. -/
def Driver.traced (driver : Driver κ δ) : Driver (Traced κ) δ where
  attach connection database := { connection with inner := driver.attach connection.inner database }
  database connection := driver.database connection.inner
  triples := driver.triples
  Usable connection := driver.Usable connection.inner
  Runs connection := driver.Runs connection.inner

/-- The handles of a connection that is watched are those of the one behind it. -/
theorem Driver.runsAll_traced {driver : Driver κ δ} {connection : Traced κ} {statements : Statements} :
    driver.traced.RunsAll connection statements ↔ driver.RunsAll connection.inner statements := by
  constructor
  · rintro ⟨hdeleteRow, hselectRow, hinsertColumn, hupdateColumn, hremoveColumn⟩
    exact ⟨hdeleteRow, hselectRow, hinsertColumn, hupdateColumn, hremoveColumn⟩
  · rintro ⟨hdeleteRow, hselectRow, hinsertColumn, hupdateColumn, hremoveColumn⟩
    exact ⟨hdeleteRow, hselectRow, hinsertColumn, hupdateColumn, hremoveColumn⟩

/-- Handles that are those of the row statements run them. -/
theorem Driver.RunsAll.runs {driver : Driver κ δ} {connection : κ} {statements : Statements}
    (h : driver.RunsAll connection statements)
    {template : Template} {handle : Nat} (hhandle : statements.handle? template = some handle) :
    driver.Runs connection handle template := by
  cases template with
  | checkSchema | validate => cases hhandle
  | deleteRow =>
    cases hhandle
    exact h.deleteRow
  | selectRow =>
    cases hhandle
    exact h.selectRow
  | insertColumn =>
    cases hhandle
    exact h.insertColumn
  | updateColumn =>
    cases hhandle
    exact h.updateColumn
  | removeColumn =>
    cases hhandle
    exact h.removeColumn

/-- A connection is in order, runs the statements of a client and sees these triples. -/
structure Driver.Serves (driver : Driver κ δ) (connection : κ) (statements : Statements) (bag : Bag) : Prop where
  usable : driver.Usable connection
  runsAll : driver.RunsAll connection statements
  bag : driver.bag connection = bag

/-- It does so after a call. -/
theorem Driver.Serves.keep {driver : Driver κ δ} {before after : κ} {statements : Statements} {bag bag' : Bag}
    (h : driver.Serves before statements bag) (hkeeps : driver.Keeps before after) (hbag : driver.bag after = bag') :
    driver.Serves after statements bag' :=
  ⟨hkeeps.usable, h.runsAll.keep hkeeps, hbag⟩

/-- A statement that misses has failed, if it is not to insert or has inserted something. -/
theorem Template.Misses.error {template : Template} {answer : Except DriverError Nat} (h : template.Misses answer)
    (hother : template ≠ .insertColumn ∨ answer ≠ .ok 0) : ∃ e, answer = .error e := by
  rcases h with h | ⟨htemplate, hanswer⟩
  · exact h
  · rcases hother with hne | hne
    · exact absurd htemplate hne
    · exact absurd hanswer hne

namespace RelationalClient

variable [SqlConnection κ] {driver : Driver κ δ} {client : RelationalClient} {statements : Statements} {bag bag' : Bag}
  {before after : κ}
  {key : RowKey} {calls later : List Seen} {start phase : Phase}

/-! ## Starting up -/

/-- A connection is in order, sees these triples, and has statements of these templates by these handles. -/
structure HasReady (driver : Driver κ δ) (bag : Bag) (templates : List Template) (handles : List Nat) (connection : κ) : Prop where
  usable : driver.Usable connection
  bag : driver.bag connection = bag
  runs : List.Forall₂ (driver.Runs connection) handles templates

/-- Preparing the statement of a row template makes it ready, or it is refused and all is as before. -/
theorem prepare_of_hasReady (hdriver : driver.FailsCleanly client.dialect) {templates : List Template} {handles : List Nat}
    {template : Template} {sql : String} {answer : Except DriverError Nat} (h : HasReady driver bag templates handles before)
    (htemplate : template ∈ Template.ofRows) (hsql : client.dialect.sql template = .ok sql)
    (hcall : (Seen.prepare sql answer).Happens before after) :
    HasReady driver bag templates handles after ∧
      ∀ handle, answer = .ok handle → HasReady driver bag (templates ++ [template]) (handles ++ [handle]) after := by
  obtain ⟨sql', hsql', hprepare⟩ := hdriver.prepare htemplate
  obtain rfl : sql = sql' := Except.ok.inj (hsql.symm.trans hsql')
  obtain ⟨answer', after', hrun, hkeeps, hbag, hruns⟩ := hprepare before h.usable
  obtain ⟨rfl, rfl⟩ := Prod.mk.inj (hrun.symm.trans hcall)
  have hkept := h.runs.imp fun _ _ => hkeeps.runs
  refine ⟨⟨hkeeps.usable, hbag.trans h.bag, hkept⟩, fun handle hanswer => ⟨hkeeps.usable, hbag.trans h.bag, ?_⟩⟩
  exact List.rel_append hkept (.cons (hruns handle hanswer) .nil)

/-- Statements of row templates that are prepared one after the other are ready. -/
theorem hasReady_of_prepares (hdriver : driver.FailsCleanly client.dialect) {templates : List Template} {handles : List Nat}
    (h : client.dialect.Prepares templates handles calls) (htemplates : templates ⊆ Template.ofRows)
    (husable : driver.Usable before)
    (hanswered : Answered before calls after) : HasReady driver (driver.bag before) templates handles after := by
  induction h generalizing after with
  | nil =>
    rw [hanswered.eq_start]
    exact ⟨husable, rfl, .nil⟩
  | snoc _ hsql ih =>
    obtain ⟨hearlier, htemplate⟩ := List.append_subset.mp htemplates
    obtain ⟨between, hcalls, hcall⟩ := hanswered.of_concat
    exact (prepare_of_hasReady hdriver (ih hearlier hcalls) (htemplate List.mem_cons_self) hsql hcall).2 _ rfl

/-- Where a row statement is not to be had, the connection has refused to prepare it, and it is in order and sees what it
saw. -/
theorem refused_of_lacks (hdriver : driver.FailsCleanly client.dialect) {e : StorageError} (h : client.dialect.Lacks calls e)
    (husable : driver.Usable before) (hanswered : Answered before calls after) :
    driver.Usable after ∧ driver.bag after = driver.bag before ∧ ∃ call ∈ calls, ∃ cause, call.failure? = some cause := by
  cases h with
  | missing _ hnext hsql =>
    obtain ⟨sql, hok, -⟩ := hdriver.prepare (hnext ▸ List.mem_append_right _ List.mem_cons_self)
    cases hok.symm.trans hsql
  | refused hprepares hnext hsql =>
    have htemplate := hnext ▸ List.mem_append_right _ List.mem_cons_self
    obtain ⟨between, hcalls, hcall⟩ := hanswered.of_concat
    have hearlier := hasReady_of_prepares hdriver hprepares (hnext ▸ List.subset_append_left _ _) husable hcalls
    obtain ⟨hafter, -⟩ := prepare_of_hasReady hdriver hearlier htemplate hsql hcall
    exact ⟨hafter.usable, hafter.bag, _, List.mem_append_right _ (List.mem_singleton_self _), _, rfl⟩

/-- A client that starts up has the row statements, no call lapses, and it sees what it saw. -/
theorem StartsUp.serves (hdriver : driver.FailsCleanly client.dialect) (h : client.StartsUp start calls (.ok statements) phase)
    (husable : driver.Usable before) (hruns : ∀ {statements}, start = .active statements → driver.RunsAll before statements)
    (hanswered : Answered before calls after) :
    driver.Serves after statements (driver.bag before) ∧ ∀ call ∈ calls, ¬call.Lapses (.active statements) := by
  constructor
  · cases h with
    | active hactive =>
      rw [hanswered.eq_start]
      exact ⟨husable, hruns hactive, rfl⟩
    | prepared _ hcalls =>
      have hready := hasReady_of_prepares hdriver hcalls (List.Subset.refl _) husable hanswered
      have hrow := hready.runs
      simp only [Statements.handles, Template.ofRows, List.forall₂_cons, List.forall₂_nil_left_iff, and_true] at hrow
      obtain ⟨hdeleteRow, hselectRow, hinsertColumn, hupdateColumn, hremoveColumn⟩ := hrow
      exact ⟨hready.usable, ⟨hdeleteRow, hselectRow, hinsertColumn, hupdateColumn, hremoveColumn⟩, hready.bag⟩
  · exact fun call hmem => Seen.not_lapses_of_handle? (h.handle? call hmem) (h.failure? call hmem)

/-- What becomes of a connection when a client that is alive does not start up. -/
structure Refuses (driver : Driver κ δ) (before after : κ) (calls : List Seen) : Prop where
  usable : driver.Usable after
  bag : driver.bag after = driver.bag before
  handle? : ∀ call ∈ calls, call.handle? = none
  failed : ∃ call ∈ calls, ∃ cause, call.failure? = some cause

/-- A client that is alive does not start up only if the connection refuses to prepare a statement. -/
theorem StartsUp.refuses (hdriver : driver.FailsCleanly client.dialect) {e : StorageError}
    (h : client.StartsUp start calls (.error e) phase) (halive : start.isAlive = true) (husable : driver.Usable before)
    (hanswered : Answered before calls after) : Refuses driver before after calls := by
  cases h with
  | unready hidle _ _ => cases hidle.symm.trans halive
  | brokenOff _ hlacks =>
    obtain ⟨between, hcalls, hcall⟩ := hanswered.of_concat
    obtain ⟨hbetween, hbag, call, hmem, hfailed⟩ := refused_of_lacks hdriver hlacks husable hcalls
    obtain ⟨answer, after', hrun, hafter, hreleased⟩ := hdriver.release hbetween
    obtain ⟨rfl, rfl⟩ := Prod.mk.inj (hrun.symm.trans hcall)
    refine ⟨hafter, hreleased.trans hbag, ?_, call, List.mem_append_left _ hmem, hfailed⟩
    refine List.forall_mem_append.mpr ⟨fun call hmem => ?_, List.forall_mem_singleton.mpr rfl⟩
    exact Seen.handle?_of_isPrepare (Dialect.BreaksOff.isPrepare ⟨_, hlacks⟩ call hmem)

/-! ## Statements for a column -/

section

variable {template : Template} {handle : Nat} {params : List String} {reached : Nat}

omit [SqlConnection κ] in
/-- A statement that misses lapses. -/
theorem lapses_of_misses {answer : Except DriverError Nat} (hmisses : template.Misses answer)
    (hhandle : statements.handle? template = some handle) (heffect : template.effect params bag = some (reached, bag')) :
    (Seen.update handle params answer).Lapses (.active statements) := by
  rcases hmisses with ⟨e, rfl⟩ | ⟨rfl, rfl⟩
  · exact .failed rfl
  · cases hhandle
    rcases params with _ | ⟨text, _ | ⟨rid, _ | ⟨column, _ | ⟨more, params⟩⟩⟩⟩
    · cases heffect
    · cases heffect
    · cases heffect
    · exact .idle rfl rfl
    · cases heffect

/-- A statement that has its effect does what it is for. -/
theorem not_lapses_of_effect (hdriver : driver.FailsCleanly client.dialect) (hruns : driver.RunsAll before statements)
    (hhandle : statements.handle? template = some handle) (heffect : template.effect params bag = some (reached, bag')) :
    ¬(Seen.update handle params (.ok reached)).Lapses (.active statements) := by
  intro hlapses
  cases hlapses with
  | failed h => cases h
  | idle h hinsert =>
    cases h
    cases hinsert
    cases template with
    | updateColumn => exact hdriver.apart (hruns.runs hhandle) hruns.insertColumn
    | insertColumn =>
      rw [Template.effect, Option.some.injEq, Prod.mk.injEq] at heffect
      exact absurd heffect.1 Nat.one_ne_zero
    | deleteRow | selectRow | removeColumn | checkSchema | validate => cases heffect

/-- The statement of a template has its effect, or it misses and has none. -/
theorem update_of_serves (hdriver : driver.FailsCleanly client.dialect) (template : Template)
    (h : driver.Serves before statements bag)
    (hhandle : statements.handle? template = some handle) (heffect : template.effect params bag = some (reached, bag'))
    {answer : Except DriverError Nat} (hcall : (Seen.update handle params answer).Happens before after) :
    answer = .ok reached ∧ ¬(Seen.update handle params answer).Lapses (.active statements) ∧ driver.Serves after statements bag' ∨
      template.Misses answer ∧ (Seen.update handle params answer).Lapses (.active statements) ∧
        driver.Serves after statements bag := by
  obtain ⟨answer', after', hrun, hkeeps, hcases⟩ := hdriver.update h.usable (h.runsAll.runs hhandle) (h.bag.symm ▸ heffect)
  obtain ⟨rfl, rfl⟩ := Prod.mk.inj (hrun.symm.trans hcall)
  rcases hcases with ⟨rfl, hbag⟩ | ⟨hmisses, hbag⟩
  · exact .inl ⟨rfl, not_lapses_of_effect hdriver h.runsAll hhandle heffect, h.keep hkeeps hbag⟩
  · exact .inr ⟨hmisses, lapses_of_misses hmisses hhandle heffect, h.keep hkeeps (hbag.trans h.bag)⟩

end

/-! ## Columns -/

/-- What saving columns of a row comes to: no call lapses and all are saved, or those before a column for which a call
lapses, the first one to do so. -/
inductive Settles (driver : Driver κ δ) (statements : Statements) (key : RowKey) (rid : String) (bag : Bag)
    (texts : List (String × Option String)) (calls : List Seen) (after : κ) : Option StorageError → Prop
  | saved (hcalls : ∀ call ∈ calls, ¬call.Lapses (.active statements))
      (hserves : driver.Serves after statements (bag.saveAll rid texts)) :
      Settles driver statements key rid bag texts calls after none
  | stopped {saved rest : List (String × Option String)} {column : String} {text : Option String}
      {earlier : List Seen} {last : Seen}
      {e : StorageError} (htexts : texts = saved ++ (column, text) :: rest) (hcalls : calls = earlier ++ [last])
      (hearlier : ∀ call ∈ earlier, ¬call.Lapses (.active statements)) (hlast : last.Lapses (.active statements))
      (hcolumn : last.IsFor rid column) (hserves : driver.Serves after statements (bag.saveAll rid saved))
      (hcode : e.code = .driver) (hrow : e.row = some key) :
      Settles driver statements key rid bag texts calls after (some e)

section

variable {rid : String} {texts more : List (String × Option String)} {between : κ} {e : Option StorageError}

omit [SqlConnection κ] in
/-- Whatever it comes to, the statements are as they were. -/
theorem Settles.exists_serves (h : Settles driver statements key rid bag texts calls after e) :
    ∃ bag', driver.Serves after statements bag' := by
  cases h with
  | saved _ hserves => exact ⟨_, hserves⟩
  | stopped _ _ _ _ _ hserves _ _ => exact ⟨_, hserves⟩

omit [SqlConnection κ] in
/-- Where saving some columns stops, saving more stops. -/
theorem Settles.append_right {error : StorageError} (h : Settles driver statements key rid bag texts calls after (some error)) :
    Settles driver statements key rid bag (texts ++ more) calls after (some error) := by
  cases h with
  | stopped htexts hcalls hearlier hlast hcolumn hserves hcode hrow =>
    exact .stopped (by rw [htexts, List.append_assoc, List.cons_append]) hcalls hearlier hlast hcolumn hserves hcode hrow

omit [SqlConnection κ] in
/-- Once some columns are saved, it hangs on the others what saving all of them comes to. -/
theorem Settles.append (h : Settles driver statements key rid bag texts calls between none)
    (hlater : Settles driver statements key rid (bag.saveAll rid texts) more later after e) :
    Settles driver statements key rid bag (texts ++ more) (calls ++ later) after e := by
  cases h with
  | saved hcalls _ =>
    cases hlater with
    | saved hlater hserves =>
      rw [← Bag.saveAll_append] at hserves
      exact .saved (List.forall_mem_append.mpr ⟨hcalls, hlater⟩) hserves
    | @stopped saved rest column text earlier last _ htexts hlater hearlier hlast hcolumn hserves hcode hrow =>
      rw [← Bag.saveAll_append] at hserves
      have htexts' : texts ++ more = (texts ++ saved) ++ (column, text) :: rest := by rw [htexts, List.append_assoc]
      have hcalls' : calls ++ later = (calls ++ earlier) ++ [last] := by rw [hlater, List.append_assoc]
      exact .stopped htexts' hcalls' (List.forall_mem_append.mpr ⟨hcalls, hearlier⟩) hlast hcolumn hserves hcode hrow

/-- The last call decides what saving a column comes to, if those before it have changed nothing. -/
theorem settles_of_last (hdriver : driver.FailsCleanly client.dialect) (template : Template) {handle : Nat} {params : List String}
    {reached : Nat} {column : String} {text : Option String} {answer : Except DriverError Nat} {earlier : List Seen}
    (h : driver.Serves before statements bag) (hearlier : ∀ call ∈ earlier, ¬call.Lapses (.active statements))
    (hhandle : statements.handle? template = some handle) (heffect : template.effect params bag = some (reached, bag'))
    (hsaves : answer = .ok reached → bag' = bag.save rid (column, text))
    (hcolumn : (Seen.update handle params answer).IsFor rid column)
    (hcall : (Seen.update handle params answer).Happens before after) (hother : template ≠ .insertColumn ∨ answer ≠ .ok 0) :
    Settles driver statements key rid bag [(column, text)] (earlier ++ [.update handle params answer]) after
      ((errorOf? answer).map (refusal "insert" key)) := by
  rcases update_of_serves hdriver template h hhandle heffect hcall with ⟨rfl, hfine, hserves⟩ | ⟨hmisses, hlapses, hserves⟩
  · rw [hsaves rfl] at hserves
    exact .saved (List.forall_mem_append.mpr ⟨hearlier, List.forall_mem_singleton.mpr hfine⟩) hserves
  · obtain ⟨cause, rfl⟩ := hmisses.error hother
    have hfirst : [(column, text)] = [] ++ (column, text) :: [] := rfl
    exact .stopped hfirst rfl hearlier hlapses hcolumn hserves rfl rfl

/-- An update that reaches nothing changes nothing, and there is nothing to overwrite. -/
theorem update_of_idle (hdriver : driver.FailsCleanly client.dialect) {column text : String}
    (h : driver.Serves before statements bag)
    (hcall : (Seen.update statements.updateColumn [text, rid, column] (.ok 0)).Happens before after) :
    bag.countP (·.isAt rid column) = 0 ∧ driver.Serves after statements bag ∧
      ∀ call ∈ [Seen.update statements.updateColumn [text, rid, column] (.ok 0)], ¬call.Lapses (.active statements) := by
  rcases update_of_serves hdriver .updateColumn h rfl rfl hcall with ⟨hanswer, hfine, hserves⟩ | ⟨hmisses, -, -⟩
  · have hnone : bag.countP (·.isAt rid column) = 0 := (Except.ok.inj hanswer).symm
    rw [Bag.update_of_countP_eq_zero hnone] at hserves
    exact ⟨hnone, hserves, List.forall_mem_singleton.mpr hfine⟩
  · obtain ⟨cause, hfails⟩ := hmisses.error (.inl nofun)
    cases hfails

/-- Saving a column saves it, or it stops at a call for it and the column is as it was. -/
theorem SavesColumn.settles (hdriver : driver.FailsCleanly client.dialect) {saved : String × Option String}
    (h : client.SavesColumn statements key saved calls e) (hserves : driver.Serves before statements bag)
    (hanswered : Answered before calls after) : Settles driver statements key (client.rowId key) bag [saved] calls after e := by
  cases h with
  | removal =>
    exact settles_of_last hdriver .removeColumn hserves (List.forall_mem_nil _) rfl rfl (fun _ => rfl) .remove
      hanswered.of_singleton (.inl nofun)
  | @overwriting column text answer hsome =>
    refine settles_of_last hdriver .updateColumn hserves (List.forall_mem_nil _) rfl rfl ?_ .save
      hanswered.of_singleton (.inl nofun)
    intro hanswer
    have hcount : 0 < bag.countP (·.isAt (client.rowId key) column) := Nat.pos_of_ne_zero fun hnone => hsome (hnone ▸ hanswer)
    rw [Bag.save, if_pos hcount]
  | @insertion column text answer hsome =>
    obtain ⟨between, hfirst, hlast⟩ := hanswered.of_cons
    obtain ⟨hnone, hbetween, hfine⟩ := update_of_idle hdriver hserves hfirst
    refine settles_of_last hdriver .insertColumn hbetween hfine rfl rfl ?_ .save hlast.of_singleton (.inr hsome)
    intro _
    rw [Bag.save, if_neg (Nat.not_lt.mpr (Nat.le_of_eq hnone))]
  | @idle column text =>
    obtain ⟨between, hfirst, hlast⟩ := hanswered.of_cons
    obtain ⟨-, hbetween, hfine⟩ := update_of_idle hdriver hserves hfirst
    rcases update_of_serves hdriver .insertColumn hbetween rfl rfl hlast.of_singleton with ⟨hanswer, -, -⟩ | ⟨-, hlapses, hafter⟩
    · cases hanswer
    · have hsaved : [(column, some text)] = [] ++ (column, some text) :: [] := rfl
      exact .stopped hsaved rfl hfine hlapses .save hafter rfl rfl

/-- Saving columns one after the other saves those before the first one for which a call lapses. -/
theorem SavesColumns.settles (hdriver : driver.FailsCleanly client.dialect) (h : client.SavesColumns statements key texts calls e)
    (hserves : driver.Serves before statements bag) (hanswered : Answered before calls after) :
    Settles driver statements key (client.rowId key) bag texts calls after e := by
  induction h generalizing before bag with
  | nil =>
    rw [hanswered.eq_start]
    exact .saved (List.forall_mem_nil _) hserves
  | cons h _ ih =>
    obtain ⟨between, hfirst, hlater⟩ := hanswered.of_append
    have hsettles := h.settles hdriver hserves hfirst
    cases hsettles with
    | saved hcalls hbetween => exact Settles.append (.saved hcalls hbetween) (ih hbetween hlater)
  | failed h => exact (h.settles hdriver hserves hanswered).append_right

end

end RelationalClient

end SparseRows
