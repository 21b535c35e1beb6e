import SparseRows.Proofs.Relational.Course
import SparseRows.Proofs.Relational.SchemaCheck
import SparseRows.Proofs.Relational.Texts

/-!
# What comes of operations

The outcome of each operation of a relational client, whatever its connection answers: which calls it has made, how it has
ended, and in which phase the client is then. There is one lemma for each function of a client, and what is said of its
operations elsewhere follows from these. An operation on rows starts the client up and uses its statements, up to the first
call that fails, so that its outcome is put together from those of the two (`Comes`). `Turn` tells all outcomes that there
are.
-/

namespace SparseRows

namespace ClientOp

/-- Whether an operation is on rows, or makes ready for such operations. -/
def IsOnRows : ClientOp → Prop
  | activate | get _ | insert _ _ | remove _ => True
  | checkSchema | passivate | validate | close => False

/-- Whether an operation is to put bytes into a column. -/
def PutsBytes : ClientOp → Prop
  | insert _ changes => ¬changes.PutsOnly Value.Textual
  | checkSchema | activate | passivate | validate | get _ | remove _ | close => False

end ClientOp

namespace RelationalClient

variable {κ : Type} [SqlConnection κ] {client : RelationalClient} {origin : Session κ} {done calls : List Seen}
  {start phase : Phase}

/-! ## Starting up -/

/-- What comes of starting up a client: the calls, the statements or an error, and the phase that the client comes to. -/
inductive StartsUp (client : RelationalClient) (start : Phase) : List Seen → Except StorageError Statements → Phase → Prop
  /-- It is active already. -/
  | active {statements : Statements} (h : start = .active statements) : StartsUp client start [] (.ok statements) start
  /-- It does not know of a schema yet, or it is closed. -/
  | unready {e : StorageError} (h : start.isAlive = false) (hcode : e.code = .notReady) (hcause : e.cause = none) :
      StartsUp client start [] (.error e) start
  /-- The statements are prepared. -/
  | prepared {statements : Statements} {calls : List Seen} (h : start = .schemaChecked ∨ start = .passive)
      (hcalls : client.dialect.Prepares Template.ofRows statements.handles calls) :
      StartsUp client start calls (.ok statements) (.active statements)
  /-- One is not to be had, and those before it are released. -/
  | brokenOff {calls : List Seen} {answer : Except DriverError Unit} {e : StorageError}
      (h : start = .schemaChecked ∨ start = .passive)
      (hcalls : client.dialect.Lacks calls e) : StartsUp client start (calls ++ [.release answer]) (.error e) start

/-- A client that does not start up is in the phase that it was in. -/
theorem StartsUp.phase_eq {e : StorageError} (h : client.StartsUp start calls (.error e) phase) : phase = start := by
  cases h with
  | unready | brokenOff => rfl

/-- Nor is it active. -/
theorem StartsUp.ne_active {e : StorageError} (h : client.StartsUp start calls (.error e) phase) (statements : Statements) :
    start ≠ .active statements := by
  rintro rfl
  cases h with
  | unready hidle _ _ => cases hidle
  | brokenOff hrest _ => rcases hrest with hrest | hrest <;> cases hrest

/-- A client that has started up is active. -/
theorem StartsUp.phase_of_ok {statements : Statements} (h : client.StartsUp start calls (.ok statements) phase) :
    phase = .active statements := by
  cases h with
  | active h => exact h
  | prepared _ _ => rfl

/-- A client that starts up is alive. -/
theorem StartsUp.isAlive {statements : Statements} (h : client.StartsUp start calls (.ok statements) phase) :
    start.isAlive = true := by
  cases h with
  | active h => exact h ▸ rfl
  | prepared h _ => rcases h with rfl | rfl <;> rfl

/-- A client that is not alive does nothing to start up. -/
theorem StartsUp.of_not_isAlive {result : Except StorageError Statements} (h : client.StartsUp start calls result phase)
    (hidle : start.isAlive = false) : calls = [] ∧ phase = start := by
  cases h with
  | active _ | unready _ _ _ => exact ⟨rfl, rfl⟩
  | prepared h _ | brokenOff h _ => rcases h with rfl | rfl <;> cases hidle

/-- What comes of preparing statements: those of some templates have some handles, or one is not to be had. -/
def HasPrepared {α : Type} (client : RelationalClient) (origin : Session κ) (phase : Phase) (templates : List Template)
    (handles : α → List Nat) (result : Except StorageError α) (session : Session κ) : Prop :=
  match result with
  | .ok a => ∃ calls, client.dialect.Prepares templates (handles a) calls ∧ Since origin calls phase session
  | .error e => ∃ calls, client.dialect.Lacks calls e ∧ Since origin calls phase session

/-- A statement is prepared behind those of the templates before, or it is not to be had. -/
theorem prepare_prepared {templates : List Template} {template : Template} (handles : List Nat)
    (hnext : ∃ rest, templates ++ template :: rest = Template.ofRows) :
    (client.prepare template).Ensures
      (fun session => ∃ calls, client.dialect.Prepares templates handles calls ∧ Since origin calls phase session)
      (HasPrepared client origin phase (templates ++ [template]) fun handle => handles ++ [handle]) := by
  obtain ⟨rest, hnext⟩ := hnext
  refine .of_exists fun calls => .of_and fun hcalls => ?_
  unfold prepare
  refine .bind_liftExcept (fun e hsql session h => ⟨calls, .missing hcalls hnext hsql, h⟩) fun sql hsql => ?_
  have hprepare : (call (SqlConnection.prepare sql) : Step (Session κ) _).Ensures (Since origin calls phase) fun answer =>
      Since origin (calls ++ [.prepare sql answer]) phase := call_since fun _ _ _ h => h
  refine .bind_toAction hprepare fun answer => ?_
  cases answer with
  | ok handle => exact .pure fun _ h => ⟨_, .snoc hcalls hsql, h⟩
  | error e => exact .throw fun _ h => ⟨_, .refused hcalls hnext hsql, h⟩

/-- All row statements are prepared, one behind the other, or one is not to be had. -/
theorem prepareAll_prepared (client : RelationalClient) (origin : Session κ) (phase : Phase) :
    client.prepareAll.Ensures (Since origin [] phase) (HasPrepared client origin phase Template.ofRows Statements.handles) := by
  unfold prepareAll
  refine .bind ((prepare_prepared [] ⟨_, rfl⟩).weaken (fun _ h => ⟨[], .nil, h⟩) fun _ _ h => h) (fun _ _ h => h)
    fun deleteRow => ?_
  refine .bind (prepare_prepared [deleteRow] ⟨_, rfl⟩) (fun _ _ h => h) fun selectRow => ?_
  refine .bind (prepare_prepared [deleteRow, selectRow] ⟨_, rfl⟩) (fun _ _ h => h) fun insertColumn => ?_
  refine .bind (prepare_prepared [deleteRow, selectRow, insertColumn] ⟨_, rfl⟩) (fun _ _ h => h) fun updateColumn => ?_
  refine .bind (prepare_prepared [deleteRow, selectRow, insertColumn, updateColumn] ⟨_, rfl⟩) (fun _ _ h => h)
    fun removeColumn => ?_
  exact .pure fun _ h => h

/-- The statements are released, whatever comes of it. -/
theorem release_since :
    (client.release : Step (Session κ) Unit).Ensures (Since origin calls phase) fun _ session =>
      ∃ answer, Since origin (calls ++ [.release answer]) phase session :=
  cleanUp_since "prepared statements" fun _ _ _ h => h

/-- A client starts up, unless it is not ready or a statement is not to be had. -/
theorem startUp_startsUp (client : RelationalClient) (origin : Session κ) (start : Phase) :
    client.startUp.Ensures (Since origin [] start) (Outcome (client.StartsUp start) origin) := by
  unfold startUp
  refine .bind_currentState fun session hsince => ?_
  cases hphase : session.phase with
  | active statements =>
    have hactive : start = .active statements := hsince.phase.symm.trans hphase
    exact .pure fun _ h => ⟨[], start, .active hactive, h ▸ hsince⟩
  | created | closed =>
    have hidle : start.isAlive = false := by rw [← hsince.phase, hphase]; rfl
    exact .throw fun _ h => ⟨[], start, .unready hidle rfl rfl, h ▸ hsince⟩
  -- Only a client at rest prepares statements.
  | schemaChecked | passive =>
    have hrest : start = .schemaChecked ∨ start = .passive := by simp [← hsince.phase, hphase]
    have hprepare := (prepareAll_prepared client origin start).attempt
    refine .bind_toAction (hprepare.weaken (fun _ h => h ▸ hsince) fun _ _ h => h) fun result => ?_
    cases result with
    | error e =>
      refine .of_exists fun calls => .of_and fun hcalls => ?_
      exact .bind_toAction release_since fun _ => .of_exists fun answer => .throw fun _ h => ⟨_, _, .brokenOff hrest hcalls, h⟩
    | ok statements =>
      refine .of_exists fun calls => .of_and fun hcalls => ?_
      exact .bind_toAction (enter_since _) fun _ => .bind_log (.pure fun _ h => ⟨_, _, .prepared hrest hcalls, h⟩)

/-! ## Using statements -/

/-- The calls of some work come behind those before and the phase is the same. They, and how the work ends, are as some
relation says. -/
def Adds {α : Type} (Ends : List Seen → Option StorageError → Prop) (origin : Session κ) (done : List Seen) (phase : Phase)
    (result : Except StorageError α) (session : Session κ) : Prop :=
  ∃ calls, Ends calls (errorOf? result) ∧ Since origin (done ++ calls) phase session

/-- Work on a row that is a single call, behind which nothing can fail. -/
theorem perform_adds {α β : Type} {request : Call κ α} {seen : Except DriverError α → Seen}
    {f : α → Action (Session κ) StorageError β}
    {Ends : List Seen → Option StorageError → Prop} (operation : String) (key : RowKey)
    (hends : ∀ answer, Ends [seen answer] ((errorOf? answer).map (refusal operation key)))
    (hhappens : ∀ before answer after, request.run before = (answer, after) → (seen answer).Happens before after)
    (hrest : ∀ a P, (f a).Ensures P fun result session => errorOf? result = none ∧ P session) :
    (client.perform operation key request >>= f).Ensures (Since origin done phase) (Adds Ends origin done phase) := by
  refine .bind (perform_since operation key hhappens) ?_ fun a => ?_
  · rintro e session ⟨answer, hresult, hsince⟩
    obtain ⟨cause, rfl, rfl⟩ := mapError_eq_error hresult.symm
    exact ⟨_, hends (.error cause), hsince⟩
  · refine (hrest a _).weaken (fun _ h => h) ?_
    rintro result session ⟨hnone, answer, hresult, hsince⟩
    obtain rfl := mapError_eq_ok hresult.symm
    exact ⟨_, hnone ▸ hends (.ok a), hsince⟩

/-- What comes of saving a column of a row. -/
inductive SavesColumn (client : RelationalClient) (statements : Statements) (key : RowKey) :
    String × Option String → List Seen → Option StorageError → Prop
  /-- The column is removed, or the connection refuses to do so. -/
  | removal {column : String} {answer : Except DriverError Nat} :
      SavesColumn client statements key (column, none) [.update statements.removeColumn [client.rowId key, column] answer]
        ((errorOf? answer).map (refusal "insert" key))
  /-- The text overwrites the one that is there, or the connection refuses to do so. -/
  | overwriting {column text : String} {answer : Except DriverError Nat} (h : answer ≠ .ok 0) :
      SavesColumn client statements key (column, some text)
        [.update statements.updateColumn [text, client.rowId key, column] answer] ((errorOf? answer).map (refusal "insert" key))
  /-- There is none to overwrite, so the text is inserted, or the connection refuses to do so. -/
  | insertion {column text : String} {answer : Except DriverError Nat} (h : answer ≠ .ok 0) :
      SavesColumn client statements key (column, some text)
        [.update statements.updateColumn [text, client.rowId key, column] (.ok 0),
          .update statements.insertColumn [text, client.rowId key, column] answer] ((errorOf? answer).map (refusal "insert" key))
  /-- There is none to overwrite, and the statement that is to insert the text inserts nothing. -/
  | idle {column text : String} :
      SavesColumn client statements key (column, some text)
        [.update statements.updateColumn [text, client.rowId key, column] (.ok 0),
          .update statements.insertColumn [text, client.rowId key, column] (.ok 0)]
        (some ((StorageError.of (.columnNotSaved column)).forRow key))

/-- What comes of saving columns of a row, one after the other up to the first that is not saved. -/
inductive SavesColumns (client : RelationalClient) (statements : Statements) (key : RowKey) :
    List (String × Option String) → List Seen → Option StorageError → Prop
  | nil : SavesColumns client statements key [] [] none
  | cons {saved : String × Option String} {texts : List (String × Option String)} {calls later : List Seen}
      {e : Option StorageError}
      (h : SavesColumn client statements key saved calls none) (hrest : SavesColumns client statements key texts later e) :
      SavesColumns client statements key (saved :: texts) (calls ++ later) e
  | failed {saved : String × Option String} {texts : List (String × Option String)} {calls : List Seen} {e : StorageError}
      (h : SavesColumn client statements key saved calls (some e)) :
      SavesColumns client statements key (saved :: texts) calls (some e)

variable {statements : Statements} {key : RowKey}

/-- An update for an operation on a row is a call. -/
theorem update_since (operation : String) (handle : Nat) (params : List String) :
    (client.perform operation key (SqlConnection.update handle params : Call κ Nat)).Ensures (Since origin done phase)
      fun result session => ∃ answer, result = answer.mapError (refusal operation key) ∧
        Since origin (done ++ [.update handle params answer]) phase session :=
  perform_since operation key fun _ _ _ h => h

omit [SqlConnection κ] in
/-- Logging cannot fail. -/
theorem log_quiet {logger : Logger} {severity : Severity} {event : Event} {fields : List (String × String)} {P : Session κ → Prop} :
    Action.Ensures (log logger severity event fields : Action (Session κ) StorageError Unit) P fun result session =>
      errorOf? result = none ∧ P session :=
  .log fun _ h => ⟨rfl, h⟩

/-- A column is saved by one statement or two, or not at all. -/
theorem saveColumn_saves (saved : String × Option String) :
    (client.saveColumn statements key saved).Ensures (Since origin done phase)
      (Adds (client.SavesColumn statements key saved) origin done phase) := by
  obtain ⟨column, text⟩ := saved
  cases text with
  | none => exact perform_adds "insert" key (fun _ => .removal) (fun _ _ _ h => h) fun _ _ => log_quiet
  | some text =>
    refine .bind (update_since "insert" statements.updateColumn _) ?_ fun updated => ?_
    · rintro e session ⟨answer, hresult, hsince⟩
      obtain ⟨cause, rfl, rfl⟩ := mapError_eq_error hresult.symm
      have hfails : (.error cause : Except DriverError Nat) ≠ .ok 0 := nofun
      exact ⟨_, .overwriting hfails, hsince⟩
    · refine .of_exists fun answer => .of_and fun hresult => ?_
      obtain rfl := mapError_eq_ok hresult.symm
      by_cases hcount : 0 < updated
      · rw [if_pos hcount]
        have hsome : (.ok updated : Except DriverError Nat) ≠ .ok 0 := fun h => (Nat.ne_of_gt hcount) (Except.ok.inj h)
        exact .log fun _ hsince => ⟨_, .overwriting hsome, hsince⟩
      · obtain rfl := Nat.eq_zero_of_not_pos hcount
        rw [if_neg hcount]
        refine .bind (update_since "insert" statements.insertColumn _) ?_ fun inserted => ?_
        · rintro e session ⟨answer, hresult, hsince⟩
          obtain ⟨cause, rfl, rfl⟩ := mapError_eq_error hresult.symm
          have hfails : (.error cause : Except DriverError Nat) ≠ .ok 0 := nofun
          rw [List.append_assoc] at hsince
          exact ⟨_, .insertion hfails, hsince⟩
        · refine .of_exists fun answer => .of_and fun hresult => ?_
          obtain rfl := mapError_eq_ok hresult.symm
          rw [List.append_assoc]
          by_cases hnone : inserted = 0
          · subst hnone
            rw [if_pos rfl]
            refine .bind (R := Adds (client.SavesColumn statements key (column, some text)) origin done phase) ?_ (fun _ _ h => h)
              fun _ => .log fun _ h => h
            exact .throw fun _ hsince => ⟨_, .idle, hsince⟩
          · rw [if_neg hnone]
            exact .log fun _ hsince => ⟨_, .insertion fun h => hnone (Except.ok.inj h), hsince⟩

/-- Columns are saved one after the other, up to the first that is not. -/
theorem saveColumns_save (texts : List (String × Option String)) :
    Action.Ensures (texts.forM (client.saveColumn statements key)) (Since origin done phase)
      (Adds (client.SavesColumns statements key texts) origin done phase) := by
  induction texts generalizing done with
  | nil => exact .pure fun _ h => ⟨[], .nil, by rwa [List.append_nil]⟩
  | cons saved texts ih =>
    refine .bind (saveColumn_saves saved) (fun e session ⟨calls, hsaves, hsince⟩ => ⟨calls, .failed hsaves, hsince⟩) fun _ => ?_
    refine .of_exists fun calls => .of_and fun hsaves => ?_
    refine ih.weaken (fun _ h => h) fun result session ⟨later, hrest, hsince⟩ => ?_
    exact ⟨calls ++ later, .cons hsaves hrest, by rwa [← List.append_assoc]⟩

/-! ## Operations on rows -/

/-- What comes of using the statements of an active client for an operation on rows. -/
inductive Uses (client : RelationalClient) (statements : Statements) : ClientOp → List Seen → Option StorageError → Prop
  /-- Nothing more is to be done. -/
  | activate : Uses client statements .activate [] none
  | get {key : RowKey} {answer : Except DriverError (List (String × String))} :
      Uses client statements (.get key) [.query statements.selectRow [client.rowId key] answer]
        ((errorOf? answer).map (refusal "get" key))
  | insert {key : RowKey} {changes : Changes} {texts : List (String × Option String)} {calls : List Seen} {e : Option StorageError}
      (htexts : changes.toList.mapM textOf = .ok texts) (h : client.SavesColumns statements key texts calls e) :
      Uses client statements (.insert key changes) calls e
  | remove {key : RowKey} {answer : Except DriverError Nat} :
      Uses client statements (.remove key) [.update statements.deleteRow [client.rowId key] answer]
        ((errorOf? answer).map (refusal "remove" key))

/-- What comes of an operation that needs statements: the calls, the error if it fails, and the phase that the client comes
to. -/
inductive Comes (client : RelationalClient) (op : ClientOp) (start : Phase) : List Seen → Option StorageError → Phase → Prop
  /-- It puts bytes, and is refused before anything is asked for. -/
  | refused {e : StorageError} (hbytes : op.PutsBytes) (hcode : e.code = .invalidValue) (hcause : e.cause = none) :
      Comes client op start [] (some e) start
  /-- The client does not start up. -/
  | unstarted {calls : List Seen} {e : StorageError} {phase : Phase} (hbytes : ¬op.PutsBytes)
      (h : client.StartsUp start calls (.error e) phase) : Comes client op start calls (some e) phase
  /-- The client is active and uses its statements. -/
  | started {calls work : List Seen} {statements : Statements} {e : Option StorageError} {phase : Phase} (hbytes : ¬op.PutsBytes)
      (h : client.StartsUp start calls (.ok statements) phase) (hwork : client.Uses statements op work e) :
      Comes client op start (calls ++ work) e phase

/-- What is done with the statements comes behind starting up. -/
theorem startUp_bind_comes {α : Type} {f : Statements → Action (Session κ) StorageError α} {op : ClientOp} (hbytes : ¬op.PutsBytes)
    (h : ∀ statements calls phase, (f statements).Ensures (Since origin calls phase)
      (Adds (client.Uses statements op) origin calls phase)) :
    (client.startUp >>= f).Ensures (Since origin [] start) fun result =>
      Outcome (client.Comes op start) origin (errorOf? result) := by
  refine .bind (startUp_startsUp client origin start) ?_ fun statements => ?_
  · rintro e session ⟨calls, phase, hstarts, hsince⟩
    exact ⟨calls, phase, .unstarted hbytes hstarts, hsince⟩
  · refine .of_exists fun calls => .of_exists fun phase => .of_and fun hstarts => ?_
    refine (h statements calls phase).weaken (fun _ h => h) fun result session ⟨work, hwork, hsince⟩ => ?_
    exact ⟨calls ++ work, phase, .started hbytes hstarts hwork, hsince⟩

/-- Making a client ready takes no more than starting it up. -/
theorem activate_comes :
    client.activate.Ensures (Since origin [] start) fun result => Outcome (client.Comes .activate start) origin (errorOf? result) :=
  startUp_bind_comes id fun _ _ _ => .pure fun _ h => ⟨[], .activate, by rwa [List.append_nil]⟩

/-- A row is what one query gives. -/
theorem get_comes (key : RowKey) :
    (client.get key).Ensures (Since origin [] start) fun result =>
      Outcome (client.Comes (.get key) start) origin (errorOf? result) :=
  startUp_bind_comes id fun _ _ _ => perform_adds "get" key (fun _ => .get) (fun _ _ _ h => h) fun _ _ => .pure fun _ h => ⟨rfl, h⟩

/-- A row is removed by one update. -/
theorem remove_comes (key : RowKey) :
    (client.remove key).Ensures (Since origin [] start) fun result =>
      Outcome (client.Comes (.remove key) start) origin (errorOf? result) :=
  startUp_bind_comes id fun _ _ _ => perform_adds "remove" key (fun _ => .remove) (fun _ _ _ h => h) fun _ _ => log_quiet

/-- What is inserted are texts, and each column is saved by itself. -/
theorem insert_comes (key : RowKey) (changes : Changes) :
    (client.insert key changes).Ensures (Since origin [] start) fun result =>
      Outcome (client.Comes (.insert key changes) start) origin (errorOf? result) := by
  unfold insert
  by_cases htakes : changes.PutsOnly Value.Textual
  · obtain ⟨texts, htexts, -⟩ := mapM_textOf fun column v hmem => htakes column v (Changes.mem_toList_iff.mp hmem)
    rw [htexts]
    refine .bind_ofExcept (fun e he => nomatch he) fun texts' heq => ?_
    obtain rfl : texts = texts' := Except.ok.inj heq
    refine startUp_bind_comes (not_not_intro htakes) fun statements calls phase => ?_
    refine (saveColumns_save texts).weaken (fun _ h => h) fun result session ⟨work, hsaves, hsince⟩ => ?_
    exact ⟨work, .insert htexts hsaves, hsince⟩
  · obtain ⟨column, v, earlier, later, hlist, hbinary, hearlier⟩ := exists_first_binary htakes
    rw [hlist, mapM_textOf_of_binary hearlier hbinary]
    refine .bind_ofExcept (fun e he session hsince => ?_) fun texts htexts => nomatch htexts
    cases he
    exact ⟨[], start, .refused htakes rfl rfl, hsince⟩

/-! ## Resting, closing, validating -/

/-- What comes of letting a client rest: an active one has its statements released, whatever is answered. -/
inductive Passivates (start : Phase) : List Seen → Phase → Prop
  | active {statements : Statements} {answer : Except DriverError Unit} (h : start = .active statements) :
      Passivates start [.release answer] .passive
  | idle (h : ∀ statements, start ≠ .active statements) : Passivates start [] start

/-- What comes of closing a client, which it takes part in once. -/
inductive Closes (start : Phase) : List Seen → Phase → Prop
  | closed (h : start = .closed) : Closes start [] .closed
  | closing {calls : List Seen} {phase : Phase} {answer : Except DriverError Unit} (h : start ≠ .closed)
      (hcalls : Passivates start calls phase) : Closes start (calls ++ [.close answer]) .closed

/-- What comes of asking whether a connection works. -/
inductive Validates (client : RelationalClient) (start : Phase) : List Seen → Bool → Phase → Prop
  | closed (h : start = .closed) : Validates client start [] false start
  | missing {e : StorageError} (h : start ≠ .closed) (hsql : client.dialect.sql .validate = .error e) :
      Validates client start [] false start
  | asked {sql : String} {answer : Except DriverError Bool} (h : start ≠ .closed) (hsql : client.dialect.sql .validate = .ok sql) :
      Validates client start [.execute sql answer] (errorOf? answer).isNone start

/-- Asking whether the connection works does not change the phase. -/
theorem Validates.phase_eq {valid : Bool} (h : client.Validates start calls valid phase) : phase = start := by
  cases h with
  | closed _ | missing _ _ | asked _ _ => rfl

/-- A client that is let rest has nothing prepared, and if it had nothing it does nothing. -/
theorem passivate_passivates (client : RelationalClient) (origin : Session κ) (start : Phase) :
    (client.passivate : Step (Session κ) Unit).Ensures (Since origin [] start) fun _ session =>
      ∃ calls phase, Passivates start calls phase ∧ Since origin calls phase session := by
  unfold passivate
  refine .bind_currentState fun session hsince => ?_
  cases hphase : session.phase with
  | active statements =>
    have hactive : start = .active statements := hsince.phase.symm.trans hphase
    refine .bind (release_since.weaken (fun _ h => h ▸ hsince) fun _ _ h => h) fun _ => .of_exists fun answer => ?_
    exact .bind (enter_since .passive) fun _ => .weaken .log (fun _ h => h) fun _ session h => ⟨_, _, .active hactive, h⟩
  | created | schemaChecked | passive | closed =>
    have hidle : ∀ statements, start ≠ .active statements := by
      rintro statements rfl
      exact nomatch hphase.symm.trans hsince.phase
    exact .pure fun _ h => ⟨[], start, .idle hidle, h ▸ hsince⟩

/-- A client that is closed is let rest before. -/
theorem close_closes (client : RelationalClient) (origin : Session κ) (start : Phase) :
    (client.close : Step (Session κ) Unit).Ensures (Since origin [] start) fun _ session =>
      ∃ calls phase, Closes start calls phase ∧ Since origin calls phase session := by
  unfold close
  refine .bind_currentState fun session hsince => ?_
  rw [hsince.phase]
  by_cases hclosed : start = .closed
  · rw [if_neg (not_not_intro hclosed)]
    exact .pure fun _ h => ⟨[], .closed, .closed hclosed, h ▸ hclosed ▸ hsince⟩
  · rw [if_pos hclosed]
    refine .bind ((passivate_passivates client origin start).weaken (fun _ h => h ▸ hsince) fun _ _ h => h) fun _ => ?_
    refine .of_exists fun calls => .of_exists fun phase => .of_and fun hcalls => ?_
    have hclose : (call SqlConnection.close >>= client.noteCleanup "connection" : Step (Session κ) Unit).Ensures
        (Since origin calls phase) fun _ session => ∃ answer, Since origin (calls ++ [.close answer]) phase session :=
      cleanUp_since "connection" fun _ _ _ h => h
    rw [← bind_assoc]
    refine .bind hclose fun _ => .of_exists fun answer => .bind (enter_since .closed) fun _ => ?_
    exact .weaken .log (fun _ h => h) fun _ session h => ⟨_, _, .closing hclosed hcalls, h⟩

/-- The connection works if the statement of the dialect is executed. -/
theorem validate_validates (client : RelationalClient) (origin : Session κ) (start : Phase) :
    (client.validate : Step (Session κ) Bool).Ensures (Since origin [] start) (Outcome (client.Validates start) origin) := by
  unfold validate
  refine .bind_currentState fun session hsince => ?_
  rw [hsince.phase]
  by_cases hclosed : start = .closed
  · rw [if_pos hclosed]
    exact .pure fun _ h => ⟨[], start, .closed hclosed, h ▸ hsince⟩
  · rw [if_neg hclosed]
    cases hsql : client.dialect.sql .validate with
    | error e => exact .bind .log fun _ => .pure fun _ h => ⟨[], start, .missing hclosed hsql, h ▸ hsince⟩
    | ok sql =>
      refine .bind ((execute_since sql).weaken (fun _ h => h ▸ hsince) fun _ _ h => h) fun answer => ?_
      have hasked : ∀ session, Since origin ([] ++ [.execute sql answer]) start session →
          Outcome (client.Validates start) origin (errorOf? answer).isNone session := fun _ h => ⟨_, start, .asked hclosed hsql, h⟩
      cases answer with
      | ok _ => exact .pure hasked
      | error e => exact .bind .log fun _ => .pure hasked

/-! ## All operations -/

/-- What comes of an operation: the calls, the failure if it fails, and the phase that the client comes to. -/
inductive Turn (client : RelationalClient) (start : Phase) : ClientOp → List Seen → Option ClientFailure → Phase → Prop
  | checkSchema {calls : List Seen} {result : Except PoolError Unit} {phase : Phase} (h : client.Checks start calls result phase) :
      Turn client start .checkSchema calls ((errorOf? result).map .pool) phase
  | onRows {op : ClientOp} {calls : List Seen} {e : Option StorageError} {phase : Phase} (hop : op.IsOnRows)
      (h : client.Comes op start calls e phase) : Turn client start op calls (e.map .storage) phase
  | passivate {calls : List Seen} {phase : Phase} (h : Passivates start calls phase) : Turn client start .passivate calls none phase
  | validate {calls : List Seen} {valid : Bool} {phase : Phase} (h : client.Validates start calls valid phase) :
      Turn client start .validate calls none phase
  | close {calls : List Seen} {phase : Phase} (h : Closes start calls phase) : Turn client start .close calls none phase

/-- An operation on rows comes to what `Comes` tells. -/
theorem Turn.comes {op : ClientOp} {failure : Option ClientFailure} (h : client.Turn start op calls failure phase)
    (hop : op.IsOnRows) :
    ∃ e, failure = e.map .storage ∧ client.Comes op start calls e phase := by
  cases h with
  | onRows _ h => exact ⟨_, rfl, h⟩
  | checkSchema _ | passivate _ | validate _ | close _ => exact hop.elim

/-- What comes of an operation on rows is what comes of the action that is run for it. -/
theorem turn_of_comes {α : Type} {action : Action (Session κ) StorageError α} {op : ClientOp} (hop : op.IsOnRows)
    (h : action.Ensures (Since origin [] start) fun result => Outcome (client.Comes op start) origin (errorOf? result)) :
    ((errorOf? · |>.map .storage) <$> action.attempt).Ensures (Since origin [] start) (Outcome (client.Turn start op) origin) :=
  .map (h.attempt.weaken (fun _ hsince => hsince) fun _ _ ⟨calls, phase, hcomes, hsince⟩ =>
    ⟨calls, phase, .onRows hop hcomes, hsince⟩)

/-- Whatever the connection answers, an operation comes to an end, in one of these ways. -/
theorem run_turn (client : RelationalClient) (op : ClientOp) (origin : Session κ) (start : Phase) :
    (op.run client).Ensures (Since origin [] start) (Outcome (client.Turn start op) origin) := by
  cases op with
  | activate => exact turn_of_comes trivial activate_comes
  | get key => exact turn_of_comes trivial (get_comes key)
  | insert key changes => exact turn_of_comes trivial (insert_comes key changes)
  | remove key => exact turn_of_comes trivial (remove_comes key)
  | checkSchema =>
    refine .map ((checkSchema_checks client origin start).attempt.weaken (fun _ h => h) ?_)
    exact fun _ _ ⟨calls, phase, h, hsince⟩ => ⟨calls, phase, .checkSchema h, hsince⟩
  | passivate =>
    refine .map ((passivate_passivates client origin start).weaken (fun _ h => h) ?_)
    exact fun _ _ ⟨calls, phase, h, hsince⟩ => ⟨calls, phase, .passivate h, hsince⟩
  | validate =>
    refine .map ((validate_validates client origin start).weaken (fun _ h => h) ?_)
    exact fun _ _ ⟨calls, phase, h, hsince⟩ => ⟨calls, phase, .validate h, hsince⟩
  | close =>
    refine .map ((close_closes client origin start).weaken (fun _ h => h) ?_)
    exact fun _ _ ⟨calls, phase, h, hsince⟩ => ⟨calls, phase, .close h, hsince⟩

end RelationalClient

end SparseRows
