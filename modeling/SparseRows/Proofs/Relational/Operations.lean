import SparseRows.Proofs.Relational.Outcomes

/-!
# What operations do

Whatever its connection answers, a failure of a call that an operation of a relational client makes is the cause of the
error, but for failures to clean up (`Comes.surfaces`), and the calls are those of a course (`Turn.course`). Both are read
off what comes of operations, part by part.
-/

namespace SparseRows

/-! ## Failures -/

/-- What comes of running prepared statements: each call goes by a handle, and none follows one that fails. -/
inductive RunsOut : List Seen → Option StorageError → Prop
  | done {calls : List Seen} (h : ∀ call ∈ calls, call.handle? ≠ none ∧ call.failure? = none) : RunsOut calls none
  /-- The last call has failed, which is the cause of the error. -/
  | failed {calls : List Seen} {call : Seen} {e : DriverError} {error : StorageError}
      (h : ∀ call ∈ calls, call.handle? ≠ none ∧ call.failure? = none) (hcall : call.handle? ≠ none)
      (hfailure : call.failure? = some e)
      (hcode : error.code = .driver) (hcause : error.cause = some (.driver e)) : RunsOut (calls ++ [call]) (some error)
  /-- No call has failed, but one that was to insert has inserted nothing. -/
  | idle {calls : List Seen} {error : StorageError} (h : ∀ call ∈ calls, call.handle? ≠ none ∧ call.failure? = none)
      (hcode : error.code = .driver) (hcause : error.cause = none) : RunsOut calls (some error)

namespace RunsOut

variable {calls later : List Seen} {e : Option StorageError}

/-- What follows calls of which none has failed comes behind them. -/
theorem append (h : RunsOut calls none) (h' : RunsOut later e) : RunsOut (calls ++ later) e := by
  cases h with
  | done h =>
    cases h' with
    | done h' => exact .done (List.forall_mem_append.mpr ⟨h, h'⟩)
    | failed h' hcall hfailure hcode hcause =>
      rw [← List.append_assoc]
      exact .failed (List.forall_mem_append.mpr ⟨h, h'⟩) hcall hfailure hcode hcause
    | idle h' hcode hcause => exact .idle (List.forall_mem_append.mpr ⟨h, h'⟩) hcode hcause

/-- All calls that run statements go by handles. -/
theorem handle? (h : RunsOut calls e) : ∀ call ∈ calls, call.handle? ≠ none := by
  cases h with
  | done h | idle h _ _ => exact fun call hmem => (h call hmem).1
  | failed h hcall _ _ _ => exact List.forall_mem_append.mpr ⟨fun call hmem => (h call hmem).1, List.forall_mem_singleton.mpr hcall⟩

end RunsOut

/-- A call by a handle runs a statement, and its failure is the cause of the error. -/
theorem runsOut_singleton {call : Seen} {operation : String} {key : RowKey} (hcall : call.handle? ≠ none) :
    RunsOut [call] (call.failure?.map (RelationalClient.refusal operation key)) := by
  cases hfailure : call.failure? with
  | none => exact .done (List.forall_mem_singleton.mpr ⟨hcall, hfailure⟩)
  | some e => exact .failed (List.forall_mem_nil _) hcall hfailure rfl rfl

/-- The calls of an operation that has ended so. None of them fails before clean-up but for the last one, and this is the
cause of the error. -/
inductive Surfaces : List Seen → Option StorageError → Prop
  | fine {calls : List Seen} (h : ∀ call ∈ calls, call.failure? = none) : Surfaces calls none
  | unasked {calls cleanUp : List Seen} {error : StorageError} (h : ∀ call ∈ calls, call.failure? = none)
      (hcause : error.cause = none)
      (hcleanUp : ∀ call ∈ cleanUp, ∃ answer, call = .release answer) : Surfaces (calls ++ cleanUp) (some error)
  | failed {calls cleanUp : List Seen} {call : Seen} {e : DriverError} {error : StorageError}
      (h : ∀ call ∈ calls, call.failure? = none)
      (hfailure : call.failure? = some e) (hcode : error.code = .driver) (hcause : error.cause = some (.driver e))
      (hcleanUp : ∀ call ∈ cleanUp, ∃ answer, call = .release answer) : Surfaces (calls ++ call :: cleanUp) (some error)

/-- An operation may fail without asking for anything. -/
theorem surfaces_nil {error : StorageError} (hcause : error.cause = none) : Surfaces [] (some error) :=
  .unasked (List.forall_mem_nil _) hcause (List.forall_mem_nil _)

/-- The failures of statements that are run surface behind calls that do not fail. -/
theorem RunsOut.surfaces {earlier calls : List Seen} {e : Option StorageError} (h : RunsOut calls e)
    (hearlier : ∀ call ∈ earlier, call.failure? = none) : Surfaces (earlier ++ calls) e := by
  cases h with
  | done h => exact .fine (List.forall_mem_append.mpr ⟨hearlier, fun call hmem => (h call hmem).2⟩)
  | failed h _ hfailure hcode hcause =>
    rw [← List.append_assoc]
    exact .failed (List.forall_mem_append.mpr ⟨hearlier, fun call hmem => (h call hmem).2⟩) hfailure hcode hcause
      (List.forall_mem_nil _)
  | idle h _ hcause =>
    rw [← List.append_nil (earlier ++ calls)]
    exact .unasked (List.forall_mem_append.mpr ⟨hearlier, fun call hmem => (h call hmem).2⟩) hcause (List.forall_mem_nil _)

/-- If a failure of the connection is the cause of an error, it is the answer to one of these calls. -/
def Blamed (cause : Option Cause) (calls : List Seen) : Prop :=
  ∀ e, cause = some (.driver e) → ∃ call ∈ calls, call.failure? = some e

/-- An error that surfaces is blamed on one of the calls. -/
theorem Surfaces.blamed {calls : List Seen} {error : StorageError} (h : Surfaces calls (some error)) :
    Blamed error.cause calls := by
  intro e he
  cases h with
  | unasked _ hcause _ => exact nomatch hcause.symm.trans he
  | @failed _ _ call e' _ _ hfailure _ hcause _ =>
    obtain rfl : e' = e := by simpa using hcause.symm.trans he
    exact ⟨call, List.mem_append_right _ List.mem_cons_self, hfailure⟩

/-- Calls that prepare statements do not fail. -/
theorem Dialect.Prepares.failure? {dialect : Dialect} {templates : List Template} {handles : List Nat} {calls : List Seen}
    (h : dialect.Prepares templates handles calls) : ∀ call ∈ calls, call.failure? = none := by
  induction h with
  | nil => exact List.forall_mem_nil _
  | snoc _ _ ih => exact List.forall_mem_append.mpr ⟨ih, List.forall_mem_singleton.mpr rfl⟩

/-- A statement that a dialect lacks is no failure of the connection. -/
theorem Dialect.cause_of_sql_error {dialect : Dialect} {template : Template} {e : StorageError}
    (h : dialect.sql template = .error e) :
    e.cause = none := by
  unfold Dialect.sql Dialect.statement at h
  split at h
  · cases h
  · cases h
    rfl

/-- The failure to prepare a statement surfaces, whatever comes of releasing those before. -/
theorem Dialect.Lacks.surfaces {dialect : Dialect} {calls : List Seen} {e : StorageError} (h : dialect.Lacks calls e)
    (answer : Except DriverError Unit) : Surfaces (calls ++ [.release answer]) (some e) := by
  have hcleanUp : ∀ call ∈ [Seen.release answer], ∃ answer, call = .release answer := List.forall_mem_singleton.mpr ⟨answer, rfl⟩
  cases h with
  | missing hprepares _ hsql => exact .unasked hprepares.failure? (Dialect.cause_of_sql_error hsql) hcleanUp
  | refused hprepares _ _ =>
    rw [List.append_assoc]
    exact .failed hprepares.failure? rfl rfl rfl hcleanUp

namespace RelationalClient

open ClientOp

variable {client : RelationalClient} {op : ClientOp} {start phase : Phase} {done calls : List Seen} {statements : Statements}
  {key : RowKey}
  {saved : String × Option String} {texts : List (String × Option String)} {changes : Changes} {e : Option StorageError}

/-- Saving a column runs statements. -/
theorem SavesColumn.runsOut (h : client.SavesColumn statements key saved calls e) : RunsOut calls e := by
  have hfine : ∀ handle params, RunsOut [.update handle params (.ok 0)] none := fun handle params =>
    .done (List.forall_mem_singleton.mpr ⟨Option.some_ne_none _, rfl⟩)
  cases h with
  | removal | overwriting _ => exact runsOut_singleton (Option.some_ne_none _)
  | insertion _ => exact (hfine _ _).append (runsOut_singleton (Option.some_ne_none _))
  | idle => exact (hfine _ _).append (.idle (List.forall_mem_singleton.mpr ⟨Option.some_ne_none _, rfl⟩) rfl rfl)

/-- So does saving columns. -/
theorem SavesColumns.runsOut (h : client.SavesColumns statements key texts calls e) : RunsOut calls e := by
  induction h with
  | nil => exact .done (List.forall_mem_nil _)
  | cons h _ ih => exact h.runsOut.append ih
  | failed h => exact h.runsOut

/-- What an operation on rows does with the statements is to run them. -/
theorem Uses.runsOut (h : client.Uses statements op calls e) : RunsOut calls e := by
  cases h with
  | activate => exact .done (List.forall_mem_nil _)
  | get | remove => exact runsOut_singleton (Option.some_ne_none _)
  | insert _ h => exact h.runsOut

/-- A client that has statements has made no call that fails. -/
theorem StartsUp.failure? (h : client.StartsUp start calls (.ok statements) phase) : ∀ call ∈ calls, call.failure? = none := by
  cases h with
  | active => exact List.forall_mem_nil _
  | prepared _ hcalls => exact hcalls.failure?

/-- Where a client does not start up, the failure surfaces. -/
theorem StartsUp.surfaces {error : StorageError} (h : client.StartsUp start calls (.error error) phase) :
    Surfaces calls (some error) := by
  cases h with
  | unready _ _ hcause => exact surfaces_nil hcause
  | brokenOff _ hcalls => exact hcalls.surfaces _

/-- The failures of an operation on rows surface. -/
theorem Comes.surfaces (h : client.Comes op start calls e phase) : Surfaces calls e := by
  cases h with
  | refused _ _ hcause => exact surfaces_nil hcause
  | unstarted _ h => exact h.surfaces
  | started _ h hwork => exact hwork.runsOut.surfaces h.failure?

/-- A check of the schema that fails tells why the schema was not found. -/
theorem Checks.blamed {error : PoolError} (h : client.Checks start calls (.error error) phase) : Blamed error.cause calls := by
  intro e he
  cases h with
  | closed _ => cases he
  | lacking _ hasks _ _ =>
    cases hasks with
    | unasked _ => cases he
    | @asked sql answer _ =>
      cases answer with
      | ok _ => cases he
      | error e' =>
        cases he
        exact ⟨_, List.mem_singleton_self _, rfl⟩

/-- A failure of the connection that an operation reports is the answer to one of its calls. -/
theorem Turn.blamed {failure : ClientFailure} (h : client.Turn start op calls (some failure) phase) :
    Blamed failure.cause calls := by
  generalize hfailure : some failure = result at h
  cases h with
  | @checkSchema _ result _ h =>
    cases result with
    | ok _ => cases hfailure
    | error e =>
      cases hfailure
      exact h.blamed
  | @onRows _ _ e _ _ h =>
    cases e with
    | none => cases hfailure
    | some e =>
      cases hfailure
      exact h.surfaces.blamed
  | passivate _ | validate _ | close _ => cases hfailure

/-! ## Courses -/

/-- To start up, a client runs no statement by a handle. -/
theorem StartsUp.handle? (h : client.StartsUp start calls (.ok statements) phase) : ∀ call ∈ calls, call.handle? = none := by
  cases h with
  | active _ => exact List.forall_mem_nil _
  | prepared _ hcalls => exact fun call hmem => Seen.handle?_of_isPrepare (hcalls.isPrepare call hmem)

/-- A client starts up in one move, or in none. -/
theorem StartsUp.course {result : Except StorageError Statements} (h : client.StartsUp start calls result phase) :
    Course client op start calls phase := by
  cases h with
  | active _ | unready _ _ _ => exact .start
  | prepared hrest hcalls => exact .once (.startUp hrest hcalls)
  | brokenOff hrest hcalls => exact .once (.breakOff hrest ⟨_, hcalls⟩)

/-- No text has been saved yet for some columns of a row. -/
def Unsaved (client : RelationalClient) (key : RowKey) (texts : List (String × Option String)) (calls : List Seen) : Prop :=
  ∀ column text, (column, some text) ∈ texts → ∀ handle reached, .update handle [text, client.rowId key, column] reached ∉ calls

/-- Calls that save a text for a column save none for another one. -/
theorem SavesColumn.column_eq (h : client.SavesColumn statements key saved calls e) {column text : String} {handle : Nat}
    {reached : Except DriverError Nat} (hmem : .update handle [text, client.rowId key, column] reached ∈ calls) :
    column = saved.1 := by
  cases h with
  | removal | overwriting _ | insertion _ | idle =>
    simp only [List.mem_cons, Seen.update.injEq, List.cons.injEq, List.not_mem_nil] at hmem
    grind

/-- Once one column is saved, the others are still unsaved. -/
theorem Unsaved.tail (h : client.Unsaved key (saved :: texts) done) (hcolumn : saved.1 ∉ texts.map (·.1))
    (hsaves : client.SavesColumn statements key saved calls e) : client.Unsaved key texts (done ++ calls) := by
  intro column text hmem handle reached hin
  rcases List.mem_append.mp hin with hin | hin
  · exact h column text (List.mem_cons_of_mem _ hmem) handle reached hin
  · obtain rfl := hsaves.column_eq hin
    exact hcolumn (List.mem_map.mpr ⟨_, hmem, rfl⟩)

/-- Saving a column is one move for each statement that is run. -/
theorem SavesColumn.course (h : client.SavesColumn statements key saved calls e) (htexts : TextsFor changes (saved :: texts))
    (hunsaved : client.Unsaved key (saved :: texts) done)
    (hcourse : Course client (.insert key changes) start done (.active statements)) :
    Course client (.insert key changes) start (done ++ calls) (.active statements) := by
  cases h with
  | removal => exact hcourse.move (.ask (.remove (htexts.remove _ List.mem_cons_self)) rfl rfl)
  | @overwriting column text _ _ =>
    obtain ⟨v, hget, htext⟩ := htexts.put column text List.mem_cons_self
    exact hcourse.move (.ask (.update hget htext (hunsaved column text List.mem_cons_self)) rfl rfl)
  | @insertion column text _ _ | @idle column text =>
    obtain ⟨v, hget, htext⟩ := htexts.put column text List.mem_cons_self
    -- Behind the first statement the calls end with it, which is what the second one is needed for.
    have hmissed : Course client (.insert key changes) start
        (done ++ [.update statements.updateColumn [text, client.rowId key, column] (.ok 0)]) (.active statements) :=
      hcourse.move (.ask (.update hget htext (hunsaved column text List.mem_cons_self)) rfl rfl)
    rw [List.append_cons]
    exact hmissed.move (.ask (.insert hget htext List.getLast?_concat) rfl rfl)

/-- So it is with columns one after the other. -/
theorem SavesColumns.course (h : client.SavesColumns statements key texts calls e) (htexts : TextsFor changes texts)
    (hunsaved : client.Unsaved key texts done) (hcourse : Course client (.insert key changes) start done (.active statements)) :
    Course client (.insert key changes) start (done ++ calls) (.active statements) := by
  induction h generalizing done with
  | nil => rwa [List.append_nil]
  | cons h _ ih =>
    rw [← List.append_assoc]
    exact ih htexts.tail (hunsaved.tail (List.nodup_cons.mp htexts.nodup).1 h) (h.course htexts hunsaved hcourse)
  | failed h => exact h.course htexts hunsaved hcourse

/-- What an active client does for an operation on rows is a course, if it has not run a statement for it before. -/
theorem Uses.course (h : client.Uses statements op calls e) (hdone : ∀ call ∈ done, call.handle? = none)
    (hcourse : Course client op start done (.active statements)) : Course client op start (done ++ calls) (.active statements) := by
  cases h with
  | activate => rwa [List.append_nil]
  | get => exact hcourse.move (.ask .select rfl rfl)
  | remove => exact hcourse.move (.ask .delete rfl rfl)
  | insert htexts h =>
    refine h.course (textsFor_of_mapM htexts) ?_ hcourse
    intro column text _ handle reached hmem
    exact nomatch hdone _ hmem

/-- An operation on rows starts the client up and uses its statements. -/
theorem Comes.course (h : client.Comes op start calls e phase) : Course client op start calls phase := by
  cases h with
  | refused _ _ _ => exact .start
  | unstarted _ h => exact h.course
  | started _ h hwork =>
    obtain rfl := h.phase_of_ok
    exact hwork.course h.handle? h.course

/-- Statements that are executed are a course of a client that is not closed. -/
theorem course_of_executes {statements : List String} (h : Executes statements calls) (hopen : phase ≠ .closed)
    (hcourse : Course client op start done phase) : Course client op start (done ++ calls) phase := by
  induction h generalizing done with
  | nil => rwa [List.append_nil]
  | cons _ ih =>
    rw [List.append_cons]
    exact ih (hcourse.move (.execute hopen))

/-- To ask for the schema, a client has one statement executed at most. -/
theorem Asks.executes {question : Option (Except DriverError Bool)} (h : client.Asks calls question) :
    ∃ statements, Executes statements calls := by
  cases h with
  | unasked _ => exact ⟨[], .nil⟩
  | asked _ => exact ⟨_, .cons .nil⟩

/-- To check the schema, it has statements executed. -/
theorem Checks.executes {result : Except PoolError Unit} (h : client.Checks start calls result phase) :
    ∃ statements, Executes statements calls := by
  cases h with
  | closed _ => exact ⟨[], .nil⟩
  | found _ hasks | lacking _ hasks _ _ => exact hasks.executes
  | setUp _ hasks _ _ hcalls =>
    obtain ⟨asked, hasked⟩ := hasks.executes
    exact ⟨_, hasked.append hcalls⟩

/-- A check of the schema is a course in one phase, and if it succeeds the schema is found. -/
theorem Checks.course {result : Except PoolError Unit} (h : client.Checks start calls result phase) :
    Course client .checkSchema start calls start ∧ phase = ClientOp.finish .checkSchema ((errorOf? result).map .pool) start := by
  obtain ⟨statements, hexecutes⟩ := h.executes
  have hcourse : start ≠ .closed → Course client .checkSchema start ([] ++ calls) start := fun hopen =>
    course_of_executes hexecutes hopen .start
  cases h with
  | closed _ => exact ⟨.start, rfl⟩
  | found hopen _ | setUp hopen _ _ _ _ | lacking hopen _ _ _ => exact ⟨hcourse hopen, rfl⟩

/-- A client that is let rest is not active then. -/
theorem Passivates.ne_active (h : Passivates start calls phase) : ∀ statements, phase ≠ .active statements := by
  cases h with
  | active _ => exact fun _ => nofun
  | idle h => exact h

/-- Nor is it closed, if it was not. -/
theorem Passivates.ne_closed (h : Passivates start calls phase) (hopen : start ≠ .closed) : phase ≠ .closed := by
  cases h with
  | active _ => exact nofun
  | idle _ => exact hopen

/-- Coming to rest is one move of an active client. -/
theorem Passivates.course (h : Passivates start calls phase) : Course client op start calls phase := by
  cases h with
  | active h =>
    subst h
    exact .once .release
  | idle _ => exact .start

/-- Closing is one more move. -/
theorem Closes.course (h : Closes start calls phase) : Course client op start calls phase := by
  cases h with
  | closed h => exact h ▸ .start
  | closing hopen hcalls => exact hcalls.course.move (.close (hcalls.ne_closed hopen) hcalls.ne_active)

/-- Asking whether the connection works is a move, if anything is asked. -/
theorem Validates.course {valid : Bool} (h : client.Validates start calls valid phase) : Course client op start calls phase := by
  cases h with
  | closed _ | missing _ _ => exact .start
  | asked hopen _ => exact .once (.execute hopen)

/-- The calls of an operation are those of a course. -/
theorem Turn.course {failure : Option ClientFailure} (h : client.Turn start op calls failure phase) :
    ∃ last, Course client op start calls last ∧ phase = op.finish failure last := by
  cases h with
  | checkSchema h => exact ⟨start, h.course⟩
  | onRows hop h =>
    refine ⟨phase, h.course, ?_⟩
    cases op with
    | activate | get _ | insert _ _ | remove _ => rfl
    | checkSchema | passivate | validate | close => exact hop.elim
  | passivate h => exact ⟨phase, h.course, rfl⟩
  | validate h => exact ⟨phase, h.course, rfl⟩
  | close h => exact ⟨phase, h.course, rfl⟩

end RelationalClient

end SparseRows
