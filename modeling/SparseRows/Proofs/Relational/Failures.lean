import SparseRows.Proofs.Relational.Hushed
import SparseRows.Proofs.Relational.Operations
import SparseRows.Proofs.Relational.TripleDriver
import SparseRows.Sql.Recorded

/-!
# Failures of the connection

A call that fails ends the operation that it is made for: nothing but clean-up comes behind it, and its failure is the cause
of the error (`Surfaces.split`). Failures to clean up do not surface, and make no difference to a client. So what is told of
a failure is the failure itself, and a client that could not start up may try again (`failures_surface`).
-/

namespace SparseRows

/-- An operation that does not fail has made no call that fails. -/
theorem Surfaces.failure? {calls : List Seen} (h : Surfaces calls none) : ∀ call ∈ calls, call.failure? = none := by
  cases h with
  | fine h => exact h

/-- A call with a failure is not among calls without. -/
theorem notMem_of_failure {calls : List Seen} {call : Seen} {e : DriverError} (h : ∀ call ∈ calls, call.failure? = none)
    (hfailure : call.failure? = some e) : call ∉ calls := by
  intro hmem
  rw [h call hmem] at hfailure
  cases hfailure

/-- If one of the calls but clean-up fails, only clean-up follows, and the failure is the cause of the error. -/
theorem Surfaces.split {calls earlier later : List Seen} {call : Seen} {e : DriverError} {error : Option StorageError}
    (h : Surfaces calls error) (hsplit : calls = earlier ++ call :: later) (hcall : ∀ answer, call ≠ .release answer)
    (hfailure : call.failure? = some e) :
    (∀ next ∈ later, ∃ answer, next = .release answer) ∧
      ∃ error', error = some error' ∧ error'.code = .driver ∧ error'.cause = some (.driver e) := by
  have hmem : call ∈ earlier ++ call :: later := List.mem_append_right _ List.mem_cons_self
  cases h with
  | fine h => exact absurd (hsplit ▸ hmem) (notMem_of_failure h hfailure)
  | unasked h _ hcleanUp =>
    rcases List.mem_append.mp (hsplit ▸ hmem) with hmem | hmem
    · exact absurd hmem (notMem_of_failure h hfailure)
    · obtain ⟨answer, heq⟩ := hcleanUp call hmem
      exact absurd heq (hcall answer)
  | @failed fine cleanUp last e' error' h hlast hcode hcause hcleanUp =>
    -- The call that has failed is the last one before clean-up, so it is this one.
    have hlater : last = call ∧ cleanUp = later := by
      rcases List.append_eq_append_iff.mp hsplit with ⟨more, hearlier, hrest⟩ | ⟨more, hfine, hrest⟩
      · cases more with
        | nil => exact List.cons.inj hrest
        | cons first more =>
          obtain ⟨-, rfl⟩ := List.cons.inj hrest
          obtain ⟨answer, heq⟩ := hcleanUp call (List.mem_append_right _ List.mem_cons_self)
          exact absurd heq (hcall answer)
      · cases more with
        | nil =>
          obtain ⟨rfl, rfl⟩ := List.cons.inj hrest
          exact ⟨rfl, rfl⟩
        | cons first more =>
          obtain ⟨rfl, -⟩ := List.cons.inj hrest
          exact absurd (hfine ▸ List.mem_append_right _ List.mem_cons_self) (notMem_of_failure h hfailure)
    obtain ⟨rfl, rfl⟩ := hlater
    obtain rfl : e' = e := Option.some.inj (hlast.symm.trans hfailure)
    exact ⟨hcleanUp, error', rfl, hcode, hcause⟩

namespace RelationalClient

variable {client : RelationalClient} {op : ClientOp} {start phase : Phase} {calls : List Seen}

/-- If a statement cannot be prepared, the client is in the phase that it was in. -/
theorem Comes.phase_eq {e : Option StorageError} (h : client.Comes op start calls e phase) {call : Seen} (hmem : call ∈ calls)
    (hprepare : call.isPrepare = true) (hfailure : call.failure? ≠ none) : phase = start := by
  cases h with
  | refused _ _ _ => rfl
  | unstarted _ h => exact h.phase_eq
  | @started calls work _ _ _ _ h hwork =>
    have hstarted : call ∉ calls := fun hmem => hfailure (h.failure? call hmem)
    have hworking : call ∉ work := fun hmem => hwork.runsOut.handle? call hmem (Seen.handle?_of_isPrepare hprepare)
    exact absurd hmem (List.not_mem_append hstarted hworking)

/-- If the dialect has all statements and no call fails, a client that is alive starts up. -/
theorem StartsUp.exists_statements {result : Except StorageError Statements} (h : client.StartsUp start calls result phase)
    (halive : start.isAlive = true) (hdialect : ∀ template ∈ Template.ofRows, ∃ sql, client.dialect.sql template = .ok sql)
    (hfine : ∀ call ∈ calls, call.failure? = none) : ∃ statements, result = .ok statements ∧ phase = .active statements := by
  cases h with
  | active h => exact ⟨_, rfl, h⟩
  | unready h _ _ =>
    rw [halive] at h
    cases h
  | prepared _ _ => exact ⟨_, rfl, rfl⟩
  | brokenOff _ hcalls =>
    cases hcalls with
    | missing _ hnext hsql =>
      obtain ⟨sql, hthere⟩ := hdialect _ (hnext ▸ List.mem_append_right _ List.mem_cons_self)
      rw [hsql] at hthere
      cases hthere
    | refused _ _ _ => exact nomatch hfine _ (List.mem_append_left _ (List.mem_append_right _ (List.mem_singleton.mpr rfl)))

/-- A connection that fails to answer does not work. -/
theorem Validates.eq_false {valid : Bool} (h : client.Validates start calls valid phase) {call : Seen} (hmem : call ∈ calls)
    (hfailure : call.failure? ≠ none) : valid = false := by
  cases h with
  | closed _ | missing _ _ => rfl
  | @asked _ answer _ _ =>
    obtain rfl := List.mem_singleton.mp hmem
    exact Option.isNone_eq_false_iff.mpr (Option.isSome_iff_ne_none.mpr hfailure)

end RelationalClient

open RelationalClient in
/-- What failures of a connection come to, in whatever phase a client is and whatever the connection answers. Where a
statement cannot be prepared or run, the operation ends: nothing but clean-up follows, and the error tells of this failure
and no other. A client that does not start up is as it was, and starts up when it tries again, as soon as no call fails.
Failures to clean up make no difference: every operation ends as it does with a connection that keeps quiet about them, and
leaves the client in the same phase. If the statement that tells whether the connection works fails, it does not work, and
this is all. -/
theorem failures_surface {κ : Type} [SqlConnection κ] (client : RelationalClient) (connection : κ) (start : Phase)
    (journal : Journal) :
    let watched : Logged (Session (Traced κ)) := ⟨⟨⟨connection, []⟩, start⟩, journal⟩
    (∀ op : ClientOp, op.IsOnRows →
      let done := (op.run client).run watched
      let after := done.2.state
      (done.1 = none → ∀ call ∈ after.connection.calls, call.failure? = none) ∧
      ∀ earlier call later e, after.connection.calls = earlier ++ call :: later → (call.isPrepare = true ∨ call.handle? ≠ none) →
        call.failure? = some e →
          (∀ next ∈ later, ∃ answer, next = .release answer) ∧
          (∃ error, done.1 = some (.storage error) ∧ error.code = .driver ∧ error.cause = some (.driver e)) ∧
          (call.isPrepare = true → after.phase = start)) ∧
    (let done := client.startUp.attempt.run watched
      ∀ e, done.1 = .error e → done.2.state.phase = start ∧
        (start.isAlive = true → (∀ template ∈ Template.ofRows, ∃ sql, client.dialect.sql template = .ok sql) →
          ∀ (again : κ) (journal' : Journal),
            let second : Logged (Session (Traced κ)) := ⟨⟨⟨again, []⟩, done.2.state.phase⟩, journal'⟩
            let retry := client.startUp.attempt.run second
            (∀ call ∈ retry.2.state.connection.calls, call.failure? = none) →
              ∃ statements, retry.1 = .ok statements ∧ retry.2.state.phase = .active statements)) ∧
    (∀ op : ClientOp,
      let bare : Logged (Session κ) := ⟨⟨connection, start⟩, journal⟩
      let quiet : Logged (Session (Hushed κ)) := ⟨⟨⟨connection⟩, start⟩, journal⟩
      ((op.run client).run quiet).1 = ((op.run client).run bare).1 ∧
        ((op.run client).run quiet).2.state = ((op.run client).run bare).2.state.hushed) ∧
    let done := client.validate.run watched
    done.2.state.phase = start ∧ ((∃ call ∈ done.2.state.connection.calls, call.failure? ≠ none) → done.1 = false) := by
  intro watched
  have hstart : Since watched.state [] start watched.state := since_start _
  refine ⟨?onRows, ?startUp, ?cleanUp, ?validate⟩
  case onRows =>
    intro op hop done after
    obtain ⟨calls, phase, hturn, hsince⟩ := (run_turn client op watched.state start).of_run hstart
    have hmade : Made connection calls phase after := hsince.made
    rw [hmade.noted, hmade.phase]
    obtain ⟨e, hdone, hcomes⟩ := hturn.comes hop
    rw [show done.1 = e.map .storage from hdone]
    constructor
    · intro hnone
      obtain rfl : e = none := Option.map_eq_none_iff.mp hnone
      exact hcomes.surfaces.failure?
    · intro earlier call later e' hsplit hcall hfails
      have hasks : ∀ answer, call ≠ .release answer := by
        rintro answer rfl
        simp [Seen.isPrepare, Seen.handle?] at hcall
      obtain ⟨hlater, error, rfl, hcode, hcause⟩ := hcomes.surfaces.split hsplit hasks hfails
      refine ⟨hlater, ⟨error, rfl, hcode, hcause⟩, fun hprepare => ?_⟩
      have hmem : call ∈ calls := hsplit ▸ List.mem_append_right _ List.mem_cons_self
      exact hcomes.phase_eq hmem hprepare (hfails ▸ Option.some_ne_none e')
  case startUp =>
    intro done e he
    obtain ⟨calls, phase, hstarts, hsince⟩ := (startUp_startsUp client watched.state start).of_run hstart
    have hfails : client.StartsUp start calls (.error e) phase := he ▸ hstarts
    have hphase : done.2.state.phase = start := by rw [hsince.phase, hfails.phase_eq]
    refine ⟨hphase, fun halive hdialect again journal' => ?_⟩
    rw [hphase]
    intro second retry hfine
    obtain ⟨calls, phase, hstarts, hsince⟩ := (startUp_startsUp client second.state start).of_run (since_start second.state)
    have hmade : Made again calls phase retry.2.state := hsince.made
    rw [hmade.noted] at hfine
    rw [hmade.phase]
    exact hstarts.exists_statements halive hdialect hfine
  case cleanUp =>
    intro op bare quiet
    obtain ⟨failure, session, hgives, hhushed⟩ := (client.run_alike op).run (⟨connection, start⟩ : Session κ)
    obtain ⟨hfailure, hafter⟩ := hgives.run_eq journal
    obtain ⟨hfailure', hafter'⟩ := hhushed.run_eq journal
    exact ⟨hfailure'.trans hfailure.symm, hafter'.trans (congrArg Session.hushed hafter.symm)⟩
  case validate =>
    intro done
    obtain ⟨calls, phase, hvalidates, hsince⟩ := (validate_validates client watched.state start).of_run hstart
    have hmade : Made connection calls phase done.2.state := hsince.made
    rw [hmade.noted, hmade.phase]
    refine ⟨hvalidates.phase_eq, ?_⟩
    rintro ⟨call, hmem, hfails⟩
    exact hvalidates.eq_false hmem hfails

/-- The second of the statements cannot be prepared, and the first one cannot be released. What is told is why the second
one could not be prepared. -/
theorem failures_surface_ofSecondStatement :
    let broken : Recorded TripleTable :=
      { inner := {}, rules := [⟨.prepare, 2, .fails (.other "gone")⟩, ⟨.release, 1, .fails (.other "lost")⟩] }
    let watched : Logged (Session (Traced (Recorded TripleTable))) := ⟨⟨⟨broken, []⟩, .schemaChecked⟩, {}⟩
    let done := ((ClientOp.get ⟨"ns", "tab", "doc"⟩).run TripleTable.client).run watched
    .release (.error (.other "lost")) ∈ done.2.state.connection.calls ∧
      (∃ error, done.1 = some (.storage error) ∧ error.code = .driver ∧ error.cause = some (.driver (.other "gone"))) ∧
      done.2.state.phase = .schemaChecked := by
  intro broken watched
  dsimp only
  have hcalls : (((ClientOp.get ⟨"ns", "tab", "doc"⟩).run TripleTable.client).run watched).2.state.connection.calls =
      [.prepare "delete from css where rid = ?" (.ok 0), .prepare "select cid, v from css where rid = ?" (.error (.other "gone")),
       .release (.error (.other "lost"))] := by decide +kernel
  have happly := failures_surface TripleTable.client broken .schemaChecked {}
  obtain ⟨-, hfailures⟩ := happly.1 (.get ⟨"ns", "tab", "doc"⟩) trivial
  obtain ⟨-, herror, hphase⟩ := hfailures [.prepare "delete from css where rid = ?" (.ok 0)] _ _ _ hcalls (.inl rfl) rfl
  refine ⟨?_, herror, hphase rfl⟩
  rw [hcalls]
  exact List.mem_cons_of_mem _ (List.mem_cons_of_mem _ List.mem_cons_self)

end SparseRows
