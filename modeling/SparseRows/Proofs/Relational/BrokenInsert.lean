import SparseRows.Proofs.Relational.Lapses

/-!
# Insertions that break off

An insertion runs statements column by column and in no transaction, so it may break off anywhere. What it leaves then is
the row with the changes to the columns before the one at which it broke off, and repeating it completes it
(`insert_of_failures`).
-/

namespace SparseRows

variable {κ δ : Type} [SqlConnection κ] {driver : Driver κ δ} {client : RelationalClient} {key : RowKey} {changes : Changes}

namespace RelationalClient

open Session

/-! ## Bytes -/

/-- An insertion that puts bytes is refused for the first column that they are put in, and nothing is done. -/
theorem insert_of_binary (h : ¬changes.PutsOnly Value.Textual) (s : Logged (Session κ)) :
    ∃ column v, changes.get? column = some (.put v) ∧ v.isBinary = true ∧ (changes.before column).PutsOnly Value.Textual ∧
      (client.insert key changes).attempt.run s = (.error ((StorageError.of (.binaryColumn column)).forRow key), s) := by
  obtain ⟨column, v, earlier, later, hlist, hbinary, hearlier⟩ := exists_first_binary h
  refine ⟨column, v, ?_, hbinary, fun name w hget => ?_, ?_⟩
  · exact Changes.mem_toList_iff.mp (hlist ▸ List.mem_append_right _ List.mem_cons_self)
  · rw [← Changes.mem_toList_iff, Changes.toList_before hlist] at hget
    exact hearlier name w hget
  · unfold insert
    rw [hlist, mapM_textOf_of_binary hearlier hbinary]
    rfl

/-! ## Texts -/

/-- What comes of an insertion from a state of a client, with the calls made for it. -/
structure Inserts (driver : Driver κ δ) (client : RelationalClient) (key : RowKey) (changes : Changes)
    (before after : Session (Traced κ)) (calls : List Seen) (result : Except StorageError Unit) : Prop where
  noted : after.connection.calls = before.connection.calls ++ calls
  /-- Where a call for a column lapses, the changes to the columns before this one have been made. -/
  stopped {call : Seen} {column : String} (hmem : call ∈ calls) (hcolumn : call.IsFor (client.rowId key) column)
    (hlapses : call.Lapses after.phase) :
    (∃ e, result = .error e ∧ e.code = .driver ∧ e.row = some key) ∧
      (driver.bag before.connection.inner).Changed (driver.bag after.connection.inner) (client.rowId key) (changes.before column)
  /-- An insertion that fails before it comes to the columns has changed nothing. -/
  unbegun {e : StorageError} (h : result = .error e) (hnone : ∀ call ∈ calls, ∀ column, ¬call.IsFor (client.rowId key) column) :
    driver.bag after.connection.inner = driver.bag before.connection.inner
  /-- Where no call lapses, all changes have been made. -/
  undisturbed (halive : before.phase.isAlive = true) (hnone : ∀ call ∈ calls, ¬call.Lapses after.phase) :
    result = .ok () ∧ (driver.bag before.connection.inner).Changed (driver.bag after.connection.inner) (client.rowId key) changes

/-- A state in which an insertion may be repeated: some of its changes have been made, and nothing else. -/
def Resumes (driver : Driver κ δ) (rid : String) (changes : Changes) (before after : Session (Traced κ)) : Prop :=
  ∃ made, (driver.bag before.connection.inner).Changed (driver.bag after.connection.inner) rid made ∧
    ∀ name, changes.get? name = none → made.get? name = none

section

variable {statements : Statements} {texts : List (String × Option String)} {before after : Session (Traced κ)}
  {first calls work : List Seen}

omit [SqlConnection κ] in
/-- What has changed nothing may be repeated. -/
theorem resumes_of_bag_eq (hkeyed : (driver.bag before.connection.inner).Keyed)
    (hbag : driver.bag after.connection.inner = driver.bag before.connection.inner) :
    Resumes driver (client.rowId key) changes before after := by
  refine ⟨.empty, ?_, fun name _ => Changes.get?_empty name⟩
  rw [hbag]
  exact hkeyed.changed_empty _

omit [SqlConnection κ] in
/-- An insertion by a client that does not start up makes no changes. -/
theorem inserts_of_refuses {e : StorageError} (hnoted : after.connection.calls = before.connection.calls ++ calls)
    (h : Refuses driver before.connection.inner after.connection.inner calls) :
    Inserts driver client key changes before after calls (.error e) where
  noted := hnoted
  stopped hmem hcolumn _ := absurd (h.handle? _ hmem) hcolumn.handle?
  unbegun _ _ := h.bag
  undisturbed _ hnone := by
    obtain ⟨call, hmem, cause, hfailed⟩ := h.failed
    exact absurd (.failed hfailed) (hnone call hmem)

omit [SqlConnection κ] in
/-- An insertion has made the changes to the columns before the one for which a call lapses, or all changes if none does. -/
theorem inserts_of_settles {result : Except StorageError Unit} (hkeyed : (driver.bag before.connection.inner).Keyed)
    (htexts : Bag.TextsOf changes.toList texts) (hactive : after.phase = .active statements)
    (hnoted : after.connection.calls = before.connection.calls ++ (first ++ work))
    (hfirst : ∀ call ∈ first, ¬call.Lapses (.active statements))
    (h : Settles driver statements key (client.rowId key) (driver.bag before.connection.inner) texts work after.connection.inner
      (errorOf? result)) :
    Inserts driver client key changes before after (first ++ work) result ∧
      Resumes driver (client.rowId key) changes before after := by
  cases result with
  | ok _ =>
    cases h with
    | saved hwork hserves =>
      have hchanged := Bag.changed_saveAll hkeyed (client.rowId key) htexts
      rw [← hserves.bag] at hchanged
      have hfine := List.forall_mem_append.mpr ⟨hfirst, hwork⟩
      have hinserts : Inserts driver client key changes before after (first ++ work) (.ok ()) := by
        refine ⟨hnoted, ?stopped, ?unbegun, fun _ _ => ⟨rfl, hchanged⟩⟩
        case stopped =>
          intro call column hmem _ hlapses
          exact absurd (hactive ▸ hlapses) (hfine _ hmem)
        case unbegun =>
          intro e hresult
          cases hresult
      exact ⟨hinserts, changes, hchanged, fun _ => id⟩
  | error e =>
    cases h with
    | @stopped saved rest column text earlier last _ hsplit hwork hearlier hlast hcolumn hserves hcode hrow =>
      have hchanged := Bag.changed_saveAll_before hkeyed (client.rowId key) (hsplit ▸ htexts)
      rw [← hserves.bag] at hchanged
      have hmem : last ∈ first ++ work := by
        rw [hwork]
        exact List.mem_append_right _ (List.mem_append_right _ (List.mem_singleton_self _))
      have hinserts : Inserts driver client key changes before after (first ++ work) (.error e) := by
        refine ⟨hnoted, ?stopped, fun _ hnone => absurd hcolumn (hnone last hmem column), ?undisturbed⟩
        case stopped =>
          intro call name hcall hfor hlapses
          rw [hactive] at hlapses
          rw [hwork, ← List.append_assoc, List.mem_append, List.mem_singleton] at hcall
          rcases hcall with hcall | rfl
          · exact absurd hlapses (List.forall_mem_append.mpr ⟨hfirst, hearlier⟩ _ hcall)
          · obtain rfl := hfor.unique hcolumn
            exact ⟨⟨e, rfl, hcode, hrow⟩, hchanged⟩
        case undisturbed =>
          intro _ hnone
          exact absurd hlast (hactive ▸ hnone last hmem)
      refine ⟨hinserts, changes.before column, hchanged, fun name hget => ?_⟩
      rw [Changes.get?_before, hget]
      split <;> rfl

end

/-- An insertion of texts comes to an end, and leaves a client that can work so that the insertion may be repeated. -/
theorem exists_inserts (hdriver : driver.FailsCleanly client.dialect) {session : Session (Traced κ)}
    (hready : session.phase.isAlive = true → session.Ready driver.traced) (hkeyed : (driver.bag session.connection.inner).Keyed)
    (htakes : changes.PutsOnly Value.Textual) :
    ∃ result after, (client.insert key changes).Gives session result after ∧
      (∃ calls, Inserts driver client key changes session after calls result) ∧
      (after.phase.isAlive = true → after.Ready driver.traced) ∧
      (session.phase.isAlive = true → after.phase.isAlive = true) ∧ Resumes driver (client.rowId key) changes session after := by
  obtain ⟨result, after, hgives, calls, phase, hcomes, hsince⟩ := (insert_comes key changes).run session (since_start session)
  obtain ⟨hanswered, hnoted⟩ := Traced.answered_inner hsince.answered
  refine ⟨result, after, hgives, ?_⟩
  generalize herror : errorOf? result = error at hcomes
  cases hcomes with
  | refused hbytes _ _ => exact absurd htakes hbytes
  | @unstarted _ e _ _ hstarts =>
    obtain rfl := errorOf?_eq_some.mp herror
    have hphase : after.phase = session.phase := hsince.phase.trans hstarts.phase_eq
    by_cases halive : session.phase.isAlive = true
    · have hrefuses := hstarts.refuses hdriver halive (hready halive).usable hanswered
      have hidle : ∀ {statements}, after.phase = .active statements → driver.traced.RunsAll after.connection statements :=
        fun hactive => absurd (hphase.symm.trans hactive) (hstarts.ne_active _)
      refine ⟨⟨calls, inserts_of_refuses hnoted hrefuses⟩, fun hafter => ⟨hrefuses.usable, hafter, hidle⟩,
        fun _ => hphase ▸ halive, ?_⟩
      exact resumes_of_bag_eq hkeyed hrefuses.bag
    -- A client that cannot work asks nothing of the connection.
    · obtain ⟨rfl, rfl⟩ := hstarts.of_not_isAlive (Bool.eq_false_of_not_eq_true halive)
      obtain rfl := hsince.eq_origin
      refine ⟨⟨[], ?_⟩, hready, id, resumes_of_bag_eq hkeyed rfl⟩
      exact ⟨hnoted, fun hmem => absurd hmem List.not_mem_nil, fun _ _ => rfl, fun h => absurd h halive⟩
  | @started first work statements _ _ hbytes hstarts huses =>
    cases huses with
    | insert hmap hsaves =>
      obtain ⟨texts, hmap', htexts⟩ := mapM_textOf fun column v hmem => htakes column v (Changes.mem_toList_iff.mp hmem)
      obtain rfl := Except.ok.inj (hmap.symm.trans hmap')
      have hstart := hready hstarts.isAlive
      obtain ⟨between, hfirst, hwork⟩ := hanswered.of_append
      obtain ⟨hserves, hfine⟩ := hstarts.serves hdriver hstart.usable (fun h => Driver.runsAll_traced.mp (hstart.runsAll h)) hfirst
      have hactive : after.phase = .active statements := hsince.phase.trans hstarts.phase_of_ok
      have hsettles := hsaves.settles hdriver hserves hwork
      obtain ⟨bag, hafter⟩ := hsettles.exists_serves
      have hworks : after.Ready driver.traced := by
        refine ⟨hafter.usable, hactive ▸ rfl, fun {statements'} hactive' => Driver.runsAll_traced.mpr ?_⟩
        obtain rfl : statements = statements' := Phase.active.inj (hactive.symm.trans hactive')
        exact hafter.runsAll
      obtain ⟨hinserts, hresumes⟩ := inserts_of_settles hkeyed htexts hactive hnoted hfine (herror ▸ hsettles)
      exact ⟨⟨_, hinserts⟩, fun _ => hworks, fun _ => hworks.alive, hresumes⟩

/-- What an insertion leaves when it fails, and that it may be repeated. If it puts bytes, it is refused for the first
column that they are put in, and nothing is done: no call is made, and the client and its database are as they were.
Otherwise, if a call for a column fails or inserts nothing, there is an error for the row, and of the changes just those to
the columns before this one have been made. A client that can work may insert again: if no call fails this time, the changes
have then been made as an insertion that is not disturbed makes them, which leaves nothing of the bag open. Of the driver it
is assumed that calls that fail have no effect. -/
theorem insert_of_failures (client : RelationalClient) (hdriver : driver.FailsCleanly client.dialect)
    (s : Logged (Session (Traced κ)))
    (hready : s.state.phase.isAlive = true → s.state.Ready driver.traced)
    (hkeyed : (driver.bag s.state.connection.inner).Keyed) (key : RowKey) (changes : Changes) :
    let insert := fun s : Logged (Session (Traced κ)) => (client.insert key changes).attempt.run s
    let bag := fun s : Logged (Session (Traced κ)) => driver.bag s.state.connection.inner
    let after := (insert s).2
    (¬changes.PutsOnly Value.Textual →
      ∃ column v e, changes.get? column = some (.put v) ∧ v.isBinary = true ∧ (changes.before column).PutsOnly Value.Textual ∧
        insert s = (.error e, s) ∧ e.code = .invalidValue ∧ e.fault = .binaryColumn column ∧ e.row = some key) ∧
      (changes.PutsOnly Value.Textual →
        (∃ calls, Inserts driver client key changes s.state after.state calls (insert s).1) ∧
          ∀ journal, ∃ calls,
            let again := insert ⟨after.state, journal⟩
            again.2.state.connection.calls = after.state.connection.calls ++ calls ∧
              (s.state.phase.isAlive = true → (∀ call ∈ calls, ¬call.Lapses again.2.state.phase) →
                again.1 = .ok () ∧ (bag s).Changed (bag again.2) (client.rowId key) changes)) := by
  intro insert bag after
  constructor
  · intro hbytes
    obtain ⟨column, v, hget, hbinary, hbefore, hrun⟩ := insert_of_binary hbytes s
    exact ⟨column, v, _, hget, hbinary, hbefore, hrun, rfl, rfl, rfl⟩
  · intro htakes
    obtain ⟨result, session, hgives, hinserts, hready', halive, made, hmade, hcovers⟩ := exists_inserts hdriver hready hkeyed htakes
    obtain ⟨rfl, rfl⟩ := hgives.run_eq s.journal
    refine ⟨hinserts, fun journal => ?_⟩
    obtain ⟨result', last, hgives', ⟨calls, hinserts'⟩, -⟩ := exists_inserts hdriver hready' hmade.keyed htakes
    obtain ⟨rfl, rfl⟩ := hgives'.run_eq journal
    refine ⟨calls, hinserts'.noted, fun hs hnone => ?_⟩
    obtain ⟨hok, hchanged⟩ := hinserts'.undisturbed (halive hs) hnone
    exact ⟨hok, hmade.trans hchanged hcovers⟩

/-- A client at rest prepares its statements and inserts into three columns. The statement that is to insert the second one
fails, so the first one has been saved by then and nothing else; the second time, all goes well. -/
theorem insert_of_failures_atSecond :
    let key : RowKey := ⟨"ns", "tab", "doc"⟩
    let client := TripleTable.client
    let changes := ((Changes.empty.put "a" (.text "1")).put "b" (.integer 2)).remove "c"
    let table : TripleTable := { triples := [⟨client.rowId key, "c", "0"⟩, ⟨"other", "a", "0"⟩] }
    let s : Logged (Session (Traced (Recorded TripleTable))) :=
      ⟨⟨⟨{ inner := table, rules := [⟨.update, 4, .fails (.other "gone")⟩] }, []⟩, .schemaChecked⟩, {}⟩
    let bag : Logged (Session (Traced (Recorded TripleTable))) → Bag := fun s => s.state.connection.inner.inner.triples
    let broken := (client.insert key changes).attempt.run s
    let again := (client.insert key changes).attempt.run ⟨broken.2.state, {}⟩
    (∃ e, broken.1 = .error e ∧ e.code = .driver ∧ e.row = some key) ∧
      (bag s).Changed (bag broken.2) (client.rowId key) (Changes.empty.put "a" (.text "1")) ∧
      again.1 = .ok () ∧ (bag s).Changed (bag again.2) (client.rowId key) changes := by
  intro key client changes table s bag
  dsimp only
  have hready : s.state.phase.isAlive = true → s.state.Ready (Recorded.driver TripleTable.driver).traced := by
    refine fun _ => ⟨⟨rfl, fun rule hrule => ?_⟩, rfl, fun heq => nomatch heq⟩
    rw [List.mem_singleton] at hrule
    exact ⟨.other "gone", hrule ▸ rfl⟩
  have hkeyed : (bag s).Keyed := by simp [Bag.Keyed, bag, s, table, Triple.place]
  have htakes : changes.PutsOnly Value.Textual := by
    intro column v hget
    simp only [changes, Changes.get?_put, Changes.get?_remove, Changes.get?_empty] at hget
    split at hget
    · cases hget
    · split at hget
      · cases hget
        rfl
      · split at hget <;> cases hget
        rfl
  -- What the calls are is found by running the client, before the runs are given names.
  have hlast : ((client.insert key changes).attempt.run s).2.state.connection.calls.getLast? =
      some (.update 2 ["2", client.rowId key, "b"] (.error (.other "gone"))) := by decide +kernel
  have hcalls : ((client.insert key changes).attempt.run
      ⟨((client.insert key changes).attempt.run s).2.state, {}⟩).2.state.connection.calls =
        ((client.insert key changes).attempt.run s).2.state.connection.calls ++
          [.update 3 ["1", client.rowId key, "a"] (.ok 1), .update 3 ["2", client.rowId key, "b"] (.ok 0),
           .update 2 ["2", client.rowId key, "b"] (.ok 1), .update 4 [client.rowId key, "c"] (.ok 1)] := by decide +kernel
  have hphase : ((client.insert key changes).attempt.run
      ⟨((client.insert key changes).attempt.run s).2.state, {}⟩).2.state.phase = .active ⟨0, 1, 2, 3, 4⟩ := by decide +kernel
  have hbefore : changes.before "b" = Changes.empty.put "a" (.text "1") := by decide +kernel
  have happly := insert_of_failures client TripleTable.recorded_failsCleanly s hready hkeyed key changes
  dsimp only at happly
  generalize (client.insert key changes).attempt.run s = broken at *
  obtain ⟨⟨calls, hinserts⟩, hagain⟩ := happly.2 htakes
  obtain ⟨later, hnoted, hsucceeds⟩ := hagain {}
  generalize (client.insert key changes).attempt.run ⟨broken.2.state, {}⟩ = again at *
  rw [hinserts.noted] at hlast
  obtain ⟨herror, hbroken⟩ := hinserts.stopped (List.mem_of_getLast? hlast) .save (.failed rfl)
  obtain rfl := List.append_cancel_left (hnoted.symm.trans hcalls)
  refine ⟨herror, hbefore ▸ hbroken, hsucceeds rfl fun call hmem hlapses => ?_⟩
  rw [hphase] at hlapses
  simp only [List.mem_cons, List.not_mem_nil, or_false] at hmem
  rcases hmem with rfl | rfl | rfl | rfl
  · cases hlapses with
    | failed h => cases h
  · cases hlapses with
    | failed h => cases h
    -- The statement that reaches nothing here is the one that overwrites.
    | idle h hhandle =>
      cases h
      cases hhandle
  · cases hlapses with
    | failed h => cases h
  · cases hlapses with
    | failed h => cases h

end RelationalClient

end SparseRows
