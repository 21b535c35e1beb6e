import SparseRows.Proofs.Relational.Lives
import SparseRows.Proofs.Relational.Operations
import SparseRows.Proofs.Relational.TripleDriver

/-!
# Being alive

What the phase of a client tells of its operations so far, whatever its connection has answered. `Shifts` are all the ways
from one phase to another, and every operation makes one of them (`Turn.shifts`). By induction over the operations, a client
is alive if and only if the schema has been found and it was not closed, and it is active if and only if it has started up
and did not rest since. No way leads back to the first two phases, and none out of the last one (`phase_over_life`).
-/

namespace SparseRows

/-! ## Handles that are given -/

/-- The handle that a call gives, if it prepares a statement. -/
def Seen.given? : Seen → Option Nat
  | prepare _ (.ok handle) => some handle
  | product _ | execute _ _ | prepare _ (.error _) | query _ _ _ | update _ _ _ | release _ | close _ => none

namespace Dialect

variable {dialect : Dialect} {templates : List Template} {handles : List Nat} {calls : List Seen}

/-- Calls that prepare statements give their handles. -/
theorem Prepares.filterMap_given? (h : dialect.Prepares templates handles calls) : calls.filterMap Seen.given? = handles := by
  induction h with
  | nil => rfl
  | snoc _ _ ih => rw [List.filterMap_append, ih]; rfl

/-- There is a handle for each template. -/
theorem Prepares.length_handles (h : dialect.Prepares templates handles calls) : handles.length = templates.length := by
  induction h with
  | nil => rfl
  | snoc _ _ ih => rw [List.length_append, List.length_append, ih]; rfl

/-- Calls that start up a client: the first ones prepare all row statements, with these handles. -/
def Opens (dialect : Dialect) (statements : Statements) (calls : List Seen) : Prop :=
  ∃ series rest, calls = series ++ rest ∧ dialect.Prepares Template.ofRows statements.handles series

/-- A client that starts up is given the handles of its statements first. -/
theorem Opens.prefix_given? {statements : Statements} (h : dialect.Opens statements calls) :
    statements.handles <+: calls.filterMap Seen.given? := by
  obtain ⟨series, rest, rfl, hseries⟩ := h
  rw [List.filterMap_append, hseries.filterMap_given?]
  exact List.prefix_append _ _

/-- Calls that give too few handles do not start up a client. -/
theorem not_opens_of_length (h : (calls.filterMap Seen.given?).length < Template.ofRows.length) (statements : Statements) :
    ¬dialect.Opens statements calls := fun hopens => by
  have hle := hopens.prefix_given?.length_le
  have hlength : statements.handles.length = Template.ofRows.length := rfl
  omega

/-- The handles are those of one client only. -/
theorem Opens.unique {statements others : Statements} (h : dialect.Opens statements calls) (h' : dialect.Opens others calls) :
    statements = others := by
  have hhandles : statements.handles = others.handles :=
    (List.prefix_of_prefix_length_le h.prefix_given? h'.prefix_given? (Nat.le_of_eq rfl)).eq_of_length rfl
  simp only [Statements.handles, List.cons.injEq, and_true] at hhandles
  obtain ⟨hdelete, hselect, hinsert, hupdate, hremove⟩ := hhandles
  cases statements
  cases others
  simp_all

/-- Where a statement is not to be had, there are too few handles. -/
theorem Lacks.length_given? {e : StorageError} (h : dialect.Lacks calls e) :
    (calls.filterMap Seen.given?).length < Template.ofRows.length := by
  cases h with
  | missing h hnext _ =>
    rw [h.filterMap_given?, h.length_handles, ← hnext, List.length_append, List.length_cons]
    omega
  | refused h hnext _ =>
    rw [List.filterMap_append, h.filterMap_given?, ← hnext, List.length_append, List.length_append, h.length_handles,
      List.length_cons]
    exact Nat.lt_add_of_pos_right (Nat.succ_pos _)

/-- A statement that is not to be had does not make the client less ready. -/
theorem Lacks.code_ne {e : StorageError} (h : dialect.Lacks calls e) : e.code ≠ .notReady := by
  cases h with
  | refused _ _ _ =>
    change ErrorCode.driver ≠ .notReady
    decide
  | missing _ _ hsql =>
    rw [Dialect.sql, Dialect.statement] at hsql
    split at hsql
    · cases hsql
    · cases hsql
      change ErrorCode.config ≠ .notReady
      decide

end Dialect

/-- Running statements gives no handles. -/
theorem RunsOut.filterMap_given? {calls : List Seen} {e : Option StorageError} (h : RunsOut calls e) :
    calls.filterMap Seen.given? = [] := by
  rw [List.filterMap_eq_nil_iff]
  intro call hmem
  have hhandle := h.handle? call hmem
  cases call with
  | query | update => rfl
  | product | execute | prepare | release | close => exact absurd rfl hhandle

/-- Neither does executing statements. -/
theorem Executes.filterMap_given? {statements : List String} {calls : List Seen} (h : Executes statements calls) :
    calls.filterMap Seen.given? = [] := by
  induction h with
  | nil => rfl
  | cons _ ih => exact ih

namespace RelationalClient

variable {client : RelationalClient} {op : ClientOp} {start phase : Phase} {calls : List Seen}

/-! ## Being ready -/

/-- A client that cannot start up is not ready only if it is not alive. -/
theorem StartsUp.code_iff {e : StorageError} (h : client.StartsUp start calls (.error e) phase) :
    e.code = .notReady ↔ start.isAlive = false := by
  cases h with
  | unready h hcode _ => exact ⟨fun _ => h, fun _ => hcode⟩
  | brokenOff h hcalls =>
    refine ⟨fun hcode => absurd hcode hcalls.code_ne, fun hidle => ?_⟩
    rcases h with rfl | rfl <;> cases hidle

/-- An operation on rows tells that the client is not ready just if it is not alive. -/
theorem Comes.notReady_iff {e : Option StorageError} (h : client.Comes op start calls e phase) (hbytes : ¬op.PutsBytes) :
    (∃ error, e = some error ∧ error.code = .notReady) ↔ start.isAlive = false := by
  cases h with
  | refused h _ _ => exact absurd h hbytes
  | @unstarted _ e _ _ h =>
    rw [← h.code_iff]
    constructor
    · rintro ⟨_, ⟨⟩, hcode⟩
      exact hcode
    · intro hcode
      exact ⟨e, rfl, hcode⟩
  | started _ h hwork =>
    rw [h.isAlive]
    constructor
    · rintro ⟨error, rfl, hcode⟩
      cases hwork.runsOut with
      | failed _ _ _ hdriver _ | idle _ hdriver _ => exact nomatch hdriver.symm.trans hcode
    · exact nofun

/-- If the client is not alive, an operation on rows does nothing at all, and fails. -/
theorem Comes.of_not_isAlive {e : Option StorageError} (h : client.Comes op start calls e phase) (hidle : start.isAlive = false) :
    calls = [] ∧ phase = start ∧ e ≠ none := by
  cases h with
  | refused _ _ _ => exact ⟨rfl, rfl, Option.some_ne_none _⟩
  | unstarted _ h => exact ⟨(h.of_not_isAlive hidle).1, (h.of_not_isAlive hidle).2, Option.some_ne_none _⟩
  | started _ h _ =>
    rw [h.isAlive] at hidle
    cases hidle

/-- If it does not fail, the client is active. -/
theorem Comes.active_of_none (h : client.Comes op start calls none phase) : ∃ statements, phase = .active statements := by
  cases h with
  | started _ h _ => exact ⟨_, h.phase_of_ok⟩

end RelationalClient

/-! ## From one phase to another -/

/-- An operation on rows does not check the schema, nor let the client rest, nor close it. -/
theorem ClientOp.IsOnRows.ne {op : ClientOp} (h : op.IsOnRows) : op ≠ .checkSchema ∧ op ≠ .passivate ∧ op ≠ .close := by
  refine ⟨?_, ?_, ?_⟩ <;> rintro rfl <;> exact h

namespace RelationalClient

variable {client : RelationalClient} {op : ClientOp} {start phase : Phase} {calls : List Seen}

/-- What an operation makes of the phase of a client: it stays where it is, or goes on by one of these ways. -/
inductive Shifts (client : RelationalClient) (start : Phase) (record : OpRecord) : Phase → Prop
  | stays (hcheck : record.op = .checkSchema → record.failure = none → start.isAlive = true)
      (hpassivate : record.op = .passivate → ∀ statements, start ≠ .active statements)
      (hclose : record.op = .close → start = .closed) :
      Shifts client start record start
  /-- The schema is found. -/
  | found (h : start = .created) (hop : record.op = .checkSchema) (hfailure : record.failure = none) :
      Shifts client start record .schemaChecked
  /-- The client starts up. -/
  | starts {statements : Statements} (h : start = .schemaChecked ∨ start = .passive) (hop : record.op.IsOnRows)
      (hopens : client.dialect.Opens statements record.calls) : Shifts client start record (.active statements)
  /-- The client comes to rest. -/
  | rests {statements : Statements} (h : start = .active statements) (hop : record.op = .passivate) :
      Shifts client start record .passive
  | closes (hop : record.op = .close) : Shifts client start record .closed

/-- Checking the schema takes a client on only if it has just been made and the schema is found. -/
theorem Checks.shifts {result : Except PoolError Unit} (h : client.Checks start calls result phase) :
    client.Shifts start ⟨.checkSchema, calls, (errorOf? result).map .pool⟩ phase := by
  -- A client that finds the schema is where it was, unless it has just been made.
  have hfound : start ≠ .closed → client.Shifts start ⟨.checkSchema, calls, none⟩ start.schemaFound := by
    intro hopen
    cases start with
    | created => exact .found rfl rfl rfl
    | schemaChecked | active _ | passive => exact .stays (fun _ _ => rfl) nofun nofun
    | closed => exact absurd rfl hopen
  cases h with
  | closed _ | lacking _ _ _ _ => exact .stays (fun _ => nofun) nofun nofun
  | found h _ | setUp h _ _ _ _ => exact hfound h

/-- An operation on rows takes a client on only if it is at rest and starts up. -/
theorem Comes.shifts {e : Option StorageError} (hop : op.IsOnRows) (h : client.Comes op start calls e phase) :
    client.Shifts start ⟨op, calls, e.map .storage⟩ phase := by
  have hother := hop.ne
  have hstays : client.Shifts start ⟨op, calls, e.map .storage⟩ start :=
    .stays (fun h => absurd h hother.1) (fun h => absurd h hother.2.1) fun h => absurd h hother.2.2
  cases h with
  | refused _ _ _ => exact hstays
  | unstarted _ h => exact h.phase_eq ▸ hstays
  | @started _ work _ _ _ _ h hwork =>
    cases h with
    | active _ => exact hstays
    | prepared h hcalls => exact .starts h hop ⟨_, work, rfl, hcalls⟩

/-- Every operation takes a client from one phase to another in one of these ways. -/
theorem Turn.shifts {failure : Option ClientFailure} (h : client.Turn start op calls failure phase) :
    client.Shifts start ⟨op, calls, failure⟩ phase := by
  cases h with
  | checkSchema h => exact h.shifts
  | onRows hop h => exact h.shifts hop
  | passivate h =>
    cases h with
    | active h => exact .rests h rfl
    | idle h => exact .stays nofun (fun _ => h) nofun
  | validate h => exact h.phase_eq ▸ .stays nofun nofun nofun
  | close h =>
    cases h with
    | closed _ | closing _ _ => exact .closes rfl

/-- If an operation begins with the calls that start up a client, it is active with these statements. -/
theorem Turn.active_of_opens {failure : Option ClientFailure} (h : client.Turn start op calls failure phase)
    {statements : Statements}
    (hopens : client.dialect.Opens statements calls) : phase = .active statements := by
  -- Most operations give no handles, or too few.
  have hfew : (calls.filterMap Seen.given?).length < Template.ofRows.length → phase = .active statements := fun hlength =>
    absurd hopens (Dialect.not_opens_of_length hlength statements)
  have hnone : calls.filterMap Seen.given? = [] → phase = .active statements := fun hgiven => hfew (hgiven ▸ Nat.succ_pos _)
  cases h with
  | checkSchema h =>
    obtain ⟨executed, hexecutes⟩ := h.executes
    exact hnone hexecutes.filterMap_given?
  | passivate h => exact hnone (by cases h <;> rfl)
  | validate h => exact hnone (by cases h <;> rfl)
  | close h =>
    refine hnone ?_
    cases h with
    | closed _ => rfl
    | closing _ hcalls => cases hcalls <;> rfl
  | onRows _ h =>
    cases h with
    | refused _ _ _ => exact hnone rfl
    | unstarted _ h =>
      cases h with
      | unready _ _ _ => exact hnone rfl
      | @brokenOff calls answer _ _ hcalls =>
        refine hfew ?_
        rw [List.filterMap_append, show [Seen.release answer].filterMap Seen.given? = [] from rfl, List.append_nil]
        exact hcalls.length_given?
    | @started _ work _ _ _ _ h hwork =>
      cases h with
      | active _ => exact hnone hwork.runsOut.filterMap_given?
      | prepared _ hcalls => exact congrArg Phase.active (Dialect.Opens.unique ⟨_, work, rfl, hcalls⟩ hopens)

/-! ## One operation -/

variable {record : OpRecord} {statements : Statements}

/-- A client is closed by closing it, and stays closed. -/
theorem Shifts.closed_iff (h : client.Shifts start record phase) : phase = .closed ↔ start = .closed ∨ record.op = .close := by
  cases h with
  | stays _ _ hclose => exact ⟨.inl, fun h => h.elim id hclose⟩
  | found h hop _ => simp [h, hop]
  | starts h hop _ =>
    rcases h with rfl | rfl <;> simp [hop.ne]
  | rests h hop => simp [h, hop]
  | closes hop => simp [hop]

/-- A client comes to be alive by a check of the schema that succeeds, and stays alive until it is closed. -/
theorem Shifts.isAlive_iff (h : client.Shifts start record phase) (hopen : start ≠ .closed) :
    phase.isAlive = true ↔ (start.isAlive = true ∨ record.op = .checkSchema ∧ record.failure = none) ∧ record.op ≠ .close := by
  cases h with
  | stays hcheck _ hclose =>
    have hother : record.op ≠ .close := fun heq => hopen (hclose heq)
    constructor
    · exact fun halive => ⟨.inl halive, hother⟩
    · rintro ⟨halive | ⟨hop, hfailure⟩, -⟩
      · exact halive
      · exact hcheck hop hfailure
  | found _ hop hfailure => simp [hop, hfailure, Phase.isAlive]
  | starts h hop _ =>
    rcases h with rfl | rfl <;> simp [hop.ne, Phase.isAlive]
  | rests h hop => simp [h, hop, Phase.isAlive]
  | closes hop => simp [hop, Phase.isAlive]

/-- A client comes to be active by starting up, and stays so until it rests or is closed. -/
theorem Turn.active_iff (h : client.Turn start record.op record.calls record.failure phase) :
    phase = .active statements ↔
      (start = .active statements ∧ record.op ≠ .passivate ∧ record.op ≠ .close) ∨
        client.dialect.Opens statements record.calls := by
  have hshifts := h.shifts
  constructor
  · intro hactive
    cases hshifts with
    | stays _ hpassivate hclose =>
      refine .inl ⟨hactive, fun hop => hpassivate hop statements hactive, fun hop => ?_⟩
      simp [hclose hop] at hactive
    | starts _ _ hopens =>
      obtain rfl := Phase.active.inj hactive
      exact .inr hopens
    | found _ _ _ | rests _ _ | closes _ => contradiction
  · rintro (⟨rfl, hpassivate, hclose⟩ | hopens)
    · cases hshifts with
      | stays _ _ _ => rfl
      | found _ _ _ => contradiction
      | starts hstart _ _ => rcases hstart with hstart | hstart <;> contradiction
      | rests _ hop => exact absurd hop hpassivate
      | closes hop => exact absurd hop hclose
    · exact h.active_of_opens hopens

end RelationalClient

/-- How far on a phase is. A client may go back and forth between being active and resting. -/
def Phase.stage : Phase → Nat
  | created => 0
  | schemaChecked => 1
  | active _ | passive => 2
  | closed => 3

/-- A client that is as far on as one of the first two phases is in this phase. -/
theorem Phase.eq_of_stage_eq {early phase : Phase} (hearly : early = .created ∨ early = .schemaChecked)
    (h : phase.stage = early.stage) : phase = early := by
  rcases hearly with rfl | rfl <;> cases phase <;> first | rfl | cases h

namespace RelationalClient

variable {client : RelationalClient} {start phase : Phase} {record : OpRecord} {records : List OpRecord} {statements : Statements}

/-- No operation leads back. -/
theorem Shifts.stage_le (h : client.Shifts start record phase) : start.stage ≤ phase.stage := by
  cases h with
  | stays _ _ _ => exact Nat.le_refl _
  | found h _ _ => exact h ▸ Nat.zero_le _
  | starts h _ _ => rcases h with rfl | rfl <;> simp [Phase.stage]
  | rests h _ => exact h ▸ Nat.le_refl _
  | closes _ => cases start <;> simp [Phase.stage]

/-- A client that is closed asks its connection for nothing, and no operation that can fail succeeds. -/
theorem Turn.of_closed {op : ClientOp} {calls : List Seen} {failure : Option ClientFailure}
    (h : client.Turn .closed op calls failure phase) : calls = [] ∧ (op = .checkSchema ∨ op.IsOnRows → failure ≠ none) := by
  cases h with
  | checkSchema h =>
    cases h with
    | closed _ => exact ⟨rfl, fun _ => Option.some_ne_none _⟩
    | found hopen _ | setUp hopen _ _ _ _ | lacking hopen _ _ _ => exact absurd rfl hopen
  | onRows _ h =>
    obtain ⟨hcalls, -, hfailure⟩ := h.of_not_isAlive rfl
    refine ⟨hcalls, ?_⟩
    intro _ hnone
    exact hfailure (Option.map_eq_none_iff.mp hnone)
  -- The other operations cannot fail, so it is only to be shown that they ask for nothing.
  | passivate h =>
    have hother : ¬(ClientOp.passivate = .checkSchema ∨ ClientOp.passivate.IsOnRows) := by simp [ClientOp.IsOnRows]
    cases h with
    | active hactive => cases hactive
    | idle _ => exact ⟨rfl, fun hop => absurd hop hother⟩
  | validate h =>
    have hother : ¬(ClientOp.validate = .checkSchema ∨ ClientOp.validate.IsOnRows) := by simp [ClientOp.IsOnRows]
    cases h with
    | closed _ => exact ⟨rfl, fun hop => absurd hop hother⟩
    | missing hopen _ | asked hopen _ => exact absurd rfl hopen
  | close h =>
    have hother : ¬(ClientOp.close = .checkSchema ∨ ClientOp.close.IsOnRows) := by simp [ClientOp.IsOnRows]
    cases h with
    | closed _ => exact ⟨rfl, fun hop => absurd hop hother⟩
    | closing hopen _ => exact absurd rfl hopen

/-! ## Any number of operations -/

end RelationalClient

section

variable {κ : Type} [SqlConnection κ] {client : RelationalClient} {Meanwhile : κ → κ → Prop} {first session : Session κ}
  {records : List OpRecord} {statements : Statements}

/-- A client is closed once it has been. -/
theorem Lived.closed_iff (h : Lived client Meanwhile first records session) :
    session.phase = .closed ↔ first.phase = .closed ∨ ∃ record ∈ records, record.op = .close := by
  induction h with
  | start => simp
  | op _ _ hturn _ ih =>
    rw [hturn.shifts.closed_iff, ih, or_assoc]
    simp [or_and_right, exists_or]

/-- A client is alive if and only if the schema has been found and it was not closed. -/
theorem Lived.isAlive_iff (h : Lived client Meanwhile first records session) (hfirst : first.phase = .created) :
    session.phase.isAlive = true ↔
      (∃ check ∈ records, check.op = .checkSchema ∧ check.failure = none) ∧ ∀ record ∈ records, record.op ≠ .close := by
  induction h with
  | start => simp [hfirst, Phase.isAlive]
  | @op records record session _ after phase h _ hturn _ ih =>
    have hcheck : (∃ check ∈ records ++ [record], check.op = .checkSchema ∧ check.failure = none) ↔
        (∃ check ∈ records, check.op = .checkSchema ∧ check.failure = none) ∨ record.op = .checkSchema ∧ record.failure = none := by
      simp [or_and_right, exists_or]
    rw [hcheck, List.forall_mem_append, List.forall_mem_singleton]
    by_cases hclosed : session.phase = .closed
    · have hclose : ¬∀ record ∈ records, record.op ≠ .close := by
        intro hnone
        rcases h.closed_iff.mp hclosed with hbefore | ⟨record, hmem, hop⟩
        · exact nomatch hfirst.symm.trans hbefore
        · exact hnone record hmem hop
      have hphase : phase = .closed := hturn.shifts.closed_iff.mpr (.inl hclosed)
      simp [hphase, hclose, Phase.isAlive]
    · have hnone : ∀ record ∈ records, record.op ≠ .close := by
        intro record hmem hop
        exact hclosed (h.closed_iff.mpr (.inr ⟨record, hmem, hop⟩))
      rw [hturn.shifts.isAlive_iff hclosed, ih, and_iff_left hnone, and_iff_right hnone]

/-- A client is active if and only if it has started up and did not rest since, nor was it closed. -/
theorem Lived.active_iff (h : Lived client Meanwhile first records session) (hfirst : first.phase = .created) :
    session.phase = .active statements ↔ ∃ earlier record later, records = earlier ++ record :: later ∧
      client.dialect.Opens statements record.calls ∧ ∀ next ∈ later, next.op ≠ .passivate ∧ next.op ≠ .close := by
  induction h with
  | start => simp [hfirst]
  | @op records record session _ after phase h _ hturn _ ih =>
    rw [hturn.active_iff, ih]
    constructor
    · rintro (⟨⟨earlier, opened, later, rfl, hopens, hlater⟩, hother⟩ | hopens)
      · refine ⟨earlier, opened, later ++ [record], by simp, hopens, ?_⟩
        exact List.forall_mem_append.mpr ⟨hlater, List.forall_mem_singleton.mpr hother⟩
      · exact ⟨records, record, [], rfl, hopens, List.forall_mem_nil _⟩
    · rintro ⟨earlier, opened, later, hsplit, hopens, hlater⟩
      rcases split_concat hsplit with ⟨-, rfl⟩ | ⟨more, rfl, hrecords⟩
      · exact .inr hopens
      · obtain ⟨hmore, hother⟩ := List.forall_mem_append.mp hlater
        exact .inl ⟨⟨earlier, opened, more, hrecords, hopens, hmore⟩, hother record List.mem_cons_self⟩

/-- No life leads back. -/
theorem Lived.stage_le (h : Lived client Meanwhile first records session) : first.phase.stage ≤ session.phase.stage := by
  induction h with
  | start => exact Nat.le_refl _
  | op _ _ hturn _ ih => exact Nat.le_trans ih hturn.shifts.stage_le

/-- Once it is closed, a client stays so, and no operation that can fail succeeds. -/
theorem Lived.of_closed (h : Lived client Meanwhile first records session) (hfirst : first.phase = .closed) :
    session.phase = .closed ∧
      ∀ record ∈ records, record.calls = [] ∧ (record.op = .checkSchema ∨ record.op.IsOnRows → record.failure ≠ none) := by
  induction h with
  | start => exact ⟨hfirst, List.forall_mem_nil _⟩
  | op _ _ hturn _ ih =>
    obtain ⟨hclosed, hrecords⟩ := ih
    refine ⟨hturn.shifts.closed_iff.mpr (.inl hclosed), List.forall_mem_append.mpr ⟨hrecords, List.forall_mem_singleton.mpr ?_⟩⟩
    rw [hclosed] at hturn
    exact hturn.of_closed

end

open RelationalClient in
/-- What the phase of a client tells of its whole life so far, whatever it was asked for and whatever its connection has
answered. It is alive if and only if a check of the schema has succeeded and it was not closed. An operation on rows that
puts no bytes tells that it is not ready if and only if it is not alive, and then does nothing at all. It is active if and
only if an operation has started it up and it did not rest since, nor was it closed. Once it has left one of the first two
phases it does not come back. Once it is closed it stays closed, asks its connection for nothing, and none of its operations
succeeds. Reading and writing of bodies, which are kept in files and not in the database, is none of these operations: it
does not look at the phase, so a client that is closed does it like any other. -/
theorem phase_over_life {κ : Type} [SqlConnection κ] (client : RelationalClient) (connection : κ) (steps : List (ClientStep κ)) :
    let lived := fun steps : List (ClientStep κ) => client.live steps ⟨⟨connection, .created⟩, {}⟩
    let records := (lived steps).1
    let phase := (lived steps).2.phase
    (phase.isAlive = true ↔
      (∃ check ∈ records, check.op = .checkSchema ∧ check.failure = none) ∧ ∀ record ∈ records, record.op ≠ .close) ∧
    (∀ op : ClientOp, op.IsOnRows → ¬op.PutsBytes → ∀ (inner : κ) (journal : Journal),
      let watched : Logged (Session (Traced κ)) := ⟨⟨⟨inner, []⟩, phase⟩, journal⟩
      let done := (op.run client).run watched
      ((∃ e, done.1 = some (.storage e) ∧ e.code = .notReady) ↔ phase.isAlive = false) ∧
        (phase.isAlive = false → done.2.state = watched.state) ∧
        (done.1 = none → ∃ statements, done.2.state.phase = .active statements)) ∧
    (∀ statements, phase = .active statements ↔ ∃ earlier record later, records = earlier ++ record :: later ∧
      client.dialect.Opens statements record.calls ∧ ∀ next ∈ later, next.op ≠ .passivate ∧ next.op ≠ .close) ∧
    (∀ first middle last, steps = first ++ middle ++ last → ∀ early, early = .created ∨ early = .schemaChecked →
      (lived first).2.phase = early → (lived (first ++ middle)).2.phase ≠ early → phase ≠ early) ∧
    (phase = .closed → ∀ (inner : κ) (journal : Journal) (more : List (ClientStep κ)),
      let later := client.live more ⟨⟨inner, phase⟩, journal⟩
      later.2.phase = .closed ∧
        (∀ record ∈ later.1, record.calls = [] ∧ (record.op = .checkSchema ∨ record.op.IsOnRows → record.failure ≠ none)) ∧
        (client.validate.run ⟨⟨inner, phase⟩, journal⟩).1 = false ∧
        ∀ space table criteria, ∃ e, find space table criteria = .error e) := by
  intro lived records phase
  have hlives : ∀ (steps : List (ClientStep κ)) (s : Logged (Session κ)),
      Lived client (fun _ _ => True) s.state (client.live steps s).1 (client.live steps s).2 :=
    fun steps s => lived_live client s fun _ _ _ => trivial
  have hlived := hlives steps ⟨⟨connection, .created⟩, {}⟩
  refine ⟨hlived.isAlive_iff rfl, ?onRows, fun statements => hlived.active_iff rfl, ?early, ?closed⟩
  case onRows =>
    intro op hop hbytes inner journal watched done
    obtain ⟨calls, after, hturn, hsince⟩ := (run_turn client op watched.state phase).of_run (since_start watched.state)
    obtain ⟨e, hdone, hcomes⟩ := hturn.comes hop
    rw [show done.1 = e.map .storage from hdone, hsince.phase, ← hcomes.notReady_iff hbytes]
    refine ⟨by simp, ?_, ?_⟩
    · intro hnotReady
      obtain ⟨rfl, rfl, -⟩ := hcomes.of_not_isAlive ((hcomes.notReady_iff hbytes).mp hnotReady)
      exact hsince.eq_origin
    · intro hnone
      obtain rfl : e = none := Option.map_eq_none_iff.mp hnone
      exact hcomes.active_of_none
  case early =>
    rintro first middle last rfl early hearly hfirst hmiddle hphase
    -- The phases come in stages, and the one between is at no other stage than those before and after.
    obtain ⟨journal, hmore⟩ := exists_live_append client first middle ⟨⟨connection, .created⟩, {}⟩
    obtain ⟨journal', hmore'⟩ := exists_live_append client (first ++ middle) last ⟨⟨connection, .created⟩, {}⟩
    have hbefore := (hlives middle ⟨(lived first).2, journal⟩).stage_le
    have hafter := (hlives last ⟨(lived (first ++ middle)).2, journal'⟩).stage_le
    rw [← hmore] at hbefore
    rw [← hmore'] at hafter
    exact hmiddle (Phase.eq_of_stage_eq hearly (Nat.le_antisymm (hphase ▸ hafter) (hfirst ▸ hbefore)))
  case closed =>
    intro hclosed inner journal more
    rw [hclosed]
    obtain ⟨hlater, hrecords⟩ := (hlives more ⟨⟨inner, .closed⟩, journal⟩).of_closed rfl
    exact ⟨hlater, hrecords, rfl, fun _ _ _ => ⟨_, rfl⟩⟩

/-- A client that takes any connection that works for one with the schema. -/
def trustingClient : RelationalClient :=
  { TripleTable.client with
    dialect := ⟨"trusting", Std.ExtTreeMap.ofList ((Template.checkSchema.name, "select 1") :: TripleTable.rowStatements)⟩ }

/-- A client that is found active has on record that the schema was found and that it was started up. Once it is closed, it
is not ready for a row. -/
theorem phase_over_life_of_trusting :
    let made : Logged (Session TripleTable) := ⟨⟨{}, .created⟩, {}⟩
    let records := (trustingClient.live [⟨.checkSchema, id⟩, ⟨.activate, id⟩] made).1
    let after := (trustingClient.live [⟨.checkSchema, id⟩, ⟨.activate, id⟩, ⟨.close, id⟩] made).2.phase
    let watched : Logged (Session (Traced TripleTable)) := ⟨⟨⟨{}, []⟩, after⟩, {}⟩
    (∃ check ∈ records, check.op = .checkSchema ∧ check.failure = none) ∧
      (∃ record ∈ records, trustingClient.dialect.Opens ⟨0, 1, 2, 3, 4⟩ record.calls) ∧
      ∃ e, ((ClientOp.get ⟨"ns", "tab", "doc"⟩).run trustingClient |>.run watched).1 = some (.storage e) ∧ e.code = .notReady := by
  intro made records after watched
  have hactive : (trustingClient.live [⟨.checkSchema, id⟩, ⟨.activate, id⟩] made).2.phase = .active ⟨0, 1, 2, 3, 4⟩ := by
    decide +kernel
  have hclose : ClientOp.close ∈ (trustingClient.live [⟨.checkSchema, id⟩, ⟨.activate, id⟩, ⟨.close, id⟩] made).1.map (·.op) := by
    rw [map_op_live]
    simp
  obtain ⟨halive, -, hstarted, -⟩ := phase_over_life trustingClient ({} : TripleTable) [⟨.checkSchema, id⟩, ⟨.activate, id⟩]
  obtain ⟨halive', hready, -⟩ :=
    phase_over_life trustingClient ({} : TripleTable) [⟨.checkSchema, id⟩, ⟨.activate, id⟩, ⟨.close, id⟩]
  have hidle : after.isAlive = false := by
    obtain ⟨record, hmem, hop⟩ := List.mem_map.mp hclose
    exact Bool.eq_false_iff.mpr fun h => (halive'.mp h).2 record hmem hop
  refine ⟨(halive.mp (hactive ▸ rfl)).1, ?_, (hready (.get ⟨"ns", "tab", "doc"⟩) trivial id {} {}).1.mpr hidle⟩
  obtain ⟨earlier, record, later, hsplit, hopens, -⟩ := (hstarted _).mp hactive
  have hmem : record ∈ earlier ++ record :: later := List.mem_append_right _ List.mem_cons_self
  rw [← hsplit] at hmem
  exact ⟨record, hmem, hopens⟩

end SparseRows
