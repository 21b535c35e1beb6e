import SparseRows.Proofs.Relational.EmbeddedStatements
import SparseRows.Proofs.Relational.Liveness
import SparseRows.Sql.Engine

/-!
# The protocol between a client and its connection

What the calls of a relational client are like over its whole life, from the time it is made until it is dropped, which
closes it. It asks for statements only after the schema was found, runs each by the handle that was given for it last,
releases what it has prepared before it prepares again or closes, and closes once. All of it follows from what a move does:
`Stands` ties the calls so far to the phase, every move keeps it (`Stands.move`), and so does every course and every life.
-/

namespace SparseRows

open ClientOp

/-! ## The protocol -/

/-- A handle is good for a template: it was given for it when all row statements were prepared, and no statement has been
prepared, released or lost by closing since. -/
def Dialect.IsCurrent (dialect : Dialect) (calls : List Seen) (template : Template) (handle : Nat) : Prop :=
  ∃ (before series work : List Seen) (statements : Statements), calls = before ++ series ++ work ∧
    dialect.Prepares Template.ofRows statements.handles series ∧ (∀ call ∈ work, call.isWork = true) ∧
    statements.handle? template = some handle

/-- Calls that leave nothing prepared: statements that are executed, and rounds in which row statements are prepared and
released. The round ends at once if one of them cannot be prepared; otherwise statements are run in it. -/
inductive Orderly (dialect : Dialect) : List Seen → Prop
  | nil : Orderly dialect []
  | execute {calls : List Seen} {sql : String} {answer : Except DriverError Bool} (h : Orderly dialect calls) :
      Orderly dialect (calls ++ [.execute sql answer])
  | brokenOff {calls series : List Seen} {answer : Except DriverError Unit} (h : Orderly dialect calls)
      (hseries : dialect.BreaksOff series) : Orderly dialect (calls ++ (series ++ [.release answer]))
  | used {calls series work : List Seen} {statements : Statements} {answer : Except DriverError Unit} (h : Orderly dialect calls)
      (hseries : dialect.Prepares Template.ofRows statements.handles series) (hwork : ∀ call ∈ work, call.isWork = true) :
      Orderly dialect (calls ++ series ++ work ++ [.release answer])

/-- The record of a life keeps the protocol. -/
structure KeepsProtocol (client : RelationalClient) (records : List OpRecord) : Prop where
  /-- No statement is prepared or run by a handle before a check of the schema has succeeded. -/
  schemaFirst : ∀ earlier record later, records = earlier ++ record :: later →
    ∀ call ∈ record.calls, call.isPrepare = true ∨ call.handle? ≠ none →
      ∃ check ∈ earlier, check.op = .checkSchema ∧ check.failure = none
  /-- A statement that is run by a handle is the one for what the operation needs, and the handle is good. -/
  ownHandle : ∀ earlier record later, records = earlier ++ record :: later →
    ∀ done call rest handle, record.calls = done ++ call :: rest → call.handle? = some handle →
      ∃ template, Needs client record.op done call template ∧
        client.dialect.IsCurrent (OpRecord.allCalls earlier ++ done) template handle
  /-- What is prepared is released before more is prepared and before the connection is closed. This happens once, at the
  end. -/
  closedLast : ∃ calls answer, OpRecord.allCalls records = calls ++ [.close answer] ∧ Orderly client.dialect calls ∧
    ∀ call ∈ calls, call.isClose = false

/-! ## What moves keep -/

/-- What the calls so far are like in each phase. Only an active client has statements that are not released. -/
def Stands (dialect : Dialect) : Phase → List Seen → Prop
  | .active statements, calls =>
    ∃ before series work, calls = before ++ series ++ work ∧ Orderly dialect before ∧
      dialect.Prepares Template.ofRows statements.handles series ∧ ∀ call ∈ work, call.isWork = true
  | .closed, calls => ∃ before answer, calls = before ++ [.close answer] ∧ Orderly dialect before
  | .created, calls | .schemaChecked, calls | .passive, calls => Orderly dialect calls

variable {client : RelationalClient} {op : ClientOp} {done calls new : List Seen} {start phase phase' : Phase}

/-- In a phase in which nothing is prepared the calls are orderly. -/
theorem Stands.orderly (h : Stands client.dialect phase calls) (hopen : phase ≠ .closed)
    (hidle : ∀ statements, phase ≠ .active statements) : Orderly client.dialect calls := by
  cases phase with
  | created | schemaChecked | passive => exact h
  | active statements => exact absurd rfl (hidle statements)
  | closed => exact absurd rfl hopen

/-- A client at rest has left nothing prepared. -/
theorem Stands.orderly_of_rest (h : Stands client.dialect phase calls) (hrest : phase = .schemaChecked ∨ phase = .passive) :
    Orderly client.dialect calls := by
  rcases hrest with rfl | rfl <;> exact h

/-- More work of an active client. -/
theorem Stands.work {statements : Statements} (h : Stands client.dialect (.active statements) calls) {call : Seen}
    (hcall : call.isWork = true) : Stands client.dialect (.active statements) (calls ++ [call]) := by
  obtain ⟨before, series, work, rfl, hbefore, hseries, hwork⟩ := h
  refine ⟨before, series, work ++ [call], by rw [List.append_assoc _ work], hbefore, hseries, ?_⟩
  exact List.forall_mem_append.mpr ⟨hwork, List.forall_mem_singleton.mpr hcall⟩

/-- What a client does with its connection fits the phase that it comes to. -/
theorem Stands.move (h : Stands client.dialect phase calls) (hmove : Move client op done phase new phase') :
    Stands client.dialect phase' (calls ++ new) := by
  cases hmove with
  | execute hopen =>
    cases phase with
    | created | schemaChecked | passive => exact .execute h
    | active statements => exact h.work rfl
    | closed => exact absurd rfl hopen
  | startUp hrest hcalls => exact ⟨calls, new, [], by rw [List.append_nil], h.orderly_of_rest hrest, hcalls, List.forall_mem_nil _⟩
  | breakOff hrest hcalls =>
    rcases hrest with rfl | rfl
    · exact .brokenOff h hcalls
    · exact .brokenOff h hcalls
  | ask hneeds hcall hhandle => exact h.work (Seen.isWork_of_handle? hcall)
  | release =>
    obtain ⟨before, series, work, rfl, hbefore, hseries, hwork⟩ := h
    exact .used hbefore hseries hwork
  | close hopen hidle => exact ⟨calls, _, rfl, h.orderly hopen hidle⟩

/-- So a course leads from one standing to another. -/
theorem Stands.course (h : Stands client.dialect start calls) (hcourse : Course client op start done phase) :
    Stands client.dialect phase (calls ++ done) := by
  induction hcourse with
  | start => rwa [List.append_nil]
  | move _ hmove ih =>
    rw [← List.append_assoc]
    exact ih.move hmove

/-- Finding the schema asks for nothing. -/
theorem Stands.finish {failure : Option ClientFailure} (h : Stands client.dialect phase calls) :
    Stands client.dialect (op.finish failure phase) calls := by
  unfold ClientOp.finish
  split
  · cases phase <;> exact h
  · exact h

/-- An active client has the handles that are good. -/
theorem Stands.isCurrent {statements : Statements} (h : Stands client.dialect (.active statements) calls) {template : Template}
    {handle : Nat} (hhandle : statements.handle? template = some handle) : client.dialect.IsCurrent calls template handle := by
  obtain ⟨before, series, work, heq, -, hseries, hwork⟩ := h
  exact ⟨before, series, work, statements, heq, hseries, hwork, hhandle⟩

/-- A call by a handle is the only one of a move of an active client, and by the handle for what is needed. -/
theorem ClientOp.Move.ask_of_handle? (h : Move client op done phase new phase') {call : Seen} (hmem : call ∈ new) {handle : Nat}
    (hcall : call.handle? = some handle) :
    new = [call] ∧ ∃ statements template, phase = .active statements ∧ Needs client op done call template ∧
      statements.handle? template = some handle := by
  cases h with
  | execute _ =>
    rw [List.mem_singleton.mp hmem] at hcall
    cases hcall
  | startUp _ hcalls =>
    rw [Seen.handle?_of_isPrepare (hcalls.isPrepare call hmem)] at hcall
    cases hcall
  | breakOff _ hcalls =>
    rcases List.mem_append.mp hmem with hmem | hmem
    · rw [Seen.handle?_of_isPrepare (hcalls.isPrepare call hmem)] at hcall
      cases hcall
    · rw [List.mem_singleton.mp hmem] at hcall
      cases hcall
  | ask hneeds hother hhandle =>
    obtain rfl := List.mem_singleton.mp hmem
    rw [hother] at hcall
    exact ⟨rfl, _, _, rfl, hneeds, hcall ▸ hhandle⟩
  | release =>
    rw [List.mem_singleton.mp hmem] at hcall
    cases hcall
  | close _ _ =>
    rw [List.mem_singleton.mp hmem] at hcall
    cases hcall

/-- In a course, a call by a handle is for what the operation needs then, and the handle is good. -/
theorem Stands.ownHandle (h : Stands client.dialect start calls) (hcourse : Course client op start done phase)
    {earlier rest : List Seen} {call : Seen} {handle : Nat} (hsplit : done = earlier ++ call :: rest)
    (hcall : call.handle? = some handle) :
    ∃ template, Needs client op earlier call template ∧ client.dialect.IsCurrent (calls ++ earlier) template handle := by
  induction hcourse generalizing rest with
  | start => simp at hsplit
  | @move done new phase phase' hdone hmove ih =>
    -- A call of the last move is looked at here; of those before it the induction speaks.
    have hnow : call ∈ new → earlier = done →
        ∃ template, Needs client op earlier call template ∧ client.dialect.IsCurrent (calls ++ earlier) template handle := by
      rintro hmem rfl
      obtain ⟨-, statements, template, rfl, hneeds, hhandle⟩ := hmove.ask_of_handle? hmem hcall
      exact ⟨template, hneeds, (h.course hdone).isCurrent hhandle⟩
    rcases List.append_eq_append_iff.mp hsplit with ⟨more, hearlier, hnew⟩ | ⟨more, hbefore, hrest⟩
    · have hmem : call ∈ new := hnew ▸ List.mem_append_right _ List.mem_cons_self
      have hlength := congrArg List.length hnew
      rw [(hmove.ask_of_handle? hmem hcall).1, List.length_append, List.length_cons, List.length_cons, List.length_nil] at hlength
      obtain rfl : more = [] := List.eq_nil_of_length_eq_zero (by omega)
      exact hnow hmem (by rw [hearlier, List.append_nil])
    · cases more with
      | nil =>
        rw [List.nil_append] at hrest
        exact hnow (hrest ▸ List.mem_cons_self) (by rw [hbefore, List.append_nil])
      | cons first more =>
        obtain ⟨rfl, -⟩ := List.cons.inj hrest
        exact ih hbefore

/-! ## What a client that is alive has done -/

/-- A client that comes to be alive by a course was alive before. -/
theorem ClientOp.Course.isAlive (h : Course client op start done phase) (halive : phase.isAlive = true) : start.isAlive = true := by
  induction h with
  | start => exact halive
  | move _ hmove ih =>
    cases hmove with
    | execute _ => exact ih halive
    | startUp hrest _ => exact ih (by rcases hrest with rfl | rfl <;> rfl)
    | breakOff _ _ => exact ih halive
    | ask _ _ _ => exact ih halive
    | release => exact ih rfl
    | close _ _ => cases halive

/-- So was one that prepares a statement or runs one by a handle. -/
theorem ClientOp.Course.isAlive_of_mem (h : Course client op start done phase) {call : Seen} (hmem : call ∈ done)
    (hcall : call.isPrepare = true ∨ call.handle? ≠ none) : start.isAlive = true := by
  induction h with
  | start => cases hmem
  | move hdone hmove ih =>
    rcases List.mem_append.mp hmem with hmem | hmem
    · exact ih hmem
    · refine hdone.isAlive ?_
      cases hmove with
      | startUp hrest _ | breakOff hrest _ => rcases hrest with rfl | rfl <;> rfl
      | ask _ _ _ | release => rfl
      | execute _ | close _ _ =>
        rw [List.mem_singleton.mp hmem] at hcall
        exact absurd hcall (by simp [Seen.isPrepare, Seen.handle?])

/-! ## Whole lives -/

section

variable {κ : Type} [SqlConnection κ] {Meanwhile : κ → κ → Prop} {first session : Session κ} {records : List OpRecord}

/-- The calls on record fit the phase. -/
theorem Lived.stands (h : Lived client Meanwhile first records session) (hfirst : first.phase = .created) :
    Stands client.dialect session.phase (OpRecord.allCalls records) := by
  induction h with
  | start =>
    rw [hfirst]
    exact .nil
  | op _ _ hturn _ ih =>
    obtain ⟨last, hcourse, rfl⟩ := hturn.course
    rw [OpRecord.allCalls, List.flatMap_append, List.flatMap_singleton]
    exact (ih.course hcourse).finish

/-- Orderly calls do not close the connection. -/
theorem Orderly.isClose_eq_false {dialect : Dialect} (h : Orderly dialect calls) : ∀ call ∈ calls, call.isClose = false := by
  induction h with
  | nil => exact List.forall_mem_nil _
  | execute _ ih => exact List.forall_mem_append.mpr ⟨ih, List.forall_mem_singleton.mpr rfl⟩
  | brokenOff _ hseries ih =>
    have hprepare := fun call hmem => Seen.isClose_of_isPrepare (hseries.isPrepare call hmem)
    exact List.forall_mem_append.mpr ⟨ih, List.forall_mem_append.mpr ⟨hprepare, List.forall_mem_singleton.mpr rfl⟩⟩
  | used _ hseries hwork ih =>
    have hprepare := fun call hmem => Seen.isClose_of_isPrepare (hseries.isPrepare call hmem)
    have hrun := fun call hmem => Seen.isClose_of_isWork (hwork call hmem)
    have hused := List.forall_mem_append.mpr ⟨List.forall_mem_append.mpr ⟨ih, hprepare⟩, hrun⟩
    exact List.forall_mem_append.mpr ⟨hused, List.forall_mem_singleton.mpr rfl⟩

/-- The record of a client that is closed keeps the protocol. -/
theorem Lived.keepsProtocol (h : Lived client Meanwhile first records session) (hfirst : first.phase = .created)
    (hclosed : session.phase = .closed) : KeepsProtocol client records where
  schemaFirst earlier record later hsplit call hmem hcall := by
    obtain ⟨inner, before, after, phase, hearlier, -, hturn, -⟩ := h.split hsplit
    obtain ⟨last, hcourse, -⟩ := hturn.course
    exact ((hearlier.isAlive_iff hfirst).mp (hcourse.isAlive_of_mem hmem hcall)).1
  ownHandle earlier record later hsplit done call rest handle hcalls hcall := by
    obtain ⟨inner, before, after, phase, hearlier, -, hturn, -⟩ := h.split hsplit
    obtain ⟨last, hcourse, -⟩ := hturn.course
    exact (hearlier.stands hfirst).ownHandle hcourse hcalls hcall
  closedLast := by
    have hstands := h.stands hfirst
    rw [hclosed] at hstands
    obtain ⟨calls, answer, hcalls, horderly⟩ := hstands
    exact ⟨calls, answer, hcalls, horderly, horderly.isClose_eq_false⟩

/-- A whole life is such a record, and ends with the client closed. -/
theorem lived_life (Meanwhile : κ → κ → Prop) (client : RelationalClient) (connection : κ) (steps : List (ClientStep κ))
    (meanwhile : κ → κ)
    (hmeanwhile : ∀ step ∈ steps ++ [⟨.close, meanwhile⟩], ∀ connection, Meanwhile connection (step.meanwhile connection)) :
    ∃ session, Lived client Meanwhile ⟨connection, .created⟩ (client.life connection steps meanwhile) session ∧
      session.phase = .closed := by
  have hlived := lived_live client ⟨⟨connection, .created⟩, {}⟩ hmeanwhile
  have hclose : ClientOp.close ∈ (client.life connection steps meanwhile).map (·.op) := by
    rw [RelationalClient.life, map_op_live, List.map_append]
    exact List.mem_append_right _ List.mem_cons_self
  obtain ⟨record, hmem, hop⟩ := List.mem_map.mp hclose
  exact ⟨_, hlived, hlived.closed_iff.mpr (.inr ⟨record, hmem, hop⟩)⟩

end

/-! ## Handles that are held -/

/-- What is held after later calls is what they leave of what was held before. -/
theorem held_append (calls later : List Seen) : held (calls ++ later) = later.foldl Seen.keep (held calls) :=
  List.foldl_append

/-- Preparing statements adds their handles to those that are held. -/
theorem Dialect.Prepares.foldl_keep {dialect : Dialect} {templates : List Template} {handles : List Nat}
    (h : dialect.Prepares templates handles calls) (earlier : List Nat) : calls.foldl Seen.keep earlier = earlier ++ handles := by
  induction h with
  | nil => exact (List.append_nil _).symm
  | snoc _ _ ih =>
    rw [List.foldl_append, ih, ← List.append_assoc]
    rfl

/-- Running statements leaves the handles held. -/
theorem foldl_keep_of_isWork (h : ∀ call ∈ calls, call.isWork = true) (handles : List Nat) :
    calls.foldl Seen.keep handles = handles := by
  induction calls with
  | nil => rfl
  | cons call calls ih =>
    have hcall := h call List.mem_cons_self
    rw [List.foldl_cons]
    cases call with
    | execute | query | update => exact ih fun other hmem => h other (List.mem_cons_of_mem _ hmem)
    | product | prepare | release | close => cases hcall

/-- The handle of a template is one of those that were given. -/
theorem Statements.mem_handles {statements : Statements} {template : Template} {handle : Nat}
    (h : statements.handle? template = some handle) : handle ∈ statements.handles := by
  cases template with
  | deleteRow | selectRow | insertColumn | updateColumn | removeColumn =>
    obtain rfl := Option.some.inj h
    simp [Statements.handles]
  | checkSchema | validate => cases h

/-- A handle that is good is held. -/
theorem Dialect.IsCurrent.mem_held {dialect : Dialect} {template : Template} {handle : Nat}
    (h : dialect.IsCurrent calls template handle) : handle ∈ held calls := by
  obtain ⟨before, series, work, statements, rfl, hseries, hwork, hhandle⟩ := h
  rw [held_append, foldl_keep_of_isWork hwork, held_append, hseries.foldl_keep]
  exact List.mem_append_right _ (Statements.mem_handles hhandle)

namespace Sql.Embedded

variable {ω δ : Type} {connection inner after : Embedded ω δ}

/-- What others may make of a connection to an embedded database: whatever they do to the files, its statements are its own. -/
def Meanwhile (connection after : Embedded ω δ) : Prop :=
  after.statements = connection.statements

variable [Library ω δ]

/-- A connection knows the handles that are held after the calls that it has answered. -/
theorem Knows.answered (h : connection.Knows (held calls)) (hanswered : Answered connection done after) :
    after.Knows (held (calls ++ done)) := by
  induction hanswered with
  | none => rwa [List.append_nil]
  | call _ hcall ih =>
    rw [← List.append_assoc, held_append]
    exact ih.keep hcall

variable {records : List OpRecord}

/-- A connection knows the handles that its client holds. -/
theorem knows_of_lived {first session : Session (Embedded ω δ)} (h : Lived client Meanwhile first records session) :
    session.connection.Knows (held (OpRecord.allCalls records)) := by
  induction h with
  | start => exact List.forall_mem_nil _
  | op _ hmeanwhile _ hanswered ih =>
    rw [OpRecord.allCalls, List.flatMap_append, List.flatMap_singleton]
    exact (ih.congr hmeanwhile).answered hanswered

/-- No operation of a client fails because its connection does not know a handle. -/
theorem cause_ne_unknown {first session : Session (Embedded ω δ)} (h : Lived client Meanwhile first records session)
    (hfirst : first.phase = .created) {record : OpRecord} (hmem : record ∈ records) {failure : ClientFailure}
    (hfailure : record.failure = some failure) (handle : Nat) : failure.cause ≠ some (.driver (.unknownStatement handle)) := by
  intro hcause
  obtain ⟨earlier, later, hsplit⟩ := List.append_of_mem hmem
  obtain ⟨now, before, after, phase, hearlier, hmeanwhile, hturn, hanswered⟩ := h.split hsplit
  obtain ⟨last, hcourse, -⟩ := hturn.course
  rw [hfailure] at hturn
  obtain ⟨call, hcall, hunknown⟩ := hturn.blamed _ hcause
  obtain ⟨done, rest, hcalls⟩ := List.append_of_mem hcall
  rw [hcalls] at hanswered
  obtain ⟨asked, next, hbefore, hhappens⟩ := hanswered.split
  obtain ⟨used, hused, hbeyond⟩ := handle_of_unknown hhappens hunknown
  -- The call goes by a handle that is good, so it is one that is held, and all of these are known.
  obtain ⟨template, -, hcurrent⟩ := (hearlier.stands hfirst).ownHandle hcourse hcalls hused
  have hknows : asked.Knows (held (OpRecord.allCalls earlier ++ done)) :=
    ((knows_of_lived hearlier).congr hmeanwhile).answered hbefore
  have hlt := hknows used hcurrent.mem_held
  omega

end Sql.Embedded

/-- The calls of a client keep the protocol over its whole life, whatever it is asked for and whatever its connection
answers: for every dialect and every type of connections, each call of which may fail at will. So it never fails because a
connection to an embedded database does not know a handle: for every dialect and every library, each piece of whose work may
fail at will and leave the database and the files in any state, and even if others change both in between. -/
theorem life_keepsProtocol :
    (∀ {κ : Type} [SqlConnection κ] (client : RelationalClient) (connection : κ) (steps : List (ClientStep κ)) (meanwhile : κ → κ),
      KeepsProtocol client (client.life connection steps meanwhile)) ∧
    ∀ {ω δ : Type} [Sql.Library ω δ] (client : RelationalClient) (connection : Sql.Embedded ω δ)
      (steps : List (ClientStep (Sql.Embedded ω δ))) (meanwhile : Sql.Embedded ω δ → Sql.Embedded ω δ),
      (∀ step ∈ steps ++ [⟨.close, meanwhile⟩], ∀ connection, (step.meanwhile connection).statements = connection.statements) →
        ∀ record ∈ client.life connection steps meanwhile, ∀ failure, record.failure = some failure →
          ∀ handle, failure.cause ≠ some (.driver (.unknownStatement handle)) := by
  constructor
  · intro κ _ client connection steps meanwhile
    obtain ⟨session, hlived, hclosed⟩ := lived_life (fun _ _ => True) client connection steps meanwhile fun _ _ _ => trivial
    exact hlived.keepsProtocol rfl hclosed
  · intro ω δ _ client connection steps meanwhile hmeanwhile record hmem failure hfailure handle
    obtain ⟨session, hlived, -⟩ := lived_life Sql.Embedded.Meanwhile client connection steps meanwhile hmeanwhile
    exact Sql.Embedded.cause_ne_unknown hlived rfl hmem hfailure handle

/-- The record of such a client of an empty database, which is asked for a row. There is no table to prepare statements for. -/
def recordOfTrusting : List OpRecord :=
  trustingClient.life ({} : Sql.EngineConnection) [⟨.checkSchema, id⟩, ⟨.get ⟨"ns", "content", "/p"⟩, id⟩] id

/-- Such a client of a database without a table is refused its statements, which is told, but not as a handle unknown. -/
theorem life_keepsProtocol_of_trusting :
    KeepsProtocol trustingClient recordOfTrusting ∧ ∃ record ∈ recordOfTrusting, ∃ failure, record.failure = some failure ∧
      failure.cause.isSome = true ∧ ∀ handle, failure.cause ≠ some (.driver (.unknownStatement handle)) := by
  let steps : List (ClientStep Sql.EngineConnection) := [⟨.checkSchema, id⟩, ⟨.get ⟨"ns", "content", "/p"⟩, id⟩]
  have hmeanwhile : ∀ step ∈ steps ++ [⟨.close, id⟩], ∀ connection,
      (step.meanwhile connection).statements = connection.statements := by
    simp [steps]
  have hfailed : ∃ record ∈ recordOfTrusting, (record.failure.bind ClientFailure.cause).isSome = true := by decide +kernel
  obtain ⟨record, hmem, hsome⟩ := hfailed
  obtain ⟨cause, hbind⟩ := Option.isSome_iff_exists.mp hsome
  obtain ⟨failure, hfailure, hcause⟩ := Option.bind_eq_some_iff.mp hbind
  exact ⟨life_keepsProtocol.1 trustingClient _ _ id, record, hmem, failure, hfailure, Option.isSome_iff_exists.mpr ⟨cause, hcause⟩,
    life_keepsProtocol.2 trustingClient {} _ id hmeanwhile record hmem failure hfailure⟩

end SparseRows
