import SparseRows.Proofs.Relational.Course

/-!
# Cleaning up that cannot fail

A connection can be hushed: it releases statements and closes as it would anyway, but does not tell if that has failed.
Every operation of a client ends with a hushed connection as it does without, in the same phase and with the same connection
(`run_alike`). So no failure to clean up is ever of any consequence but for a log line.
-/

namespace SparseRows

/-- A connection that does not tell of failures to release statements or to close. -/
structure Hushed (κ : Type) where
  inner : κ

namespace Hushed

variable {κ α : Type}

/-- Passes a call on. -/
def pass (request : Call κ α) : Call (Hushed κ) α :=
  request.within Hushed.inner fun _ inner => ⟨inner⟩

/-- Passes a call on and takes it to have succeeded. -/
def hush (request : Call κ Unit) : Call (Hushed κ) Unit := fun connection =>
  (.ok (), ⟨(request.run connection.inner).2⟩)

instance [SqlConnection κ] : SqlConnection (Hushed κ) where
  product := pass SqlConnection.product
  execute sql := pass (SqlConnection.execute sql)
  prepare sql := pass (SqlConnection.prepare sql)
  query handle params := pass (SqlConnection.query handle params)
  update handle params := pass (SqlConnection.update handle params)
  release := hush SqlConnection.release
  close := hush SqlConnection.close

end Hushed

/-- A session with its connection hushed. -/
def Session.hushed {κ : Type} (session : Session κ) : Session (Hushed κ) :=
  ⟨⟨session.connection⟩, session.phase⟩

/-- A step gives the same with a connection as with one that is hushed, and makes the same of them. -/
structure Step.Alike {κ α : Type} (step : Step (Session κ) α) (hushed : Step (Session (Hushed κ)) α) : Prop where
  run : ∀ session, ∃ a after, step.Gives session a after ∧ hushed.Gives session.hushed a after.hushed

namespace Step.Alike

variable {κ α β : Type} {step : Step (Session κ) α} {hushed : Step (Session (Hushed κ)) α}

theorem pure {a : α} : Alike (Pure.pure a : Step (Session κ) α) (Pure.pure a) :=
  ⟨fun session => ⟨a, session, .pure, .pure⟩⟩

theorem log {logger : Logger} {severity : Severity} {event : Event} {fields : List (String × String)} :
    Alike (SparseRows.log logger severity event fields : Step (Session κ) Unit) (SparseRows.log logger severity event fields) :=
  ⟨fun session => ⟨(), session, .log, .log⟩⟩

/-- Steps are alike one after the other. -/
theorem bind {f : α → Step (Session κ) β} {g : α → Step (Session (Hushed κ)) β} (h : Alike step hushed)
    (h' : ∀ a, Alike (f a) (g a)) : Alike (step >>= f) (hushed >>= g) := by
  refine ⟨fun session => ?_⟩
  obtain ⟨a, next, hgives, hhushed⟩ := h.run session
  obtain ⟨b, after, hgives', hhushed'⟩ := (h' a).run next
  exact ⟨b, after, .bind hgives hgives', .bind hhushed hhushed'⟩

theorem map {g : α → β} (h : Alike step hushed) : Alike (g <$> step) (g <$> hushed) := by
  refine ⟨fun session => ?_⟩
  obtain ⟨a, after, hgives, hhushed⟩ := h.run session
  exact ⟨g a, after, hgives.map g, hhushed.map g⟩

/-- Steps may go by the phase, which is the same. -/
theorem bind_currentState {f : Session κ → Step (Session κ) β} {g : Session (Hushed κ) → Step (Session (Hushed κ)) β}
    (h : ∀ session, Alike (f session) (g session.hushed)) : Alike (currentState >>= f) (currentState >>= g) := by
  refine ⟨fun session => ?_⟩
  obtain ⟨b, after, hgives, hhushed⟩ := (h session).run session
  exact ⟨b, after, .bind .currentState hgives, .bind .currentState hhushed⟩

/-- What is alike for each element of a list is so for all of them. -/
theorem forM {γ : Type} {f : γ → Step (Session κ) PUnit} {g : γ → Step (Session (Hushed κ)) PUnit} (h : ∀ a, Alike (f a) (g a))
    (list : List γ) : Alike (list.forM f) (list.forM g) := by
  induction list with
  | nil => exact pure
  | cons a list ih => exact bind (h a) fun _ => ih

end Step.Alike

/-- An action ends alike with a connection and with one that is hushed. -/
def Action.Alike {κ ε α : Type} (action : Action (Session κ) ε α) (hushed : Action (Session (Hushed κ)) ε α) : Prop :=
  Step.Alike action.attempt hushed.attempt

namespace Action.Alike

variable {κ ε α β : Type} {action : Action (Session κ) ε α} {hushed : Action (Session (Hushed κ)) ε α}

theorem pure {a : α} : Action.Alike (Pure.pure a : Action (Session κ) ε α) (Pure.pure a) :=
  Step.Alike.pure

theorem throw {e : ε} : Action.Alike (MonadExcept.throw e : Action (Session κ) ε α) (MonadExcept.throw e) :=
  Step.Alike.pure

theorem ofExcept {result : Except ε α} : Action.Alike (Action.ofExcept result : Action (Session κ) ε α) (Action.ofExcept result) :=
  Step.Alike.pure

theorem liftExcept {result : Except ε α} : Action.Alike (liftM result : Action (Session κ) ε α) (liftM result) :=
  Step.Alike.pure

theorem toAction {step : Step (Session κ) α} {hushed : Step (Session (Hushed κ)) α} (h : step.Alike hushed) :
    Action.Alike (step.toAction : Action (Session κ) ε α) hushed.toAction :=
  h.map

theorem log {logger : Logger} {severity : Severity} {event : Event} {fields : List (String × String)} :
    Action.Alike (SparseRows.log logger severity event fields : Action (Session κ) ε Unit)
      (SparseRows.log logger severity event fields) :=
  ⟨fun session => ⟨.ok (), session, Action.Gives.log, Action.Gives.log⟩⟩

/-- Actions are alike one after the other. -/
theorem bind {f : α → Action (Session κ) ε β} {g : α → Action (Session (Hushed κ)) ε β} (h : action.Alike hushed)
    (h' : ∀ a, (f a).Alike (g a)) : Action.Alike (action >>= f) (hushed >>= g) := by
  refine ⟨fun session => ?_⟩
  obtain ⟨result, next, hgives, hhushed⟩ := h.run session
  cases result with
  | error e => exact ⟨.error e, next, Action.Gives.bind_error hgives, Action.Gives.bind_error hhushed⟩
  | ok a =>
    obtain ⟨result, after, hgives', hhushed'⟩ := (h' a).run next
    exact ⟨result, after, Action.Gives.bind hgives hgives', Action.Gives.bind hhushed hhushed'⟩

/-- Work that looks at the state is alike if it is alike for each session and the session hushed. -/
theorem bind_currentState {f : Session κ → Action (Session κ) ε β} {g : Session (Hushed κ) → Action (Session (Hushed κ)) ε β}
    (h : ∀ session, (f session).Alike (g session.hushed)) : Action.Alike (currentState >>= f) (currentState >>= g) := by
  refine ⟨fun session => ?_⟩
  obtain ⟨result, after, hgives, hhushed⟩ := (h session).run session
  exact ⟨result, after, Action.Gives.bind .currentState hgives, Action.Gives.bind .currentState hhushed⟩

theorem forM {γ : Type} {f : γ → Action (Session κ) ε PUnit} {g : γ → Action (Session (Hushed κ)) ε PUnit}
    (h : ∀ a, (f a).Alike (g a)) (list : List γ) : Action.Alike (list.forM f) (list.forM g) := by
  induction list with
  | nil => exact pure
  | cons a list ih => exact bind (h a) fun _ => ih

end Action.Alike

namespace RelationalClient

variable {κ α : Type}

/-! ## Calls -/

/-- A call that is passed on is alike. -/
theorem call_alike (request : Call κ α) : Step.Alike (call request) (call (Hushed.pass request)) :=
  ⟨fun session =>
    ⟨(request.run session.connection).1, { session with connection := (request.run session.connection).2 },
      .bind .currentState (.bind .setState .pure), .bind .currentState (.bind .setState .pure)⟩⟩

/-- Cleaning up comes to the same whether it has failed or not. -/
theorem cleanUp_alike (client : RelationalClient) (resource : String) (request : Call κ Unit) :
    Step.Alike (call request >>= client.noteCleanup resource) (call (Hushed.hush request) >>= client.noteCleanup resource) := by
  refine ⟨fun session => ⟨(), { session with connection := (request.run session.connection).2 }, ?_, ?_⟩⟩
  · refine .bind (a := (request.run session.connection).1) (.bind .currentState (.bind .setState .pure)) ?_
    cases (request.run session.connection).1 with
    | ok _ => exact .pure
    | error e => exact .log
  · exact .bind (.bind .currentState (.bind .setState .pure)) .pure

/-- Going on to another phase is alike, since the connection has no part in it. -/
theorem enter_alike (phase : Phase) : Step.Alike (enter phase : Step (Session κ) Unit) (enter phase) :=
  ⟨fun session => ⟨(), { session with phase }, .bind .currentState .setState, .bind .currentState .setState⟩⟩

variable (client : RelationalClient)

/-- A call for a row operation is alike, since its failure is passed on as it is. -/
theorem perform_alike (operation : String) (key : RowKey) (request : Call κ α) :
    Action.Alike (client.perform operation key request) (client.perform operation key (Hushed.pass request)) := by
  refine .bind (.toAction (call_alike request)) fun answer => ?_
  cases answer with
  | ok a => exact .pure
  | error e => exact .bind .log fun _ => .throw

variable [SqlConnection κ]

/-- Releasing statements is alike: what is not told of it is only logged. -/
theorem release_alike : Step.Alike (client.release : Step (Session κ) Unit) client.release :=
  cleanUp_alike client "prepared statements" SqlConnection.release

/-! ## Operations -/

/-- Checking the schema is alike. -/
theorem checkSchema_alike : Action.Alike (client.checkSchema : Action (Session κ) PoolError Unit) client.checkSchema := by
  have hnote : Step.Alike (noteSchema : Step (Session κ) Unit) noteSchema := .bind_currentState fun session => enter_alike _
  have hexecute : ∀ sql, Step.Alike (call (SqlConnection.execute sql : Call κ Bool)) (call (SqlConnection.execute sql)) :=
    fun sql => call_alike _
  have hitem : ∀ resource item,
      Step.Alike (client.runItem resource item : Step (Session κ) Unit) (client.runItem resource item) := by
    intro resource item
    cases item with
    | comment line text => exact .log
    | statement line sql =>
      refine .bind (hexecute sql) fun answer => ?_
      cases answer <;> exact .log
  have hbootstrap : ∀ cause, Action.Alike (client.bootstrap cause : Action (Session κ) PoolError Unit)
      (client.bootstrap cause) := by
    intro cause
    unfold bootstrap
    cases client.registry.script? client.candidates with
    | none => exact .bind .log fun _ => .throw
    | some found => exact .bind (.toAction (.forM (hitem found.1) _)) fun _ => .bind .log fun _ => .toAction hnote
  refine .bind_currentState fun session => ?_
  dsimp only [Session.hushed]
  split
  · exact .throw
  · split
    · exact hbootstrap none
    · refine .bind (.toAction (hexecute _)) fun answer => ?_
      match answer with
      | .ok true => exact .toAction hnote
      | .ok false => exact hbootstrap none
      | .error e => exact .bind .log fun _ => hbootstrap (some e)

/-- Starting up is alike, also where it breaks off and releases what it has prepared. -/
theorem startUp_alike : Action.Alike (client.startUp : Action (Session κ) StorageError Statements) client.startUp := by
  have hprepare : ∀ template, Action.Alike (client.prepare template : Action (Session κ) StorageError Nat)
      (client.prepare template) := by
    intro template
    refine .bind .liftExcept fun sql => .bind (.toAction (call_alike _)) fun answer => ?_
    cases answer with
    | ok handle => exact .pure
    | error e => exact .throw
  have hprepareAll : Action.Alike (client.prepareAll : Action (Session κ) StorageError Statements) client.prepareAll :=
    .bind (hprepare _) fun _ => .bind (hprepare _) fun _ => .bind (hprepare _) fun _ => .bind (hprepare _) fun _ =>
      .bind (hprepare _) fun _ => .pure
  refine .bind_currentState fun session => ?_
  dsimp only [Session.hushed]
  cases session.phase with
  | active statements => exact .pure
  | created | closed => exact .throw
  | schemaChecked | passive =>
    refine .bind (.toAction hprepareAll) fun result => ?_
    cases result with
    | error e => exact .bind (.toAction client.release_alike) fun _ => .throw
    | ok statements => exact .bind (.toAction (enter_alike _)) fun _ => .bind .log fun _ => .pure

/-- Letting a client rest is alike. -/
theorem passivate_alike : Step.Alike (client.passivate : Step (Session κ) Unit) client.passivate := by
  refine .bind_currentState fun session => ?_
  dsimp only [Session.hushed]
  cases session.phase with
  | active statements => exact .bind client.release_alike fun _ => .bind (enter_alike _) fun _ => .log
  | created | schemaChecked | passive | closed => exact .pure

/-- Closing a client is alike, since it is closed whether its connection says so or not. -/
theorem close_alike : Step.Alike (client.close : Step (Session κ) Unit) client.close := by
  refine .bind_currentState fun session => ?_
  dsimp only [Session.hushed]
  split
  · refine .bind client.passivate_alike fun _ => ?_
    rw [← bind_assoc, ← bind_assoc]
    exact .bind (cleanUp_alike client "connection" SqlConnection.close) fun _ => .bind (enter_alike _) fun _ => .log
  · exact .pure

/-- Validating a connection is alike. -/
theorem validate_alike : Step.Alike (client.validate : Step (Session κ) Bool) client.validate := by
  refine .bind_currentState fun session => ?_
  dsimp only [Session.hushed]
  split
  · exact .pure
  · split
    · exact .bind .log fun _ => .pure
    · refine .bind (call_alike _) fun answer => ?_
      cases answer with
      | ok _ => exact .pure
      | error e => exact .bind .log fun _ => .pure

/-- Saving a column is alike. -/
theorem saveColumn_alike (statements : Statements) (key : RowKey) (saved : String × Option String) :
    Action.Alike (client.saveColumn statements key saved : Action (Session κ) StorageError Unit)
      (client.saveColumn statements key saved) := by
  obtain ⟨column, text⟩ := saved
  cases text with
  | none => exact .bind (client.perform_alike ..) fun _ => .log
  | some text =>
    refine .bind (client.perform_alike ..) fun updated => ?_
    dsimp only
    split
    · exact .log
    · refine .bind (client.perform_alike ..) fun inserted => ?_
      split
      · exact .bind .throw fun _ => .log
      · exact .log

/-- An operation ends the same with a connection as with one that is hushed, in the same phase. -/
theorem run_alike (op : ClientOp) : Step.Alike (op.run client : Step (Session κ) (Option ClientFailure)) (op.run client) := by
  cases op with
  | checkSchema => exact client.checkSchema_alike.map
  | activate => exact (Action.Alike.bind client.startUp_alike fun _ => .pure : Step.Alike _ _).map
  | passivate => exact client.passivate_alike.map
  | validate => exact client.validate_alike.map
  | get key =>
    exact (Action.Alike.bind client.startUp_alike fun _ => .bind (client.perform_alike ..) fun _ => .pure : Step.Alike _ _).map
  | insert key changes =>
    exact (Action.Alike.bind .ofExcept fun texts => .bind client.startUp_alike fun statements =>
      .forM (client.saveColumn_alike statements key) texts : Step.Alike _ _).map
  | remove key =>
    exact (Action.Alike.bind client.startUp_alike fun _ => .bind (client.perform_alike ..) fun _ => .log : Step.Alike _ _).map
  | close => exact client.close_alike.map

end RelationalClient

end SparseRows
