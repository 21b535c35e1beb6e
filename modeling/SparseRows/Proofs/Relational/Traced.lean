import Mathlib.Data.List.Induction
import SparseRows.Client.Relational
import SparseRows.Proofs.Work

/-!
# Calls as they are seen

What work asks of a connection, and what is answered, one call after the other (`Answered`). Work on a session is told by
the calls that it makes and the phase that it leads to (`Since`), whatever the type of the connection. A connection of any
type can be watched: each call is passed on and noted down with its answer, so that the calls that are noted are those that
were answered.
-/

namespace SparseRows

/-- The error that a result is. -/
def errorOf? {ε α : Type} : Except ε α → Option ε
  | .ok _ => none
  | .error e => some e

/-- A result has an error if it is one. -/
theorem errorOf?_eq_some {ε α : Type} {result : Except ε α} {e : ε} : errorOf? result = some e ↔ result = .error e := by
  cases result <;> simp [errorOf?]

/-- A value comes through as it is. -/
theorem mapError_eq_ok {ε ε' α : Type} {a : α} {g : ε → ε'} {result : Except ε α} (h : result.mapError g = .ok a) :
    result = .ok a := by
  cases result with
  | ok b =>
    cases h
    rfl
  | error e => cases h

/-- An error comes of an error. -/
theorem mapError_eq_error {ε ε' α : Type} {g : ε → ε'} {result : Except ε α} {e' : ε'} (h : result.mapError g = .error e') :
    ∃ e, result = .error e ∧ g e = e' := by
  cases result with
  | ok b => cases h
  | error e => exact ⟨e, rfl, Except.error.inj h⟩

/-- A call of a connection with its answer. -/
inductive Seen where
  | product (answer : Except DriverError Product)
  | execute (sql : String) (answer : Except DriverError Bool)
  | prepare (sql : String) (answer : Except DriverError Nat)
  | query (handle : Nat) (params : List String) (answer : Except DriverError (List (String × String)))
  | update (handle : Nat) (params : List String) (answer : Except DriverError Nat)
  | release (answer : Except DriverError Unit)
  | close (answer : Except DriverError Unit)
  deriving DecidableEq

namespace Seen

/-- The handle of the prepared statement that a call runs. -/
def handle? : Seen → Option Nat
  | query handle _ _ | update handle _ _ => some handle
  | product _ | execute _ _ | prepare _ _ | release _ | close _ => none

/-- Whether a call prepares a statement. -/
def isPrepare : Seen → Bool
  | prepare _ _ => true
  | product _ | execute _ _ | query _ _ _ | update _ _ _ | release _ | close _ => false

/-- Whether a call closes the connection. -/
def isClose : Seen → Bool
  | close _ => true
  | product _ | execute _ _ | prepare _ _ | query _ _ _ | update _ _ _ | release _ => false

/-- Whether a call runs a statement, be it a prepared one or not. -/
def isWork : Seen → Bool
  | execute _ _ | query _ _ _ | update _ _ _ => true
  | product _ | prepare _ _ | release _ | close _ => false

/-- The failure that is the answer to a call. -/
def failure? : Seen → Option DriverError
  | product answer => errorOf? answer
  | execute _ answer => errorOf? answer
  | prepare _ answer => errorOf? answer
  | query _ _ answer => errorOf? answer
  | update _ _ answer => errorOf? answer
  | release answer => errorOf? answer
  | close answer => errorOf? answer

/-- The handles of the statements that are prepared after a call, if these were before. -/
def keep (handles : List Nat) : Seen → List Nat
  | prepare _ (.ok handle) => handles ++ [handle]
  | release _ | close _ => []
  | product _ | execute _ _ | prepare _ (.error _) | query _ _ _ | update _ _ _ => handles

/-- A call that prepares a statement runs none. -/
theorem handle?_of_isPrepare {call : Seen} (h : call.isPrepare = true) : call.handle? = none := by
  cases call with
  | prepare => rfl
  | product | execute | query | update | release | close => cases h

/-- Nor does it close the connection. -/
theorem isClose_of_isPrepare {call : Seen} (h : call.isPrepare = true) : call.isClose = false := by
  cases call with
  | prepare => rfl
  | product | execute | query | update | release | close => cases h

/-- Neither does a call that runs a statement. -/
theorem isClose_of_isWork {call : Seen} (h : call.isWork = true) : call.isClose = false := by
  cases call with
  | execute | query | update => rfl
  | product | prepare | release | close => cases h

/-- A call by a handle runs a statement. -/
theorem isWork_of_handle? {call : Seen} {handle : Nat} (h : call.handle? = some handle) : call.isWork = true := by
  cases call with
  | query | update => rfl
  | product | execute | prepare | release | close => cases h

variable {κ : Type} [SqlConnection κ]

/-- A connection answers a call so, and this is what becomes of it. -/
def Happens (before after : κ) : Seen → Prop
  | product answer => (SqlConnection.product : Call κ _).run before = (answer, after)
  | execute sql answer => (SqlConnection.execute sql : Call κ _).run before = (answer, after)
  | prepare sql answer => (SqlConnection.prepare sql : Call κ _).run before = (answer, after)
  | query handle params answer => (SqlConnection.query handle params : Call κ _).run before = (answer, after)
  | update handle params answer => (SqlConnection.update handle params : Call κ _).run before = (answer, after)
  | release answer => (SqlConnection.release : Call κ _).run before = (answer, after)
  | close answer => (SqlConnection.close : Call κ _).run before = (answer, after)

end Seen

/-- The handles of the statements that are prepared after some calls, of which there were none before. -/
def held (calls : List Seen) : List Nat :=
  calls.foldl Seen.keep []

/-- A connection answers some calls so, one after the other, and this is what becomes of it. -/
inductive Answered {κ : Type} [SqlConnection κ] (start : κ) : List Seen → κ → Prop
  | none : Answered start [] start
  | call {calls : List Seen} {before after : κ} {seen : Seen} (h : Answered start calls before)
      (hcall : seen.Happens before after) :
      Answered start (calls ++ [seen]) after

namespace Answered

variable {κ : Type} [SqlConnection κ] {start after : κ} {calls later : List Seen} {seen : Seen}

/-- A connection that is asked for nothing is as it was. -/
theorem eq_start (h : Answered start [] after) : after = start := by
  generalize hcalls : ([] : List Seen) = calls at h
  cases h with
  | none => rfl
  | call _ _ => simp at hcalls

/-- The last call comes behind those before it. -/
theorem of_concat (h : Answered start (calls ++ [seen]) after) :
    ∃ before, Answered start calls before ∧ seen.Happens before after := by
  generalize hcalls : calls ++ [seen] = all at h
  cases h with
  | none => simp at hcalls
  | call h hcall =>
    obtain ⟨rfl, hlast⟩ := List.append_inj' hcalls rfl
    obtain rfl := List.singleton_inj.mp hlast
    exact ⟨_, h, hcall⟩

/-- Later calls come behind earlier ones. -/
theorem of_append (h : Answered start (calls ++ later) after) :
    ∃ between, Answered start calls between ∧ Answered between later after := by
  induction later using List.reverseRecOn generalizing after with
  | nil => exact ⟨after, List.append_nil calls ▸ h, .none⟩
  | append_singleton later seen ih =>
    rw [← List.append_assoc] at h
    obtain ⟨before, hbefore, hcall⟩ := h.of_concat
    obtain ⟨between, hcalls, hlater⟩ := ih hbefore
    exact ⟨between, hcalls, .call hlater hcall⟩

/-- Before each call, those before it are answered. -/
theorem split (h : Answered start (calls ++ seen :: later) after) :
    ∃ before next, Answered start calls before ∧ seen.Happens before next := by
  rw [List.append_cons] at h
  obtain ⟨next, hnext, -⟩ := h.of_append
  obtain ⟨before, hbefore, hcall⟩ := hnext.of_concat
  exact ⟨before, next, hbefore, hcall⟩

/-- The only call is answered at once. -/
theorem of_singleton (h : Answered start [seen] after) : seen.Happens start after := by
  rw [← List.nil_append [seen]] at h
  obtain ⟨before, hbefore, hcall⟩ := h.of_concat
  rwa [hbefore.eq_start] at hcall

/-- The first call is answered before the others. -/
theorem of_cons (h : Answered start (seen :: later) after) :
    ∃ between, seen.Happens start between ∧ Answered between later after := by
  rw [← List.singleton_append] at h
  obtain ⟨between, hfirst, hlater⟩ := h.of_append
  exact ⟨between, hfirst.of_singleton, hlater⟩

end Answered

/-- A session has made these calls since it was in some state, and is in this phase. -/
structure Since {κ : Type} [SqlConnection κ] (origin : Session κ) (calls : List Seen) (phase : Phase)
    (session : Session κ) : Prop where
  phase : session.phase = phase
  answered : Answered origin.connection calls session.connection

/-- The calls that a session has made since, how they have ended and its phase are as some relation says. -/
def Outcome {κ ρ : Type} [SqlConnection κ] (Ends : List Seen → ρ → Phase → Prop) (origin : Session κ) (result : ρ)
    (session : Session κ) : Prop :=
  ∃ calls phase, Ends calls result phase ∧ Since origin calls phase session

section

variable {κ : Type} [SqlConnection κ] {origin session : Session κ} {phase : Phase}

/-- At first, a session has made no calls. -/
theorem since_start (origin : Session κ) : Since origin [] origin.phase origin :=
  ⟨rfl, .none⟩

/-- A session that has made no calls and is in the same phase is as it was. -/
theorem Since.eq_origin (h : Since origin [] origin.phase session) : session = origin := by
  obtain ⟨connection, phase⟩ := session
  obtain ⟨rfl, hanswered⟩ := h
  obtain rfl : connection = origin.connection := hanswered.eq_start
  rfl

end

namespace RelationalClient

variable {κ : Type} [SqlConnection κ] {client : RelationalClient} {origin : Session κ} {calls : List Seen} {phase : Phase}

/-- A call comes behind those before, with its answer. -/
theorem call_since {α : Type} {request : Call κ α} {seen : Except DriverError α → Seen}
    (h : ∀ before answer after, request.run before = (answer, after) → (seen answer).Happens before after) :
    (call request).Ensures (Since origin calls phase) fun answer => Since origin (calls ++ [seen answer]) phase := by
  refine ⟨fun session hsince => ?_⟩
  refine ⟨(request.run session.connection).1, { session with connection := (request.run session.connection).2 }, ?_, ?_⟩
  · exact .bind .currentState (.bind .setState .pure)
  · exact ⟨hsince.phase, .call hsince.answered (h _ _ _ rfl)⟩

/-- Having something cleaned up is a call, whatever comes of it. -/
theorem cleanUp_since {request : Call κ Unit} {seen : Except DriverError Unit → Seen} (resource : String)
    (h : ∀ before answer after, request.run before = (answer, after) → (seen answer).Happens before after) :
    (call request >>= client.noteCleanup resource).Ensures (Since origin calls phase) fun _ session =>
      ∃ answer, Since origin (calls ++ [seen answer]) phase session := by
  refine .bind (call_since h) fun answer => ?_
  cases answer with
  | ok _ => exact .pure fun _ hsince => ⟨_, hsince⟩
  | error e => exact .weaken .log (fun _ hsince => hsince) fun _ _ hsince => ⟨_, hsince⟩

/-- Going on to another phase asks for nothing. -/
theorem enter_since (phase' : Phase) :
    (enter phase' : Step (Session κ) Unit).Ensures (Since origin calls phase) fun _ => Since origin calls phase' :=
  ⟨fun session hsince => ⟨(), { session with phase := phase' }, .bind .currentState .setState, ⟨rfl, hsince.answered⟩⟩⟩

/-- The error of an operation on a row that a connection has refused to help with. -/
def refusal (operation : String) (key : RowKey) (e : DriverError) : StorageError :=
  (StorageError.ofDriver (.operationFailed operation) e).forRow key

/-- What is done for an operation on a row is a call. If it fails, this is the cause of the error. -/
theorem perform_since {α : Type} {request : Call κ α} {seen : Except DriverError α → Seen} (operation : String) (key : RowKey)
    (h : ∀ before answer after, request.run before = (answer, after) → (seen answer).Happens before after) :
    (client.perform operation key request).Ensures (Since origin calls phase) fun result session =>
      ∃ answer, result = answer.mapError (refusal operation key) ∧ Since origin (calls ++ [seen answer]) phase session := by
  refine .bind_toAction (call_since h) fun answer => ?_
  cases answer with
  | ok a => exact .pure fun _ hsince => ⟨_, rfl, hsince⟩
  | error e => exact .bind_log (.throw fun _ hsince => ⟨_, rfl, hsince⟩)

end RelationalClient

/-! ## Watched connections -/

/-- A connection that is watched, with the calls so far. -/
structure Traced (κ : Type) where
  inner : κ
  calls : List Seen := []

namespace Traced

variable {κ α : Type}

/-- Passes a call on and notes it down. -/
def note (request : Call κ α) (seen : Except DriverError α → Seen) : Call (Traced κ) α := fun connection =>
  let (answer, inner) := request.run connection.inner
  (answer, ⟨inner, connection.calls ++ [seen answer]⟩)

instance [SqlConnection κ] : SqlConnection (Traced κ) where
  product := note SqlConnection.product .product
  execute sql := note (SqlConnection.execute sql) (.execute sql)
  prepare sql := note (SqlConnection.prepare sql) (.prepare sql)
  query handle params := note (SqlConnection.query handle params) (.query handle params)
  update handle params := note (SqlConnection.update handle params) (.update handle params)
  release := note SqlConnection.release .release
  close := note SqlConnection.close .close

variable [SqlConnection κ] {before after : Traced κ} {calls : List Seen}

/-- What a connection that is watched answers, the one behind it answers, and it is noted. -/
theorem happens_inner {seen : Seen} (h : seen.Happens before after) :
    seen.Happens before.inner after.inner ∧ after.calls = before.calls ++ [seen] := by
  cases seen with
  | product | execute | prepare | query | update | release | close =>
    cases h
    exact ⟨rfl, rfl⟩

/-- The calls that are noted are those that the connection behind has answered. -/
theorem answered_inner (h : Answered before calls after) :
    Answered before.inner calls after.inner ∧ after.calls = before.calls ++ calls := by
  induction h with
  | none => exact ⟨.none, (List.append_nil _).symm⟩
  | call _ hcall ih =>
    obtain ⟨hhappens, hnoted⟩ := happens_inner hcall
    exact ⟨.call ih.1 hhappens, by rw [hnoted, ih.2, List.append_assoc]⟩

end Traced

/-- A session has made these calls since its connection was in some state, and is in this phase. -/
structure Made {κ : Type} [SqlConnection κ] (before : κ) (calls : List Seen) (phase : Phase)
    (session : Session (Traced κ)) : Prop where
  noted : session.connection.calls = calls
  phase : session.phase = phase
  answered : Answered before calls session.connection.inner

/-- The calls of a session that is watched from the start are noted. -/
theorem Since.made {κ : Type} [SqlConnection κ] {before : κ} {start phase : Phase} {calls : List Seen}
    {session : Session (Traced κ)}
    (h : Since ⟨⟨before, []⟩, start⟩ calls phase session) : Made before calls phase session := by
  obtain ⟨hanswered, hnoted⟩ := Traced.answered_inner h.answered
  exact ⟨hnoted, h.phase, hanswered⟩

end SparseRows
