import SparseRows.Proofs.Lists
import SparseRows.Proofs.Relational.Outcomes

/-!
# Lives of clients

What is on record of a client that is asked for one operation after the other, while others may change its connection in
between. Each record is a turn of the client, from the phase that the turn before has led to (`Lived`), and what holds over
a life is shown by induction over its turns.
-/

namespace SparseRows

/-- An operation of a client, and what others make of its connection before, which may be one to a shared database. -/
structure ClientStep (κ : Type) where
  op : ClientOp
  meanwhile : κ → κ := id

/-- What is on record of an operation: the calls that it has made, with their answers, and its failure, if it has failed. -/
structure OpRecord where
  op : ClientOp
  calls : List Seen
  failure : Option ClientFailure

/-- The calls of some operations, in order. -/
def OpRecord.allCalls (records : List OpRecord) : List Seen :=
  records.flatMap OpRecord.calls

namespace RelationalClient

variable {κ : Type} [SqlConnection κ] (client : RelationalClient)

/-- Goes through operations of a client one after the other, and gives the record of each and the session at the end. -/
def live : List (ClientStep κ) → Logged (Session κ) → List OpRecord × Session κ
  | [], s => ([], s.state)
  | step :: steps, s =>
    let watched : Session (Traced κ) := ⟨⟨step.meanwhile s.state.connection, []⟩, s.state.phase⟩
    let (failure, after) := (step.op.run client).run ⟨watched, s.journal⟩
    let (records, last) := live steps ⟨⟨after.state.connection.inner, after.state.phase⟩, after.journal⟩
    (⟨step.op, after.state.connection.calls, failure⟩ :: records, last)

/-- The record of the life of a client that has just been made for a connection. In the end it is dropped, which closes it. -/
def life (connection : κ) (steps : List (ClientStep κ)) (meanwhile : κ → κ) : List OpRecord :=
  (client.live (steps ++ [⟨.close, meanwhile⟩]) ⟨⟨connection, .created⟩, {}⟩).1

end RelationalClient

/-- The record of operations of a client from the first session to this one. Others may have made of its connection what
they may in between. -/
inductive Lived {κ : Type} [SqlConnection κ] (client : RelationalClient) (Meanwhile : κ → κ → Prop) (first : Session κ) :
    List OpRecord → Session κ → Prop
  | start : Lived client Meanwhile first [] first
  | op {records : List OpRecord} {record : OpRecord} {session : Session κ} {before after : κ} {phase : Phase}
      (h : Lived client Meanwhile first records session) (hmeanwhile : Meanwhile session.connection before)
      (hturn : client.Turn session.phase record.op record.calls record.failure phase)
      (hanswered : Answered before record.calls after) :
      Lived client Meanwhile first (records ++ [record]) ⟨after, phase⟩

section

variable {κ : Type} [SqlConnection κ] {client : RelationalClient} {Meanwhile : κ → κ → Prop} {first session : Session κ}
  {records : List OpRecord} {steps : List (ClientStep κ)} {s : Logged (Session κ)}

/-- Going through operations adds a record for each. -/
theorem Lived.live (h : Lived client Meanwhile first records s.state)
    (hmeanwhile : ∀ step ∈ steps, ∀ connection, Meanwhile connection (step.meanwhile connection)) :
    Lived client Meanwhile first (records ++ (client.live steps s).1) (client.live steps s).2 := by
  induction steps generalizing s records with
  | nil => simpa [RelationalClient.live] using h
  | cons step steps ih =>
    let watched : Logged (Session (Traced κ)) := ⟨⟨⟨step.meanwhile s.state.connection, []⟩, s.state.phase⟩, s.journal⟩
    let done := (step.op.run client).run watched
    let next : Session κ := ⟨done.2.state.connection.inner, done.2.state.phase⟩
    obtain ⟨calls, phase, hturn, hsince⟩ := (client.run_turn step.op watched.state s.state.phase).of_run (since_start watched.state)
    have hmade : Made (step.meanwhile s.state.connection) calls phase done.2.state := hsince.made
    have hnext : Lived client Meanwhile first (records ++ [⟨step.op, done.2.state.connection.calls, done.1⟩]) next := by
      rw [show next = ⟨done.2.state.connection.inner, phase⟩ from congrArg _ hmade.phase, hmade.noted]
      exact .op h (hmeanwhile step List.mem_cons_self _) hturn hmade.answered
    have hrest := ih (s := ⟨next, done.2.journal⟩) hnext fun later hlater => hmeanwhile later (List.mem_cons_of_mem _ hlater)
    rwa [List.append_assoc, List.singleton_append] at hrest

/-- What is on record of operations is such a record. -/
theorem lived_live (client : RelationalClient) (s : Logged (Session κ))
    (hmeanwhile : ∀ step ∈ steps, ∀ connection, Meanwhile connection (step.meanwhile connection)) :
    Lived client Meanwhile s.state (client.live steps s).1 (client.live steps s).2 :=
  Lived.live .start hmeanwhile

/-- What was on record at each time is such a record, too. -/
theorem Lived.split (h : Lived client Meanwhile first records session) {earlier later : List OpRecord} {record : OpRecord}
    (hsplit : records = earlier ++ record :: later) :
    ∃ session before after phase, Lived client Meanwhile first earlier session ∧ Meanwhile session.connection before ∧
      client.Turn session.phase record.op record.calls record.failure phase ∧ Answered before record.calls after := by
  induction h generalizing later with
  | start => simp at hsplit
  | @op records last session before after phase h hmeanwhile hturn hanswered ih =>
    rcases split_concat hsplit with ⟨rfl, rfl⟩ | ⟨more, -, hbefore⟩
    · exact ⟨session, before, after, phase, h, hmeanwhile, hturn, hanswered⟩
    · exact ih hbefore

/-- There is a record of each operation. -/
theorem map_op_live (client : RelationalClient) (steps : List (ClientStep κ)) (s : Logged (Session κ)) :
    (client.live steps s).1.map (·.op) = steps.map (·.op) := by
  induction steps generalizing s with
  | nil => rfl
  | cons step steps ih => exact congrArg (step.op :: ·) (ih _)

/-- Going through more operations goes on from where the client is. -/
theorem exists_live_append (client : RelationalClient) (steps more : List (ClientStep κ)) (s : Logged (Session κ)) :
    ∃ journal, (client.live (steps ++ more) s).2 = (client.live more ⟨(client.live steps s).2, journal⟩).2 := by
  induction steps generalizing s with
  | nil => exact ⟨s.journal, rfl⟩
  | cons step steps ih => exact ih _

end

end SparseRows
