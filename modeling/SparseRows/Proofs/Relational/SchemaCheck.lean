import SparseRows.Proofs.Dialect.Statements
import SparseRows.Proofs.Relational.Traced
import SparseRows.Sql.Engine

/-!
# Checking the schema

A client that is asked to check the schema asks its connection, if the dialect says how. If the schema is not there for all
that it can tell, it executes the statements of the first script there is, one after the other, and no failure keeps it from
the next one. So it fails only if there is no script (`checkSchema_of_open`).
-/

namespace SparseRows

open Dialect

namespace Dialect.Registry

variable {registry : Registry}

/-- The first place that has a script decides. -/
theorem script?_append_cons {better worse : List String} {location script : String}
    (hbetter : ∀ other ∈ better, registry.resource? (scriptName other) = none)
    (h : registry.resource? (scriptName location) = some script) :
    registry.script? (better ++ location :: worse) = some (scriptName location, script) := by
  induction better with
  | nil => simp [script?, h]
  | cons other better ih =>
    rw [List.forall_mem_cons] at hbetter
    rw [List.cons_append, script?, List.findSome?_cons, hbetter.1]
    exact ih hbetter.2

/-- A script that is found is that of some place. -/
theorem exists_of_script?_eq_some {candidates : List String} {name script : String}
    (h : registry.script? candidates = some (name, script)) :
    ∃ location ∈ candidates, registry.resource? (scriptName location) = some script := by
  obtain ⟨location, hmem, hlocation⟩ := List.exists_of_findSome?_eq_some h
  obtain ⟨text, htext, heq⟩ := Option.map_eq_some_iff.mp hlocation
  obtain ⟨-, rfl⟩ := Prod.mk.inj heq
  exact ⟨location, hmem, htext⟩

end Dialect.Registry

/-- Calls that execute some statements, each once and in order, whatever is answered. -/
inductive Executes : List String → List Seen → Prop
  | nil : Executes [] []
  | cons {sql : String} {answer : Except DriverError Bool} {statements : List String} {calls : List Seen}
      (h : Executes statements calls) : Executes (sql :: statements) (.execute sql answer :: calls)

/-- Statements that are executed behind others are executed in a row with them. -/
theorem Executes.append {statements later : List String} {calls more : List Seen} (h : Executes statements calls)
    (h' : Executes later more) : Executes (statements ++ later) (calls ++ more) := by
  induction h with
  | nil => exact h'
  | cons _ ih => exact .cons ih

namespace RelationalClient

/-- The calls by which a client asks whether the schema is there, which is one or none, and the answer. -/
inductive Asks (client : RelationalClient) : List Seen → Option (Except DriverError Bool) → Prop
  | unasked (h : client.dialect.property? Template.checkSchema.name = none) : Asks client [] none
  | asked {sql : String} {answer : Except DriverError Bool} (h : client.dialect.property? Template.checkSchema.name = some sql) :
      Asks client [.execute sql answer] (some answer)

/-- What comes of checking the schema: the calls, the result, and the phase that the client comes to. -/
inductive Checks (client : RelationalClient) (start : Phase) : List Seen → Except PoolError Unit → Phase → Prop
  /-- A client that is closed does nothing. -/
  | closed (h : start = .closed) : Checks client start [] (.error { fault := .connectionClosed }) start
  /-- The schema is there. -/
  | found {asked : List Seen} (h : start ≠ .closed) (hasks : client.Asks asked (some (.ok true))) :
      Checks client start asked (.ok ()) start.schemaFound
  /-- The schema is set up by a script. -/
  | setUp {asked calls : List Seen} {question : Option (Except DriverError Bool)} {resource script : String} (h : start ≠ .closed)
      (hasks : client.Asks asked question) (hmissing : question ≠ some (.ok true))
      (hscript : client.registry.script? client.candidates = some (resource, script))
      (hcalls : Executes ((Script.parse script).filterMap ScriptItem.sql?) calls) :
      Checks client start (asked ++ calls) (.ok ()) start.schemaFound
  /-- There is no script. -/
  | lacking {asked : List Seen} {question : Option (Except DriverError Bool)} (h : start ≠ .closed)
      (hasks : client.Asks asked question)
      (hmissing : question ≠ some (.ok true)) (hscript : client.registry.script? client.candidates = none) :
      Checks client start asked
        (.error { fault := .noScript client.candidates, cause := (question.bind errorOf?).map .driver }) start

variable {κ : Type} [SqlConnection κ] {client : RelationalClient} {origin : Session κ} {calls : List Seen} {phase : Phase}

/-- Noting that the schema is there asks for nothing. -/
theorem noteSchema_since :
    (noteSchema : Step (Session κ) Unit).Ensures (Since origin calls phase) fun _ => Since origin calls phase.schemaFound := by
  refine .bind_currentState fun session hsince => ?_
  rw [hsince.phase]
  exact (enter_since _).weaken (fun _ h => h ▸ hsince) fun _ _ h => h

/-- A statement is executed. -/
theorem execute_since (sql : String) :
    (call (SqlConnection.execute sql) : Step (Session κ) _).Ensures (Since origin calls phase) fun answer =>
      Since origin (calls ++ [.execute sql answer]) phase :=
  call_since fun _ _ _ h => h

/-- A part of a script is executed if it is a statement. -/
theorem runItem_since (resource : String) (item : ScriptItem) :
    (client.runItem resource item : Step (Session κ) Unit).Ensures (Since origin calls phase) fun _ session =>
      ∃ more, Executes item.sql?.toList more ∧ Since origin (calls ++ more) phase session := by
  cases item with
  | comment line text => exact .weaken .log (fun _ h => h) fun _ session h => ⟨[], .nil, by rwa [List.append_nil]⟩
  | statement line sql =>
    refine .bind (execute_since sql) fun answer => ?_
    cases answer with
    | ok _ => exact .weaken .log (fun _ h => h) fun _ _ h => ⟨_, .cons .nil, h⟩
    | error e => exact .weaken .log (fun _ h => h) fun _ _ h => ⟨_, .cons .nil, h⟩

/-- The statements of a script are executed, whatever comes of each. -/
theorem runItems_since (resource : String) (items : List ScriptItem) :
    Step.Ensures (items.forM (client.runItem resource) : Step (Session κ) PUnit) (Since origin calls phase) fun _ session =>
      ∃ more, Executes (items.filterMap ScriptItem.sql?) more ∧ Since origin (calls ++ more) phase session := by
  induction items generalizing calls with
  | nil => exact .pure fun _ h => ⟨[], .nil, by rwa [List.append_nil]⟩
  | cons item items ih =>
    refine .bind (runItem_since resource item) fun _ => .of_exists fun first => .of_and fun hfirst => ?_
    refine ih.weaken (fun _ h => h) fun _ session ⟨more, hmore, hsince⟩ => ⟨first ++ more, ?_, by rwa [← List.append_assoc]⟩
    have hsplit : (item :: items).filterMap ScriptItem.sql? = item.sql?.toList ++ items.filterMap ScriptItem.sql? := by
      rw [List.filterMap_cons]
      cases item.sql? <;> rfl
    rw [hsplit]
    exact hfirst.append hmore

/-- A client that does not know of a schema sets it up by a script, unless there is none. -/
theorem bootstrap_checks {question : Option (Except DriverError Bool)} (hopen : phase ≠ .closed)
    (hasks : client.Asks calls question)
    (hmissing : question ≠ some (.ok true)) :
    (client.bootstrap (question.bind errorOf?)).Ensures (Since origin calls phase) (Outcome (client.Checks phase) origin) := by
  unfold bootstrap
  cases hscript : client.registry.script? client.candidates with
  | none => exact .bind_log (.throw fun _ h => ⟨calls, phase, .lacking hopen hasks hmissing hscript, h⟩)
  | some found =>
    refine .bind_toAction (runItems_since found.1 _) fun _ => .of_exists fun more => .of_and fun hmore => ?_
    refine .bind_log (.toAction (noteSchema_since.weaken (fun _ h => h) fun _ session h => ?_))
    exact ⟨calls ++ more, phase.schemaFound, .setUp hopen hasks hmissing hscript hmore, h⟩

/-- Whatever the connection answers, the schema is found or set up, or there is no script for it. -/
theorem checkSchema_checks (client : RelationalClient) (origin : Session κ) (start : Phase) :
    client.checkSchema.Ensures (Since origin [] start) (Outcome (client.Checks start) origin) := by
  unfold checkSchema
  refine .bind_currentState fun session hsince => ?_
  rw [hsince.phase]
  by_cases hclosed : start = .closed
  · rw [if_pos hclosed]
    exact .throw fun _ h => ⟨[], start, .closed hclosed, h ▸ hsince⟩
  · rw [if_neg hclosed]
    cases hcheck : client.dialect.property? Template.checkSchema.name with
    | none =>
      have hasks : client.Asks [] none := .unasked hcheck
      exact (bootstrap_checks hclosed hasks nofun).weaken (fun _ h => h ▸ hsince) fun _ _ h => h
    | some sql =>
      refine .bind_toAction ((execute_since sql).weaken (fun _ h => h ▸ hsince) fun _ _ h => h) fun answer => ?_
      have hasks : client.Asks [.execute sql answer] (some answer) := .asked hcheck
      match answer with
      | .ok true =>
        exact .toAction (noteSchema_since.weaken (fun _ h => h) fun _ session h => ⟨_, _, .found hclosed hasks, h⟩)
      | .ok false => exact bootstrap_checks hclosed hasks (by simp)
      | .error e => exact .bind_log (bootstrap_checks hclosed hasks (by simp))

/-- How a client that is not closed makes sure of the schema, whatever its dialect, the scripts there are and the answers of
the connection. It first asks whether the schema is there, if the dialect says how. If so, this is all. Otherwise it
executes the statements of the script at the best place that has one, each once and in order, whatever comes of them. If
there is no script, the error carries the failure of the question. A client that succeeds knows of the schema from then on,
and one that fails is in the same phase as before. -/
theorem checkSchema_of_open (client : RelationalClient) (connection : κ) {phase : Phase} (hopen : phase ≠ .closed)
    (journal : Journal) :
    let done := client.checkSchema.attempt.run ⟨⟨⟨connection, []⟩, phase⟩, journal⟩
    let after := done.2.state
    ∃ asked question more, client.Asks asked question ∧ Made connection (asked ++ more) after.phase after ∧
      (question = some (.ok true) → more = [] ∧ done.1 = .ok ()) ∧
      (question ≠ some (.ok true) → ∀ better location worse script, client.candidates = better ++ location :: worse →
        (∀ other ∈ better, client.registry.resource? (Registry.scriptName other) = none) →
        client.registry.resource? (Registry.scriptName location) = some script →
        Executes ((Script.parse script).filterMap ScriptItem.sql?) more ∧ done.1 = .ok ()) ∧
      (question ≠ some (.ok true) →
        (∀ location ∈ client.candidates, client.registry.resource? (Registry.scriptName location) = none) →
        more = [] ∧ done.1 = .error { fault := .noScript client.candidates, cause := (question.bind errorOf?).map .driver }) ∧
      (done.1 = .ok () →
        question = some (.ok true) ∨ ∃ location ∈ client.candidates,
          client.registry.resource? (Registry.scriptName location) ≠ none) ∧
      (done.1 = .ok () → after.phase = if phase = .created then .schemaChecked else phase) ∧
      ∀ e, done.1 = .error e → after.phase = phase := by
  intro done after
  have hfound : phase.schemaFound = if phase = .created then .schemaChecked else phase := by
    cases phase <;> rfl
  obtain ⟨calls, phase', hchecks, hsince⟩ :=
    (checkSchema_checks client (⟨⟨connection, []⟩, phase⟩ : Session (Traced κ)) phase).of_run
      (s := ⟨⟨⟨connection, []⟩, phase⟩, journal⟩) (since_start _)
  have hmade : Made connection calls phase' after := hsince.made
  rw [hmade.phase]
  generalize done.1 = result at hchecks ⊢
  cases hchecks with
  | closed h => exact absurd h hopen
  | found _ hasks =>
    refine ⟨calls, _, [], hasks, by rwa [List.append_nil], ?there, ?fromScript, ?withoutScript, ?succeeds, ?ready, ?fails⟩
    case there =>
      intro _
      exact ⟨rfl, rfl⟩
    case fromScript | withoutScript =>
      intro hmissing
      exact absurd rfl hmissing
    case succeeds =>
      intro _
      exact .inl rfl
    case ready =>
      intro _
      exact hfound
    case fails =>
      intro e hfails
      cases hfails
  | @setUp asked more question resource script _ hasks hmissing hscript hcalls =>
    have hsome : ∃ location ∈ client.candidates, client.registry.resource? (Registry.scriptName location) ≠ none := by
      obtain ⟨location, hmem, htext⟩ := Registry.exists_of_script?_eq_some hscript
      exact ⟨location, hmem, htext ▸ Option.some_ne_none _⟩
    refine ⟨asked, question, more, hasks, hmade, ?there, ?fromScript, ?withoutScript, ?succeeds, ?ready, ?fails⟩
    case there =>
      intro hthere
      exact absurd hthere hmissing
    case fromScript =>
      intro _ better location worse text hsplit hbetter htext
      rw [hsplit, Registry.script?_append_cons hbetter htext] at hscript
      obtain ⟨-, rfl⟩ := Prod.mk.inj (Option.some.inj hscript)
      exact ⟨hcalls, rfl⟩
    case withoutScript =>
      intro _ hnone
      obtain ⟨location, hmem, htext⟩ := hsome
      exact absurd (hnone location hmem) htext
    case succeeds =>
      intro _
      exact .inr hsome
    case ready =>
      intro _
      exact hfound
    case fails =>
      intro e hfails
      cases hfails
  | @lacking _ question _ hasks hmissing hscript =>
    refine ⟨calls, question, [], hasks, by rwa [List.append_nil], ?there, ?fromScript, ?withoutScript, ?succeeds, ?ready, ?fails⟩
    case there =>
      intro hthere
      exact absurd hthere hmissing
    case fromScript =>
      intro _ better location worse text hsplit hbetter htext
      rw [hsplit, Registry.script?_append_cons hbetter htext] at hscript
      cases hscript
    case withoutScript =>
      intro _ _
      exact ⟨rfl, rfl⟩
    case succeeds | ready =>
      intro hok
      cases hok
    case fails =>
      intro _ _
      rfl

/-- A script of two statements, the first one on two lines. -/
def twoStatements : String :=
  "create table t (\n  a);\n# the index\ncreate index i on t (a);\n"

/-- A client that cannot ask for the schema, with this script for the second of two places. -/
def scriptedClient : RelationalClient where
  registry := Registry.empty.add (Registry.scriptName "any") twoStatements
  candidates := ["any.1", "any"]
  dialect := ⟨"any", ∅⟩
  algorithm := .sha256
  bodies := ⟨"store", .discard⟩
  logger := .discard

/-- Such a client stays active when it checks the schema, and has both statements executed. -/
theorem checkSchema_of_scriptedClient :
    ∃ after : Logged (Session (Traced Sql.EngineConnection)),
      scriptedClient.checkSchema.attempt.run ⟨⟨⟨{}, []⟩, .active ⟨0, 1, 2, 3, 4⟩⟩, {}⟩ = (.ok (), after) ∧
      after.state.phase = .active ⟨0, 1, 2, 3, 4⟩ ∧
      Executes ["create table t (   a)", "create index i on t (a)"] after.state.connection.calls := by
  have hbetter : ∀ other ∈ ["any.1"], scriptedClient.registry.resource? (Registry.scriptName other) = none := by
    simp [scriptedClient, Registry.resource?, Registry.add, Registry.empty, Registry.scriptName]
  have htext : scriptedClient.registry.resource? (Registry.scriptName "any") = some twoStatements := by
    simp [scriptedClient, Registry.resource?, Registry.add]
  have hparse : (Script.parse twoStatements).filterMap ScriptItem.sql? = ["create table t (   a)", "create index i on t (a)"] := by
    decide +kernel
  have happly := checkSchema_of_open scriptedClient ({} : Sql.EngineConnection)
    (by decide : Phase.active ⟨0, 1, 2, 3, 4⟩ ≠ .closed) {}
  -- What is known of the run is enough, so it is not looked into.
  generalize (scriptedClient.checkSchema : Action (Session (Traced Sql.EngineConnection)) PoolError Unit).attempt.run _ =
    done at happly ⊢
  obtain ⟨result, after⟩ := done
  obtain ⟨asked, question, more, hasks, hmade, -, hscript, -, -, hphase, -⟩ := happly
  cases hasks with
  | asked h =>
    rw [Dialect.property?, scriptedClient, Std.ExtTreeMap.getElem?_empty] at h
    cases h
  | unasked h =>
    obtain ⟨hcalls, hok⟩ := hscript (by simp) ["any.1"] "any" [] _ rfl hbetter htext
    rw [hparse] at hcalls
    obtain rfl : result = .ok () := hok
    have hafter := hphase rfl
    rw [if_neg (by decide)] at hafter
    refine ⟨after, rfl, hafter, ?_⟩
    rw [hmade.noted]
    exact hcalls

end RelationalClient

end SparseRows
