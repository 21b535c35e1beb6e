import SparseRows.Proofs.Relational.TripleDriver
import SparseRows.Sql.Recorded

/-!
# Drivers whose calls may fail

Any call of such a driver may fail, at any time and as often as it likes, but a call that fails leaves the triples and the
handles alone. A faithful driver on whose calls rules are put that let some of them fail is one
(`Recorded.driver_failsCleanly`).
-/

namespace SparseRows

variable {κ δ : Type}

/-- The answer of a statement that has not done what it is for: it failed, or it was to insert a triple and has inserted
none. -/
def Template.Misses (template : Template) (answer : Except DriverError Nat) : Prop :=
  (∃ e, answer = .error e) ∨ template = insertColumn ∧ answer = .ok 0

/-- The driver runs the row statements of a dialect on the bag of triples, but for calls that fail, and these have no effect. -/
structure Driver.FailsCleanly [SqlConnection κ] (driver : Driver κ δ) (dialect : Dialect) : Prop where
  /-- The statement of a row template is prepared, or refused. -/
  prepare {template : Template} (h : template ∈ Template.ofRows) :
    ∃ sql, dialect.sql template = .ok sql ∧ ∀ connection, driver.Usable connection →
      ∃ answer after, (SqlConnection.prepare sql : Call κ Nat).run connection = (answer, after) ∧
        driver.Keeps connection after ∧ driver.bag after = driver.bag connection ∧
        ∀ handle, answer = .ok handle → driver.Runs after handle template
  /-- An update has its effect and tells its reach, or it says that it has none. -/
  update {connection : κ} {handle : Nat} {template : Template} {params : List String} {reached : Nat} {bag : Bag}
    (h : driver.Usable connection) (hruns : driver.Runs connection handle template)
    (heffect : template.effect params (driver.bag connection) = some (reached, bag)) :
    ∃ answer after, (SqlConnection.update handle params : Call κ Nat).run connection = (answer, after) ∧
      driver.Keeps connection after ∧
      (answer = .ok reached ∧ driver.bag after = bag ∨ template.Misses answer ∧ driver.bag after = driver.bag connection)
  /-- Whether the statements can be released or not, the connection remains in order. -/
  release {connection : κ} (h : driver.Usable connection) :
    ∃ answer after, (SqlConnection.release : Call κ Unit).run connection = (answer, after) ∧ driver.Usable after ∧
      driver.bag after = driver.bag connection
  /-- The statement that overwrites is not the one that inserts. -/
  apart {connection : κ} {handle : Nat} (h : driver.Runs connection handle .updateColumn) :
    ¬driver.Runs connection handle .insertColumn

namespace Recorded

/-- Whether all rules let calls fail. -/
def OnlyFails (connection : Recorded κ) : Prop :=
  ∀ rule ∈ connection.rules, ∃ e, rule.outcome = .fails e

/-- Recorded connections see the database as the connections do that they pass calls on to. -/
def driver (inner : Driver κ δ) : Driver (Recorded κ) δ where
  attach connection database := { connection with inner := inner.attach connection.inner database }
  database connection := inner.database connection.inner
  triples := inner.triples
  Usable connection := inner.Usable connection.inner ∧ connection.OnlyFails
  Runs connection := inner.Runs connection.inner

/-- A recorded call fails by a rule, or it is passed on. -/
theorem record_pass_run {α : Type} (call : SqlCall) (ofCount : Nat → Option α) {request : Call κ α} {connection : Recorded κ}
    (hrules : connection.OnlyFails) {result : Except DriverError α} {after : κ}
    (hrun : request.run connection.inner = (result, after)) :
    let calls := connection.calls ++ [call]
    (∃ e, (record call ofCount (pass request)).run connection = (.error e, { connection with calls })) ∨
      (record call ofCount (pass request)).run connection = (result, { connection with inner := after, calls }) := by
  intro calls
  have hget : (get : Call (Recorded κ) (Recorded κ)).run connection = (.ok connection, connection) := rfl
  have hset : (set { connection with calls } : Call (Recorded κ) PUnit).run connection = (.ok (), { connection with calls }) := rfl
  have hpass : (pass request).run { connection with calls } = (result, { connection with inner := after, calls }) := by
    have hmade : (pass request).run { connection with calls } =
        ((request.run connection.inner).1, { connection with inner := (request.run connection.inner).2, calls }) := rfl
    rw [hmade, hrun]
  unfold record
  rw [Call.run_bind_ok hget, Call.run_bind_ok hset]
  cases hrule : connection.rules.find? (·.covers call.kind (connection.count call.kind + 1)) with
  | none => exact .inr hpass
  | some rule =>
    obtain ⟨e, he⟩ := hrules rule (List.mem_of_find?_eq_some hrule)
    obtain ⟨kind, place, outcome⟩ := rule
    obtain rfl : outcome = .fails e := he
    exact .inl ⟨e, rfl⟩

variable [SqlConnection κ] {inner : Driver κ δ} {dialect : Dialect}

/-- With rules that let calls fail, a faithful driver fails cleanly. -/
theorem driver_failsCleanly (h : inner.Faithful dialect)
    (hapart : ∀ connection handle, inner.Runs connection handle .updateColumn → ¬inner.Runs connection handle .insertColumn) :
    (driver inner).FailsCleanly dialect where
  prepare := by
    intro template htemplate
    obtain ⟨sql, hsql, hprepare⟩ := h.prepare htemplate
    refine ⟨sql, hsql, fun connection husable => ?_⟩
    obtain ⟨handle, after, hrun, hruns, hkeeps, hbag⟩ := hprepare connection.inner husable.1
    rcases record_pass_run (.prepare sql) (fun _ => none) husable.2 hrun with ⟨e, hfails⟩ | hpasses
    · exact ⟨.error e, _, hfails, ⟨husable, fun hruns => hruns⟩, rfl, fun _ heq => nomatch heq⟩
    · refine ⟨.ok handle, _, hpasses, ⟨⟨hkeeps.usable, husable.2⟩, hkeeps.runs⟩, hbag, ?_⟩
      rintro _ ⟨⟩
      exact hruns
  update := by
    intro connection handle template params reached bag husable hruns heffect
    obtain ⟨after, hrun, hkeeps, hbag⟩ := h.update husable.1 hruns heffect
    rcases record_pass_run (.update handle params) some husable.2 hrun with ⟨e, hfails⟩ | hpasses
    · exact ⟨.error e, _, hfails, ⟨husable, fun hruns => hruns⟩, .inr ⟨.inl ⟨e, rfl⟩, rfl⟩⟩
    · exact ⟨.ok reached, _, hpasses, ⟨⟨hkeeps.usable, husable.2⟩, hkeeps.runs⟩, .inl ⟨rfl, hbag⟩⟩
  release := by
    intro connection husable
    obtain ⟨after, hrun, hafter, hbag⟩ := h.release husable.1
    rcases record_pass_run .release (fun _ => none) husable.2 hrun with ⟨e, hfails⟩ | hpasses
    · exact ⟨.error e, _, hfails, husable, rfl⟩
    · exact ⟨.ok (), _, hpasses, ⟨hafter, husable.2⟩, hbag⟩
  apart := hapart _ _

end Recorded

namespace TripleTable

/-- The table of triples tells the statement that overwrites from the one that inserts. -/
theorem apart {table : TripleTable} {handle : Nat} (h : driver.Runs table handle .updateColumn) :
    ¬driver.Runs table handle .insertColumn := by
  rintro ⟨sql, hsql, hword⟩
  obtain ⟨sql', hsql', hword'⟩ := h
  obtain rfl := Option.some.inj (hsql.symm.trans hsql')
  exact absurd (hword.symm.trans hword') (by decide)

/-- With rules that let calls fail, the table of triples fails cleanly. -/
theorem recorded_failsCleanly : (Recorded.driver driver).FailsCleanly dialect :=
  Recorded.driver_failsCleanly (driver_faithful dialect_speaks) fun _ _ => apart

end TripleTable

end SparseRows
