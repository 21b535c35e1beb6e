import SparseRows.Proofs.Relational.Traced
import SparseRows.Sql.Embedded

/-!
# The prepared statements of an embedded database

A connection to an embedded database numbers its prepared statements, and keeps them until they are released. The library
behind it never sees the numbers, so whatever it does it leaves them alone (`work_leaves`). A handle is known from the call
that prepared the statement up to the next release, and the failure that a handle is not known arises from nothing else.
-/

namespace SparseRows.Sql.Embedded

variable {ω δ α : Type} {before after : Embedded ω δ}

/-- A failure of another kind than that a handle is not known. -/
def IsOther (e : DriverError) : Prop :=
  ∀ handle, e ≠ .unknownStatement handle

/-- A call has left the prepared statements as they were, and has not failed because a handle is not known. -/
structure Leaves (before : Embedded ω δ) (answer : Except DriverError α) (after : Embedded ω δ) : Prop where
  statements : after.statements = before.statements
  isOther : ∀ e, answer = .error e → IsOther e

/-- What the library does leaves the prepared statements as they are, be the connection closed or not. -/
theorem work_leaves {task : LibraryM ω δ α} {answer : Except DriverError α} (h : (work task).run before = (answer, after)) :
    Leaves before answer after := by
  obtain ⟨files, database, statements⟩ := before
  cases database with
  | none =>
    obtain ⟨rfl, rfl⟩ := Prod.mk.inj h
    refine ⟨rfl, ?_⟩
    rintro _ ⟨⟩
    exact nofun
  | some database =>
    obtain ⟨hanswer, rfl⟩ := Prod.mk.inj h
    refine ⟨rfl, ?_⟩
    intro e hfails
    -- Whatever the library fails with is a failure of its own.
    obtain ⟨e', -, rfl⟩ := mapError_eq_error (hanswer.trans hfails)
    exact nofun

/-- What runs a statement by its handle leaves the statements alone, and fails for a handle only if this one is not known. -/
theorem byHandle_run {handle : Nat} {next : String → LibraryM ω δ α} {answer : Except DriverError α}
    (h : (statement handle >>= fun sql => work (next sql)).run before = (answer, after)) :
    after.statements = before.statements ∧
      ∀ unknown, answer = .error (.unknownStatement unknown) → before.statements.length ≤ handle := by
  have hget : (MonadState.get : Call (Embedded ω δ) _).run before = (.ok before, before) := rfl
  cases hsql : before.statements[handle]? with
  | some sql =>
    have hstatement : (statement handle).run before = (.ok sql, before) := by
      rw [statement, Call.run_bind_ok hget, hsql]
      rfl
    rw [Call.run_bind_ok hstatement] at h
    have hleaves := work_leaves h
    refine ⟨hleaves.statements, ?_⟩
    intro unknown hunknown
    exact absurd rfl (hleaves.isOther _ hunknown unknown)
  | none =>
    have hstatement : (statement handle).run before = (.error (.unknownStatement handle), before) := by
      rw [statement, Call.run_bind_ok hget, hsql]
      rfl
    rw [Call.run_bind_error hstatement] at h
    cases h
    exact ⟨rfl, fun _ _ => List.getElem?_eq_none_iff.mp hsql⟩

variable [Library ω δ]

/-- Asking for the product is a piece of work. -/
theorem product_leaves {answer : Except DriverError Product}
    (h : (product : Call (Embedded ω δ) Product).run before = (answer, after)) :
    Leaves before answer after := by
  unfold product at h
  exact work_leaves h

/-- So is having a statement executed. -/
theorem execute_leaves {sql : String} {answer : Except DriverError Bool}
    (h : (execute sql : Call (Embedded ω δ) Bool).run before = (answer, after)) : Leaves before answer after :=
  work_leaves h

/-- A statement that is prepared comes to be the last one, and its handle is its place. -/
theorem prepare_run {sql : String} {answer : Except DriverError Nat}
    (h : (SqlConnection.prepare sql : Call (Embedded ω δ) Nat).run before = (answer, after)) :
    match answer with
    | .ok handle => handle = before.statements.length ∧ after.statements = before.statements ++ [sql]
    | .error e => IsOther e ∧ after.statements = before.statements := by
  cases hcompile : (work (Library.compileKept (ω := ω) (δ := δ) sql)).run before with
  | mk result next =>
    have hleaves := work_leaves hcompile
    cases result with
    | ok _ =>
      have hrun : (SqlConnection.prepare sql : Call (Embedded ω δ) Nat).run before =
          (.ok next.statements.length, { next with statements := next.statements ++ [sql] }) := Call.run_bind_ok hcompile
      rw [hrun] at h
      cases h
      exact ⟨congrArg List.length hleaves.statements, congrArg (· ++ [sql]) hleaves.statements⟩
    | error e =>
      have hrun : (SqlConnection.prepare sql : Call (Embedded ω δ) Nat).run before = (.error e, next) :=
        Call.run_bind_error hcompile
      rw [hrun] at h
      cases h
      exact ⟨hleaves.isOther e rfl, hleaves.statements⟩

/-- Releasing the statements does not fail, be the connection closed or not. -/
theorem release_run {answer : Except DriverError Unit}
    (h : (SqlConnection.release : Call (Embedded ω δ) Unit).run before = (answer, after)) :
    answer = .ok () := by
  obtain ⟨files, database, statements⟩ := before
  cases database <;> exact (Prod.mk.inj h).1.symm

/-- If closing fails, it is the library that does. -/
theorem close_run {answer : Except DriverError Unit}
    (h : (SqlConnection.close : Call (Embedded ω δ) Unit).run before = (answer, after)) :
    ∀ e, answer = .error e → IsOther e := by
  obtain ⟨files, database, statements⟩ := before
  intro e hfails
  cases database with
  | none => exact nomatch (Prod.mk.inj h).1.trans hfails
  | some database =>
    obtain ⟨e', -, rfl⟩ := mapError_eq_error ((Prod.mk.inj h).1.trans hfails)
    exact nofun

/-! ## Handles -/

/-- The statement of each handle is there. -/
def Knows (connection : Embedded ω δ) (handles : List Nat) : Prop :=
  ∀ handle ∈ handles, handle < connection.statements.length

omit [Library ω δ] in
/-- The handles hang on the statements alone. -/
theorem Knows.congr {handles : List Nat} (h : before.Knows handles) (hsame : after.statements = before.statements) :
    after.Knows handles := by
  intro handle hmem
  rw [hsame]
  exact h handle hmem

variable {call : Seen}

/-- A handle is known from the call that gives it to the next release. -/
theorem Knows.keep {handles : List Nat} (h : before.Knows handles) (hcall : call.Happens before after) :
    after.Knows (call.keep handles) := by
  cases call with
  | product answer => exact h.congr (product_leaves hcall).statements
  | execute sql answer => exact h.congr (execute_leaves hcall).statements
  | prepare sql answer =>
    have hprepare := prepare_run hcall
    cases answer with
    | ok handle =>
      -- A handle is the number of the statements before it, so the new one is in place and the old ones stay so.
      intro known hmem
      rw [hprepare.2, List.length_append, List.length_singleton]
      rcases List.mem_append.mp hmem with hmem | hmem
      · exact Nat.lt_succ_of_lt (h known hmem)
      · rw [List.mem_singleton.mp hmem, hprepare.1]
        exact Nat.lt_succ_self _
    | error e => exact h.congr hprepare.2
  | query handle params answer | update handle params answer => exact h.congr (byHandle_run hcall).1
  | release answer | close answer =>
    intro handle hmem
    cases hmem

/-- A call that fails because a handle is not known runs a statement by a handle that is not. -/
theorem handle_of_unknown {unknown : Nat} (hcall : call.Happens before after)
    (h : call.failure? = some (.unknownStatement unknown)) :
    ∃ handle, call.handle? = some handle ∧ before.statements.length ≤ handle := by
  cases call with
  | product answer => exact absurd rfl ((product_leaves hcall).isOther _ (errorOf?_eq_some.mp h) unknown)
  | execute sql answer => exact absurd rfl ((execute_leaves hcall).isOther _ (errorOf?_eq_some.mp h) unknown)
  | prepare sql answer =>
    obtain rfl : answer = .error (.unknownStatement unknown) := errorOf?_eq_some.mp h
    have hprepare := prepare_run hcall
    exact absurd rfl (hprepare.1 unknown)
  | query handle params answer | update handle params answer =>
    exact ⟨handle, rfl, (byHandle_run hcall).2 unknown (errorOf?_eq_some.mp h)⟩
  | release answer => exact nomatch (release_run hcall).symm.trans (errorOf?_eq_some.mp h)
  | close answer => exact absurd rfl (close_run hcall _ (errorOf?_eq_some.mp h) unknown)

end SparseRows.Sql.Embedded
