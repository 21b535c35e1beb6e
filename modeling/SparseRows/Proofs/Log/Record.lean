import SparseRows.Log.Logger
import SparseRows.Proofs.Log.Lines

/-!
# What is kept of log calls

Handles are made from one whose lines are kept, in any number of steps, and are called in any order. Each call that is grave
enough for its handle leaves one line, in the order of the calls, and the line says what was called (`lines_of_calls`).
-/

namespace SparseRows

/-- One step from a handle to another. -/
inductive LoggerStep where
  | clone
  | child (part : String)
  | threshold (severity : Severity)

namespace LoggerStep

/-- The handle that the step gives. -/
def apply (logger : Logger) : LoggerStep → Logger
  | clone => logger
  | child part => logger.child part
  | threshold severity => logger.withThreshold severity

/-- The name of a part, if the step goes to one. -/
def part? : LoggerStep → Option String
  | child part => some part
  | clone | threshold _ => none

/-- The threshold that the step sets, if it does. -/
def threshold? : LoggerStep → Option Severity
  | threshold severity => some severity
  | clone | child _ => none

end LoggerStep

/-- A call of a handle, which was made from another in some steps. -/
structure LogCall where
  steps : List LoggerStep
  severity : Severity
  event : Event
  fields : List (String × String)

namespace LogCall

/-- The handle that is called. -/
def logger (root : Logger) (call : LogCall) : Logger :=
  call.steps.foldl LoggerStep.apply root

/-- The call. -/
def perform (root : Logger) (journal : Journal) (call : LogCall) : Journal :=
  (call.logger root).log call.severity call.event call.fields journal

/-- The name of the handle's component: the names from the root on, with dots between them. -/
def component (root : String) (call : LogCall) : String :=
  ".".intercalate (root :: call.steps.filterMap LoggerStep.part?)

/-- The threshold of the handle: the last that was set, or else the one of the root. -/
def threshold (root : Severity) (call : LogCall) : Severity :=
  (call.steps.filterMap LoggerStep.threshold?).getLast?.getD root

/-- A line says about a call what there is to say, and stays one line. -/
structure RecordedAs (root : String) (call : LogCall) (line : String) : Prop where
  /-- No control character is in the line. -/
  plain : Log.IsPlain line.toList
  /-- Of the line and the line feed after it, trimming takes off the line feed. -/
  trimmed : Text.trimEnd (line.toList ++ ['\n']) = line.toList
  /-- A reader of JSON gets the event, the severity, the component and the fields in the order of their keys. -/
  decoded : ∃ sorted, Log.StablySorted call.fields sorted ∧
    Log.decode line =
      some (("event", call.event.name) :: ("severity", call.severity.text) :: ("component", call.component root) :: sorted)

/-! ## The handle -/

theorem destination_logger (root : Logger) (call : LogCall) : (call.logger root).destination = root.destination := by
  obtain ⟨steps, -⟩ := call
  simp only [logger]
  induction steps generalizing root with
  | nil => rfl
  | cons step steps ih =>
    rw [List.foldl_cons, ih]
    cases step <;> rfl

/-- A call through a derived handle is recorded under the component of that handle. -/
theorem component_logger (root : Logger) (call : LogCall) : (call.logger root).component = call.component root.component := by
  obtain ⟨steps, -⟩ := call
  simp only [logger, component]
  induction steps generalizing root with
  | nil => rfl
  | cons step steps ih =>
    rw [List.foldl_cons, ih]
    cases step <;> rfl

/-- It is held to the threshold of that handle. -/
theorem threshold_logger (root : Logger) (call : LogCall) : (call.logger root).threshold = call.threshold root.threshold := by
  obtain ⟨steps, -⟩ := call
  simp only [logger, threshold]
  induction steps generalizing root with
  | nil => rfl
  | cons step steps ih =>
    rw [List.foldl_cons, ih]
    cases step with
    | clone | child => rfl
    | threshold severity =>
      rw [List.filterMap_cons_some (by rfl), List.getLast?_cons]
      rfl

/-! ## The lines -/

/-- The line of a call. -/
def line (root : String) (call : LogCall) : String :=
  Log.renderLine call.severity call.event (call.component root) call.fields

/-- The line of a call records the call. -/
theorem recordedAs_line (root : String) (call : LogCall) : call.RecordedAs root (call.line root) where
  plain := by
    rw [line, Log.renderLine, String.toList_ofList]
    exact Log.isPlain_renderObject _
  trimmed := by
    rw [line, Log.renderLine, String.toList_ofList]
    exact Log.trimEnd_renderObject _
  decoded := ⟨_, Log.stablySorted_sortFields call.fields, Log.decode_renderObject _⟩

/-- A call leaves its line if it is grave enough. -/
theorem lines_perform (component : String) (threshold : Severity) (call : LogCall) (journal : Journal) :
    (call.perform (.memory component threshold) journal).lines.toList =
      journal.lines.toList ++ if call.threshold threshold ≤ call.severity then [call.line component] else [] := by
  have henabled : (call.logger (.memory component threshold)).enabled call.severity =
      decide (call.threshold threshold ≤ call.severity) := by
    rw [Logger.enabled, threshold_logger]
    rfl
  rw [perform, Logger.log, henabled, destination_logger, component_logger]
  by_cases hgrave : call.threshold threshold ≤ call.severity
  · rw [if_pos (decide_eq_true hgrave), if_pos hgrave]
    exact Array.toList_push ..
  · rw [if_neg (by simpa using hgrave), if_neg hgrave, List.append_nil]

/-- Calls leave the lines of those that are grave enough, in order. -/
theorem lines_performAll (component : String) (threshold : Severity) (calls : List LogCall) (journal : Journal) :
    (calls.foldl (perform (.memory component threshold)) journal).lines.toList =
      journal.lines.toList ++
        (calls.filter fun call => call.threshold threshold ≤ call.severity).map (line component) := by
  induction calls generalizing journal with
  | nil => simp
  | cons call calls ih =>
    rw [List.foldl_cons, ih, lines_perform, List.append_assoc]
    by_cases hgrave : call.threshold threshold ≤ call.severity
    · rw [if_pos hgrave, List.filter_cons_of_pos (by simpa using hgrave)]
      rfl
    · rw [if_neg hgrave, List.filter_cons_of_neg (by simpa using hgrave)]
      rfl

/-- What is kept of calls to handles that were made from one: a line for each call that is grave enough for its handle, in
the order of the calls, that tells a reader of JSON what was called. The order in which fields of different keys are given
makes no difference. -/
theorem lines_of_calls (component : String) (threshold : Severity) (calls : List LogCall) :
    List.Forall₂ (RecordedAs component) (calls.filter fun call => call.threshold threshold ≤ call.severity)
      (calls.foldl (perform (.memory component threshold)) {}).lines.toList ∧
    ∀ (root : Logger) (call : LogCall) (fields : List (String × String)), call.fields.Perm fields →
      (call.fields.map Prod.fst).Nodup → ∀ journal, perform root journal { call with fields } = perform root journal call := by
  refine ⟨?_, fun root call fields hperm hkeys journal => ?_⟩
  · rw [lines_performAll, Array.toList_empty, List.nil_append, List.forall₂_map_right_iff, List.forall₂_same]
    exact fun call _ => recordedAs_line component call
  · simp only [perform, Logger.log, Log.renderLine, Log.members, Log.sortFields_eq_of_perm hperm hkeys]
    rfl

/-- A handle for a part whose name and fields need escapes, with a field given twice, and a handle that a call is not grave
enough for; then two fields the other way round. -/
theorem lines_of_calls_of_escapes :
    let grave : LogCall :=
      ⟨[.child "a\"b\\", .threshold .warn, .clone], .error, .cleanupFailed, [("z", "1\n2"), ("k", "\u0085"), ("k", "")]⟩
    let dropped : LogCall := ⟨[.threshold .warn], .info, .rowRead, []⟩
    let plain : LogCall := ⟨[], .info, .rowRead, [("b", "1"), ("a", "2")]⟩
    let root : Logger := .memory "store" .info
    (∃ line line', ([grave, dropped, plain].foldl (perform root) {}).lines.toList = [line, line'] ∧
      grave.RecordedAs "store" line ∧ plain.RecordedAs "store" line') ∧ grave.component "store" = "store.a\"b\\" ∧
      perform root {} { plain with fields := [("a", "2"), ("b", "1")] } = perform root {} plain := by
  intro grave dropped plain root
  obtain ⟨hlines, hperm⟩ := lines_of_calls "store" .info [grave, dropped, plain]
  refine ⟨?_, rfl, hperm root plain _ (.swap ..) (by decide) {}⟩
  have hgrave : [grave, dropped, plain].filter (fun call => call.threshold .info ≤ call.severity) = [grave, plain] := rfl
  rw [hgrave] at hlines
  generalize Array.toList (Journal.lines _) = lines at hlines ⊢
  rcases hlines with _ | ⟨hfirst, _ | ⟨hsecond, _ | _⟩⟩
  exact ⟨_, _, rfl, hfirst, hsecond⟩

end LogCall

end SparseRows
