import SparseRows.Action

/-!
# What work gives

Work writes log lines, but no result and no state hangs on what has been logged. `Step.Gives` and `Action.Gives` say what work
gives and in which state it leaves what it works on, whatever is in the journal. Where the outcome is not known in full,
`Step.Ensures` and `Action.Ensures` say that work comes to an end, and which properties lead to which. Each way of putting work
together has its lemma, so that a statement about an operation is built from the statements about its parts.
-/

namespace SparseRows

variable {σ ε α β : Type} {s t u : σ}

/-- From the state `s` the step gives `a` and leaves the state `t`, whatever is in the journal. -/
structure Step.Gives (step : Step σ α) (s : σ) (a : α) (t : σ) : Prop where
  run : ∀ journal, ∃ journal', step.run ⟨s, journal⟩ = (a, ⟨t, journal'⟩)

/-- From the state `s` the action ends with `r`, be it a value or an error, and leaves the state `t`. -/
def Action.Gives (action : Action σ ε α) (s : σ) (r : Except ε α) (t : σ) : Prop :=
  Step.Gives action.attempt s r t

namespace Step.Gives

variable {step : Step σ α} {f : α → Step σ β} {a : α} {b : β}

theorem pure : Step.Gives (Pure.pure a : Step σ α) s a s :=
  ⟨fun journal => ⟨journal, rfl⟩⟩

/-- Steps follow each other. -/
theorem bind (h : step.Gives s a t) (h' : (f a).Gives t b u) : Step.Gives (step >>= f) s b u := by
  refine ⟨fun journal => ?_⟩
  obtain ⟨journal₁, h₁⟩ := h.run journal
  obtain ⟨journal₂, h₂⟩ := h'.run journal₁
  refine ⟨journal₂, ?_⟩
  rw [StateT.run_bind, h₁]
  exact h₂

theorem map (g : α → β) (h : step.Gives s a t) : Step.Gives (g <$> step) s (g a) t := by
  refine ⟨fun journal => ?_⟩
  obtain ⟨journal', h'⟩ := h.run journal
  refine ⟨journal', ?_⟩
  rw [StateT.run_map, h']
  rfl

theorem log {logger : Logger} {severity : Severity} {event : Event} {fields : List (String × String)} :
    Step.Gives (SparseRows.log logger severity event fields : Step σ Unit) s () s :=
  ⟨fun journal => ⟨logger.log severity event fields journal, rfl⟩⟩

theorem currentState : Step.Gives (SparseRows.currentState : Step σ σ) s s s :=
  ⟨fun journal => ⟨journal, rfl⟩⟩

theorem setState : Step.Gives (SparseRows.setState t : Step σ Unit) s () t :=
  ⟨fun journal => ⟨journal, rfl⟩⟩

/-- What a step gives shows in the value and the state of every run from there. -/
theorem run_eq (h : step.Gives s a t) (journal : Journal) :
    (step.run ⟨s, journal⟩).1 = a ∧ (step.run ⟨s, journal⟩).2.state = t := by
  obtain ⟨journal', h'⟩ := h.run journal
  rw [h']
  exact ⟨rfl, rfl⟩

end Step.Gives

namespace Action.Gives

variable {action : Action σ ε α} {f : α → Action σ ε β} {a : α} {e : ε} {r : Except ε β}

theorem pure : Action.Gives (Pure.pure a : Action σ ε α) s (.ok a) s :=
  ⟨fun journal => ⟨journal, rfl⟩⟩

theorem throw : Action.Gives (MonadExcept.throw e : Action σ ε α) s (.error e) s :=
  ⟨fun journal => ⟨journal, rfl⟩⟩

/-- After an action that succeeds, the next one goes on. -/
theorem bind (h : action.Gives s (.ok a) t) (h' : (f a).Gives t r u) : Action.Gives (action >>= f) s r u :=
  Step.Gives.bind (f := ExceptT.bindCont f) h h'

/-- After an action that fails, nothing follows. -/
theorem bind_error (h : action.Gives s (.error e) t) : Action.Gives (action >>= f) s (.error e) t :=
  Step.Gives.bind (f := ExceptT.bindCont f) h Step.Gives.pure

theorem toAction {step : Step σ α} (h : step.Gives s a t) : Action.Gives (step.toAction : Action σ ε α) s (.ok a) t :=
  Step.Gives.map Except.ok h

/-- A result that is at hand changes nothing. -/
theorem liftExcept {result : Except ε α} : Action.Gives (liftM result : Action σ ε α) s result s :=
  ⟨fun journal => ⟨journal, rfl⟩⟩

/-- A step that is lifted cannot fail. -/
theorem lift {step : Step σ α} (h : step.Gives s a t) : Action.Gives (liftM step : Action σ ε α) s (.ok a) t :=
  Step.Gives.map Except.ok h

/-- What an action gives, a step that catches its failure gives as a value. -/
theorem attempt {result : Except ε α} (h : action.Gives s result t) : action.attempt.Gives s result t := h

/-- What an action gives shows in every run from there. -/
theorem run_eq {result : Except ε α} (h : action.Gives s result t) (journal : Journal) :
    (action.attempt.run ⟨s, journal⟩).1 = result ∧ (action.attempt.run ⟨s, journal⟩).2.state = t :=
  Step.Gives.run_eq h journal

theorem log {logger : Logger} {severity : Severity} {event : Event} {fields : List (String × String)} :
    Action.Gives (SparseRows.log logger severity event fields : Action σ ε Unit) s (.ok ()) s :=
  ⟨fun journal => ⟨logger.log severity event fields journal, rfl⟩⟩

theorem currentState : Action.Gives (SparseRows.currentState : Action σ ε σ) s (.ok s) s :=
  ⟨fun journal => ⟨journal, rfl⟩⟩

theorem setState : Action.Gives (SparseRows.setState t : Action σ ε Unit) s (.ok ()) t :=
  ⟨fun journal => ⟨journal, rfl⟩⟩

theorem ofExcept {result : Except ε α} : Action.Gives (Action.ofExcept result : Action σ ε α) s result s :=
  ⟨fun journal => ⟨journal, rfl⟩⟩

end Action.Gives

/-- From every state with the property `P` the step comes to an end, in a value and a state with the property `Q`. -/
structure Step.Ensures (step : Step σ α) (P : σ → Prop) (Q : α → σ → Prop) : Prop where
  run : ∀ s, P s → ∃ a t, step.Gives s a t ∧ Q a t

/-- From every state with the property `P` the action comes to an end, in a value or an error and a state with the property
`Q`. -/
structure Action.Ensures (action : Action σ ε α) (P : σ → Prop) (Q : Except ε α → σ → Prop) : Prop where
  run : ∀ s, P s → ∃ r t, action.Gives s r t ∧ Q r t

namespace Step.Ensures

variable {step : Step σ α} {f : α → Step σ β} {P P' : σ → Prop} {Q R : α → σ → Prop} {Q' : β → σ → Prop}

/-- What a step ensures shows in every run from a state with the property, whatever is in the journal. -/
theorem of_run (h : step.Ensures P Q) {s : Logged σ} (hs : P s.state) : Q (step.run s).1 (step.run s).2.state := by
  obtain ⟨a, t, hgives, ht⟩ := h.run s.state hs
  obtain ⟨hresult, hafter⟩ : (step.run s).1 = a ∧ (step.run s).2.state = t := hgives.run_eq s.journal
  rwa [hresult, hafter]

theorem pure {a : α} (h : ∀ s, P s → Q a s) : Step.Ensures (Pure.pure a : Step σ α) P Q :=
  ⟨fun s hs => ⟨a, s, .pure, h s hs⟩⟩

/-- What a step leads to is where the next one starts. -/
theorem bind (h : step.Ensures P R) (h' : ∀ a, (f a).Ensures (R a) Q') : Step.Ensures (step >>= f) P Q' := by
  refine ⟨fun s hs => ?_⟩
  obtain ⟨a, t, hgives, ht⟩ := h.run s hs
  obtain ⟨b, u, hgives', hu⟩ := (h' a).run t ht
  exact ⟨b, u, .bind hgives hgives', hu⟩

theorem map {g : α → β} (h : step.Ensures P fun a => Q' (g a)) : Step.Ensures (g <$> step) P Q' := by
  refine ⟨fun s hs => ?_⟩
  obtain ⟨a, t, hgives, ht⟩ := h.run s hs
  exact ⟨g a, t, hgives.map g, ht⟩

/-- Less may be known before a step, and more than is asked for after it. -/
theorem weaken (h : step.Ensures P R) (hbefore : ∀ s, P' s → P s) (hafter : ∀ a s, R a s → Q a s) : step.Ensures P' Q := by
  refine ⟨fun s hs => ?_⟩
  obtain ⟨a, t, hgives, ht⟩ := h.run s (hbefore s hs)
  exact ⟨a, t, hgives, hafter a t ht⟩

theorem log {logger : Logger} {severity : Severity} {event : Event} {fields : List (String × String)} :
    Step.Ensures (SparseRows.log logger severity event fields : Step σ Unit) P fun _ => P :=
  ⟨fun s hs => ⟨(), s, .log, hs⟩⟩

/-- What is known before a step and does not hang on the state may be used in the proof. -/
theorem of_and {p : Prop} (h : p → step.Ensures P Q) : step.Ensures (fun s => p ∧ P s) Q :=
  ⟨fun s hs => (h hs.1).run s hs.2⟩

/-- What is there before a step may be given a name. -/
theorem of_exists {ι : Sort _} {P : ι → σ → Prop} (h : ∀ i, step.Ensures (P i) Q) : step.Ensures (fun s => ∃ i, P i s) Q :=
  ⟨fun s ⟨i, hs⟩ => (h i).run s hs⟩

/-- A step that goes by the state it starts in may be looked at for each such state. -/
theorem bind_currentState {f : σ → Step σ β} (h : ∀ s, P s → (f s).Ensures (fun t => t = s) Q') :
    Step.Ensures (currentState >>= f) P Q' := by
  refine ⟨fun s hs => ?_⟩
  obtain ⟨b, u, hgives, hu⟩ := (h s hs).run s rfl
  exact ⟨b, u, .bind .currentState hgives, hu⟩

end Step.Ensures

namespace Action.Ensures

variable {action : Action σ ε α} {f : α → Action σ ε β} {P P' : σ → Prop} {Q R : Except ε α → σ → Prop}
  {Q' : Except ε β → σ → Prop}

theorem pure {a : α} (h : ∀ s, P s → Q (.ok a) s) : Action.Ensures (Pure.pure a : Action σ ε α) P Q :=
  ⟨fun s hs => ⟨.ok a, s, .pure, h s hs⟩⟩

theorem throw {e : ε} (h : ∀ s, P s → Q (.error e) s) : Action.Ensures (MonadExcept.throw e : Action σ ε α) P Q :=
  ⟨fun s hs => ⟨.error e, s, .throw, h s hs⟩⟩

/-- Where an action succeeds the next one starts, and its failure is that of both. -/
theorem bind (h : action.Ensures P R) (herror : ∀ e s, R (.error e) s → Q' (.error e) s)
    (h' : ∀ a, (f a).Ensures (R (.ok a)) Q') : Action.Ensures (action >>= f) P Q' := by
  refine ⟨fun s hs => ?_⟩
  obtain ⟨r, t, hgives, ht⟩ := h.run s hs
  cases r with
  | error e => exact ⟨.error e, t, .bind_error hgives, herror e t ht⟩
  | ok a =>
    obtain ⟨r', u, hgives', hu⟩ := (h' a).run t ht
    exact ⟨r', u, .bind hgives hgives', hu⟩

/-- Less may be known before an action, and more than is asked for after it. -/
theorem weaken (h : action.Ensures P R) (hbefore : ∀ s, P' s → P s) (hafter : ∀ r s, R r s → Q r s) : action.Ensures P' Q := by
  refine ⟨fun s hs => ?_⟩
  obtain ⟨r, t, hgives, ht⟩ := h.run s (hbefore s hs)
  exact ⟨r, t, hgives, hafter r t ht⟩

/-- What is known before an action and does not hang on the state may be used in the proof. -/
theorem of_and {p : Prop} (h : p → action.Ensures P Q) : action.Ensures (fun s => p ∧ P s) Q :=
  ⟨fun s hs => (h hs.1).run s hs.2⟩

/-- What is there before an action may be given a name. -/
theorem of_exists {ι : Sort _} {P : ι → σ → Prop} (h : ∀ i, action.Ensures (P i) Q) : action.Ensures (fun s => ∃ i, P i s) Q :=
  ⟨fun s ⟨i, hs⟩ => (h i).run s hs⟩

/-- What an action ensures, a step that catches its failure ensures of what it gives. -/
theorem attempt (h : action.Ensures P Q) : action.attempt.Ensures P Q :=
  ⟨h.run⟩

/-- What an action ensures shows in every run from a state with the property, whatever is in the journal. -/
theorem of_run (h : action.Ensures P Q) {s : Logged σ} (hs : P s.state) :
    Q (action.attempt.run s).1 (action.attempt.run s).2.state :=
  h.attempt.of_run hs

/-- A step that cannot fail comes first. -/
theorem bind_toAction {step : Step σ α} {S : α → σ → Prop} (h : step.Ensures P S) (h' : ∀ a, (f a).Ensures (S a) Q') :
    Action.Ensures (step.toAction >>= f) P Q' := by
  refine ⟨fun s hs => ?_⟩
  obtain ⟨a, t, hgives, ht⟩ := h.run s hs
  obtain ⟨r, u, hgives', hu⟩ := (h' a).run t ht
  exact ⟨r, u, .bind (.toAction hgives) hgives', hu⟩

theorem toAction {step : Step σ α} (h : step.Ensures P fun a => Q (.ok a)) :
    Action.Ensures (step.toAction : Action σ ε α) P Q := by
  refine ⟨fun s hs => ?_⟩
  obtain ⟨a, t, hgives, ht⟩ := h.run s hs
  exact ⟨.ok a, t, .toAction hgives, ht⟩

/-- A result that is at hand is followed by the rest if it is no error. -/
theorem bind_ofExcept {result : Except ε α} (herror : ∀ e, result = .error e → ∀ s, P s → Q' (.error e) s)
    (h : ∀ a, result = .ok a → (f a).Ensures P Q') : Action.Ensures (Action.ofExcept result >>= f) P Q' := by
  refine ⟨fun s hs => ?_⟩
  cases hresult : result with
  | error e => exact ⟨.error e, s, .bind_error .ofExcept, herror e hresult s hs⟩
  | ok a =>
    obtain ⟨r, t, hgives, ht⟩ := (h a hresult).run s hs
    exact ⟨r, t, .bind .ofExcept hgives, ht⟩

/-- Work that goes on from a result fails where the result is an error. -/
theorem bind_liftExcept {result : Except ε α} (herror : ∀ e, result = .error e → ∀ s, P s → Q' (.error e) s)
    (h : ∀ a, result = .ok a → (f a).Ensures P Q') : Action.Ensures ((liftM result : Action σ ε α) >>= f) P Q' :=
  bind_ofExcept herror h

theorem log {logger : Logger} {severity : Severity} {event : Event} {fields : List (String × String)}
    {Q : Except ε Unit → σ → Prop} (h : ∀ s, P s → Q (.ok ()) s) :
    Action.Ensures (SparseRows.log logger severity event fields : Action σ ε Unit) P Q :=
  ⟨fun s hs => ⟨.ok (), s, .log, h s hs⟩⟩

/-- A log line comes first. -/
theorem bind_log {logger : Logger} {severity : Severity} {event : Event} {fields : List (String × String)}
    {action : Action σ ε β} (h : action.Ensures P Q') :
    Action.Ensures ((SparseRows.log logger severity event fields : Action σ ε Unit) >>= fun _ => action) P Q' := by
  refine ⟨fun s hs => ?_⟩
  obtain ⟨r, t, hgives, ht⟩ := h.run s hs
  exact ⟨r, t, .bind .log hgives, ht⟩

/-- An action that goes by the state it starts in may be looked at for each such state. -/
theorem bind_currentState {f : σ → Action σ ε β} (h : ∀ s, P s → (f s).Ensures (fun t => t = s) Q') :
    Action.Ensures (currentState >>= f) P Q' := by
  refine ⟨fun s hs => ?_⟩
  obtain ⟨r, u, hgives, hu⟩ := (h s hs).run s rfl
  exact ⟨r, u, .bind .currentState hgives, hu⟩

end Action.Ensures

/-- From every state with the property the action comes to an end, with a value or an error, in a state with the property. -/
structure Action.Keeps (action : Action σ ε α) (P : σ → Prop) : Prop where
  run : ∀ s, P s → ∃ r t, action.Gives s r t ∧ P t

namespace Action.Keeps

variable {action : Action σ ε α} {f : α → Action σ ε β} {P : σ → Prop}

theorem pure {a : α} : Action.Keeps (Pure.pure a : Action σ ε α) P :=
  ⟨fun s hs => ⟨.ok a, s, .pure, hs⟩⟩

theorem throw {e : ε} : Action.Keeps (MonadExcept.throw e : Action σ ε α) P :=
  ⟨fun s hs => ⟨.error e, s, .throw, hs⟩⟩

theorem liftExcept {result : Except ε α} : Action.Keeps (liftM result : Action σ ε α) P :=
  ⟨fun s hs => ⟨result, s, .liftExcept, hs⟩⟩

theorem log {logger : Logger} {severity : Severity} {event : Event} {fields : List (String × String)} :
    Action.Keeps (SparseRows.log logger severity event fields : Action σ ε Unit) P :=
  ⟨fun s hs => ⟨.ok (), s, .log, hs⟩⟩

/-- What two actions keep, one after the other keeps. -/
theorem bind (h : action.Keeps P) (h' : ∀ a, (f a).Keeps P) : Action.Keeps (action >>= f) P := by
  have hensures : Action.Ensures (action >>= f) P fun _ => P :=
    .bind (R := fun _ => P) ⟨h.run⟩ (fun _ _ hs => hs) fun a => ⟨(h' a).run⟩
  exact ⟨hensures.run⟩

end Action.Keeps

end SparseRows
