import SparseRows.Content.Children

/-!
# Traversals

What comes of asking a traversal for the next child time and again, whatever the resolver does and answers. The resolver is
watched for that: each path that it is asked for is noted down with its answer, which makes no difference to the traversal
(`Step.LooksUp`). `Sought` says what one search looks for and gives, and `Course` what so many calls of `next` come to.
-/

namespace SparseRows

/-! ## The names of the children -/

/-- The names of the children come in ascending order. -/
theorem Content.childNames_ascending (content : Content) : content.childNames.Pairwise (· < ·) := by
  unfold Content.childNames
  split
  case h_1 row _ =>
    have hordered : row.keys.Pairwise fun a b => compare a b = .lt := Std.ExtTreeMap.ordered_keys
    exact (hordered.imp compareOfLessAndEq_eq_lt.mp).filter _
  case h_2 => exact .nil

/-- They are the columns of the structure row, if there is one, that do not start with the mark. -/
theorem Content.mem_childNames {content : Content} {name : String} :
    name ∈ content.childNames ↔
      ∃ row, content.structureRow = some row ∧ name ∈ row ∧ name.toList.head? ≠ some Field.metadataMark := by
  unfold Content.childNames
  split
  case h_1 row hrow => simp [hrow]
  case h_2 hrow => simp [hrow]

/-! ## Resolvers that are watched -/

/-- A path that a resolver was asked for, and its answer. -/
structure Lookup where
  path : String
  answer : Except ContentError (Option Content)

namespace Lookup

/-- The content that was found. -/
def found? (lookup : Lookup) : Option Content :=
  match lookup.answer with
  | .ok content => content
  | .error _ => none

/-- The failure of the store that kept the resolver from an answer. -/
def failure? (lookup : Lookup) : Option ContentError :=
  match lookup.answer with
  | .ok _ | .error (.accessDenied _) => none
  | .error (.storage e) => some (.storage e)

end Lookup

/-- What a resolver works on, with the lookups so far. -/
structure Watched (σ : Type) where
  state : σ
  lookups : List Lookup := []

variable {σ α β : Type}

/-- The same under watch, after some lookups. -/
def Logged.watched (s : Logged σ) (lookups : List Lookup) : Logged (Watched σ) :=
  ⟨⟨s.state, lookups⟩, s.journal⟩

/-- A resolver that does what another one does and notes down each lookup. -/
def Resolver.watched (resolve : Resolver σ) : Resolver (Watched σ) := fun path =>
  ExceptT.mk fun s =>
    let (answer, after) := (resolve path).attempt.run ⟨s.state.state, s.journal⟩
    (answer, after.watched (s.state.lookups ++ [⟨path, answer⟩]))

/-- A step does and gives the same under watch, and its lookups have, together with what it gives, some property. -/
structure Step.LooksUp (step : Step σ α) (watched : Step (Watched σ) α) (Q : List Lookup → α → Prop) : Prop where
  run : ∀ s before, ∃ a after lookups, step.run s = (a, after) ∧
    watched.run (s.watched before) = (a, after.watched (before ++ lookups)) ∧ Q lookups a

namespace Step.LooksUp

variable {step : Step σ α} {watched : Step (Watched σ) α} {f : α → Step σ β} {g : α → Step (Watched σ) β}
  {R : List Lookup → α → Prop} {Q : List Lookup → β → Prop}

theorem pure {b : β} (h : Q [] b) : Step.LooksUp (Pure.pure b : Step σ β) (Pure.pure b) Q :=
  ⟨fun s before => ⟨b, s, [], rfl, by rw [List.append_nil]; rfl, h⟩⟩

/-- A resolver that is asked makes the one lookup. -/
theorem attempt (resolve : Resolver σ) (path : String) :
    Step.LooksUp (resolve path).attempt (resolve.watched path).attempt fun lookups answer => lookups = [⟨path, answer⟩] :=
  ⟨fun _ _ => ⟨_, _, _, rfl, rfl, rfl⟩⟩

/-- Steps make their lookups one after the other. -/
theorem bind (h : step.LooksUp watched R)
    (h' : ∀ lookups a, R lookups a → (f a).LooksUp (g a) fun more b => Q (lookups ++ more) b) :
    Step.LooksUp (step >>= f) (watched >>= g) Q := by
  refine ⟨fun s before => ?_⟩
  obtain ⟨a, s', lookups, hstep, hwatched, ha⟩ := h.run s before
  obtain ⟨b, s'', more, hstep', hwatched', hb⟩ := (h' lookups a ha).run s' (before ++ lookups)
  refine ⟨b, s'', lookups ++ more, ?_, ?_, hb⟩
  · rw [StateT.run_bind, hstep]
    exact hstep'
  · rw [StateT.run_bind, hwatched, ← List.append_assoc]
    exact hwatched'

/-- No lookup is made for a log line. -/
theorem after_log {logger : Logger} {severity : Severity} {event : Event} {fields : List (String × String)}
    (h : step.LooksUp watched R) :
    Step.LooksUp (SparseRows.log logger severity event fields >>= fun _ => step)
      (SparseRows.log logger severity event fields >>= fun _ => watched) R := by
  refine ⟨fun s before => ?_⟩
  obtain ⟨a, s', lookups, hstep, hwatched, ha⟩ :=
    h.run { s with journal := logger.log severity event fields s.journal } before
  exact ⟨a, s', lookups, hstep, hwatched, ha⟩

/-- What is said of the lookups may be weakened. -/
theorem imp {R' : List Lookup → α → Prop} (h : step.LooksUp watched R) (himp : ∀ lookups a, R lookups a → R' lookups a) :
    step.LooksUp watched R' := by
  refine ⟨fun s before => ?_⟩
  obtain ⟨a, s', lookups, hstep, hwatched, ha⟩ := h.run s before
  exact ⟨a, s', lookups, hstep, hwatched, himp lookups a ha⟩

end Step.LooksUp

namespace Children

/-! ## One search -/

/-- The search for the first child of some names makes these lookups, gives this and leaves this traversal. -/
inductive Sought (children : Children) : List String → List Lookup → Option Content × Children → Prop
  /-- There are no names left. -/
  | exhausted : Sought children [] [] (none, { children with names := [] })
  | found (name : String) (rest : List String) (content : Content) :
    Sought children (name :: rest) [⟨childPath children.parent name, .ok (some content)⟩]
      (some content, { children with names := rest })
  | missing {name : String} {rest : List String} {lookups : List Lookup} {result : Option Content × Children}
    (h : Sought children rest lookups result) :
    Sought children (name :: rest) (⟨childPath children.parent name, .ok none⟩ :: lookups) result
  | denied {name denial : String} {rest : List String} {lookups : List Lookup} {result : Option Content × Children}
    (h : Sought children rest lookups result) :
    Sought children (name :: rest) (⟨childPath children.parent name, .error (.accessDenied denial)⟩ :: lookups) result
  | failed (name : String) (rest : List String) (e : StorageError) :
    Sought children (name :: rest) [⟨childPath children.parent name, .error (.storage e)⟩]
      (none, { children with names := rest, error := some (.storage e) })

/-- Whatever a resolver does, the search makes its lookups one name after the other. -/
theorem seek_looksUp (resolve : Resolver σ) (children : Children) (names : List String) :
    (children.seek resolve names).LooksUp (children.seek resolve.watched names) (children.Sought names) := by
  induction names with
  | nil => exact .pure .exhausted
  | cons name rest ih =>
    refine .bind (.attempt resolve _) fun lookups answer hlookups => ?_
    subst hlookups
    cases answer with
    | ok content? =>
      cases content? with
      | none => exact .after_log (ih.imp fun _ _ => .missing)
      | some content => exact .pure (.found name rest content)
    | error e =>
      cases e with
      | accessDenied denial => exact .after_log (ih.imp fun _ _ => .denied)
      | storage e => exact .after_log (.pure (.failed name rest e))

namespace Sought

variable {children rest : Children} {names : List String} {lookups : List Lookup} {item : Option Content}
  {result : Option Content × Children}

/-- The parent of a traversal never changes. -/
theorem parent_eq (h : Sought children names lookups result) : result.2.parent = children.parent := by
  induction h with
  | exhausted | found | failed => rfl
  | missing _ ih | denied _ ih => exact ih

/-- The names are looked for in order, and those that are left have not been looked for. -/
theorem inOrder (h : Sought children names lookups result) :
    lookups.map Lookup.path ++ result.2.names.map (childPath children.parent) = names.map (childPath children.parent) := by
  induction h with
  | exhausted | found | failed => rfl
  | missing _ ih | denied _ ih => rw [List.map_cons, List.cons_append, ih, List.map_cons]

/-- What is given is what is found. -/
theorem filterMap_found? (h : Sought children names lookups result) : lookups.filterMap Lookup.found? = result.1.toList := by
  induction h with
  | exhausted | found | failed => rfl
  | missing _ ih | denied _ ih => rwa [List.filterMap_cons_none rfl]

/-- The failure that is shown is the one that was met. -/
theorem error_eq (h : Sought children names lookups result) (hnone : children.error = none) :
    result.2.error = lookups.findSome? Lookup.failure? := by
  induction h with
  | exhausted | found => exact hnone
  | failed => rfl
  | missing _ ih | denied _ ih => rw [ih]; rfl

/-- Nothing is looked for after a failure. -/
theorem failsLast (h : Sought children names lookups result) :
    lookups.Pairwise fun earlier _ => earlier.failure? = none := by
  induction h with
  | exhausted => exact .nil
  | found | failed => exact List.pairwise_singleton ..
  | missing _ ih | denied _ ih => exact ih.cons fun _ _ => rfl

/-- Nothing is looked for after a child that is given. -/
theorem foundLast (h : Sought children names lookups result) {child : Content} (hchild : result.1 = some child) :
    ∃ path, [⟨path, .ok (some child)⟩] <:+ lookups := by
  induction h with
  | exhausted | failed => cases hchild
  | found =>
    obtain rfl := Option.some.inj hchild
    exact ⟨_, List.suffix_refl _⟩
  | missing _ ih | denied _ ih =>
    obtain ⟨path, hsuffix⟩ := ih hchild
    exact ⟨path, hsuffix.trans (List.suffix_cons ..)⟩

/-- A search that gives nothing ends with a failure or has looked for all names. -/
theorem names_eq_nil (h : Sought children names lookups result) (hitem : result.1 = none) (herror : result.2.error = none) :
    result.2.names = [] := by
  induction h with
  | exhausted => rfl
  | found => cases hitem
  | failed => cases herror
  | missing _ ih | denied _ ih => exact ih hitem herror

/-- A search that ends with a failure gives nothing. -/
theorem eq_none_of_error (h : Sought children names lookups result) (hnone : children.error = none)
    (herror : result.2.error.isSome) : result.1 = none := by
  induction h with
  | exhausted | failed => rfl
  | found => simp [hnone] at herror
  | missing _ ih | denied _ ih => exact ih herror

end Sought

/-! ## One call -/

/-- Whether a traversal has come to its end, by a failure or because no names are left. -/
def IsOver (children : Children) : Prop :=
  children.error.isSome ∨ children.names = []

/-- After the end there is no child, and the resolver is not asked for any. -/
theorem next_of_isOver (resolve : Resolver σ) {children : Children} (h : children.IsOver) :
    children.next resolve = pure (none, children) := by
  unfold next
  split
  case isTrue => rfl
  case isFalse hnone =>
    have hnames : children.names = [] := h.resolve_left hnone
    rw [hnames, seek, ← hnames]

/-- Before the end a call is a search among the names that are left. -/
theorem next_looksUp (resolve : Resolver σ) (children : Children) :
    (children.next resolve).LooksUp (children.next resolve.watched) fun lookups result =>
      (children.IsOver ∧ lookups = [] ∧ result = (none, children)) ∨
        (¬ children.IsOver ∧ children.Sought children.names lookups result) := by
  by_cases hover : children.IsOver
  · rw [next_of_isOver resolve hover, next_of_isOver resolve.watched hover]
    exact .pure (.inl ⟨hover, rfl, rfl⟩)
  · have hnone : ¬ children.error.isSome := fun h => hover (.inl h)
    rw [next, next, if_neg hnone, if_neg hnone]
    exact (seek_looksUp resolve children children.names).imp fun _ _ h => .inr ⟨hover, h⟩

/-! ## Calls in a row -/

/-- What so many calls give, and the traversal behind them. Unlike `take` this calls on when there is no child. -/
def nexts (resolve : Resolver σ) (children : Children) : Nat → Step σ (List (Option Content) × Children)
  | 0 => return ([], children)
  | count + 1 => do
    let (items, rest) ← children.nexts resolve count
    let (item, rest) ← rest.next resolve
    return (items ++ [item], rest)

/-- After the end calls give nothing, write nothing and leave everything as it is, as often as they are made. -/
theorem nexts_of_isOver (resolve : Resolver σ) {children : Children} (h : children.IsOver) (count : Nat) :
    children.nexts resolve count = pure (.replicate count none, children) := by
  induction count with
  | zero => rfl
  | succ count ih =>
    rw [nexts, ih, pure_bind]
    dsimp only
    rw [next_of_isOver resolve h, pure_bind, List.replicate_succ']

/-- What so many calls from the start of a traversal have looked for and given, and the traversal that they leave. -/
structure Course (content : Content) (count : Nat) (lookups : List Lookup) (items : List (Option Content)) (rest : Children) :
    Prop where
  /-- There is an answer to every call. -/
  length_eq : items.length = count
  parent_eq : rest.parent = content.path
  /-- The children are looked for in order, each at most once, and those that are left have not been looked for. -/
  inOrder : lookups.map Lookup.path ++ rest.names.map (childPath content.path) =
    content.childNames.map (childPath content.path)
  /-- What is found is given, one child to a call, and then nothing. -/
  items_eq : ∃ more, items = (lookups.filterMap Lookup.found?).map some ++ .replicate more none
  /-- A child is given before the next one is looked for. -/
  foundLast : ∀ child, items.getLast? = some (some child) → ∃ path, [⟨path, .ok (some child)⟩] <:+ lookups
  /-- Nothing is looked for before the first call. -/
  asked : items = [] → lookups = []
  /-- Nothing is looked for after a failure. -/
  failsLast : lookups.Pairwise fun earlier _ => earlier.failure? = none
  /-- The failure that is shown is the one that was met, if there was one. -/
  error_eq : rest.error = lookups.findSome? Lookup.failure?
  /-- No child is given by a call that meets a failure, nor by one after it. -/
  stopped : rest.error.isSome → items.getLast? = some none
  /-- Where there is nothing to give and nothing has failed, all children have been looked for. -/
  complete : none ∈ items → rest.error = none → rest.names = []

namespace Course

variable {content : Content} {count : Nat} {lookups more : List Lookup} {items : List (Option Content)} {rest after : Children}
  {item : Option Content}

/-- A traversal that has just started has asked for nothing. -/
theorem start (content : Content) : Course content 0 [] [] (.start content) where
  length_eq := rfl
  parent_eq := rfl
  inOrder := rfl
  items_eq := ⟨0, rfl⟩
  foundLast := nofun
  asked _ := rfl
  failsLast := .nil
  error_eq := rfl
  stopped := nofun
  complete := nofun

/-- A call that gives nothing is one after the end. -/
theorem isOver (h : Course content count lookups items rest) (hnone : none ∈ items) : rest.IsOver := by
  cases herror : rest.error with
  | none => exact .inr (h.complete hnone herror)
  | some e => exact .inl (by rw [herror]; rfl)

/-- A call after the end changes nothing. -/
theorem stay (h : Course content count lookups items rest) (hover : rest.IsOver) :
    Course content (count + 1) lookups (items ++ [none]) rest where
  length_eq := by rw [List.length_append, h.length_eq]; rfl
  parent_eq := h.parent_eq
  inOrder := h.inOrder
  items_eq := by
    obtain ⟨more, hitems⟩ := h.items_eq
    exact ⟨more + 1, by rw [hitems, List.append_assoc, List.replicate_succ']⟩
  foundLast child hchild := by simp at hchild
  asked hnil := by simp at hnil
  failsLast := h.failsLast
  error_eq := h.error_eq
  stopped _ := List.getLast?_concat ..
  complete _ herror := hover.resolve_left (by simp [herror])

/-- A call before the end adds its lookups and what it gives. -/
theorem search (h : Course content count lookups items rest) (hover : ¬ rest.IsOver)
    (hsought : rest.Sought rest.names more (item, after)) :
    Course content (count + 1) (lookups ++ more) (items ++ [item]) after := by
  have hnone : rest.error = none := Option.not_isSome_iff_eq_none.mp fun h => hover (.inl h)
  have hfails : lookups.findSome? Lookup.failure? = none := h.error_eq ▸ hnone
  have hitems : items = (lookups.filterMap Lookup.found?).map some := by
    obtain ⟨more, hitems⟩ := h.items_eq
    cases more with
    | zero => rwa [List.replicate_zero, List.append_nil] at hitems
    | succ more => exact absurd (h.isOver (by simp [hitems])) hover
  exact {
    length_eq := by rw [List.length_append, h.length_eq]; rfl
    parent_eq := hsought.parent_eq.trans h.parent_eq
    inOrder := by
      rw [List.map_append, List.append_assoc, ← h.inOrder, ← h.parent_eq, hsought.inOrder]
    items_eq := by
      rw [List.filterMap_append, hsought.filterMap_found?, List.map_append, ← hitems]
      cases item with
      | none => exact ⟨1, by simp⟩
      | some child => exact ⟨0, by simp⟩
    foundLast := fun child hchild => by
      rw [List.getLast?_concat, Option.some.injEq] at hchild
      obtain ⟨path, hsuffix⟩ := hsought.foundLast hchild
      exact ⟨path, hsuffix.trans (List.suffix_append ..)⟩
    asked := fun hnil => by simp at hnil
    failsLast := List.pairwise_append.mpr
      ⟨h.failsLast, hsought.failsLast, fun lookup hmem _ _ => List.findSome?_eq_none_iff.mp hfails lookup hmem⟩
    error_eq := by rw [hsought.error_eq hnone, List.findSome?_append, hfails, Option.none_or]
    stopped := fun herror => by
      have hitem : item = none := hsought.eq_none_of_error hnone herror
      rw [List.getLast?_concat, hitem]
    complete := fun hmem herror => by
      rcases List.mem_append.mp hmem with hmem | hmem
      · exact absurd (h.isOver hmem) hover
      · exact hsought.names_eq_nil (List.mem_singleton.mp hmem).symm herror }

end Course

/-- However many calls are made, they keep to the course. -/
theorem nexts_looksUp (resolve : Resolver σ) (content : Content) (count : Nat) :
    ((start content).nexts resolve count).LooksUp ((start content).nexts resolve.watched count)
      fun lookups result => Course content count lookups result.1 result.2 := by
  induction count with
  | zero => exact .pure (.start content)
  | succ count ih =>
    refine .bind ih fun lookups (items, rest) hcourse => ?_
    refine .bind (next_looksUp resolve rest) fun more (item, after) hnext => .pure ?_
    rcases hnext with ⟨hover, rfl, heq⟩ | ⟨hover, hsought⟩
    · cases heq
      rw [List.append_nil, List.append_nil]
      exact hcourse.stay hover
    · rw [List.append_nil]
      exact hcourse.search hover hsought

/-- A traversal looks for the children of an item one after the other in ascending order, and for none before it is asked to. It
gives those that are found, until all have been looked for or the store has failed. From then on it does nothing more. -/
theorem course_of_nexts (resolve : Resolver σ) (content : Content) (count : Nat) (s : Logged σ) :
    content.childNames.Pairwise (· < ·) ∧
    (∀ name, name ∈ content.childNames ↔
      ∃ row, content.structureRow = some row ∧ name ∈ row ∧ name.toList.head? ≠ some Field.metadataMark) ∧
    ∃ lookups items rest after,
      ((start content).nexts resolve count).run s = ((items, rest), after) ∧
      ((start content).nexts resolve.watched count).run (s.watched []) = ((items, rest), after.watched lookups) ∧
      Course content count lookups items rest ∧
      (none ∈ items → ∀ (τ : Type) (other : Resolver τ) (more : Nat),
        rest.nexts other more = pure (.replicate more none, rest)) := by
  obtain ⟨⟨items, rest⟩, after, lookups, hrun, hwatched, hcourse⟩ := (nexts_looksUp resolve content count).run s []
  refine ⟨content.childNames_ascending, fun _ => Content.mem_childNames, lookups, items, rest, after, hrun, hwatched, hcourse, ?_⟩
  exact fun hnone τ other more => nexts_of_isOver other (hcourse.isOver hnone) more

/-- An item with four children. -/
def fourChildren : Content :=
  .ofStored "/p" .empty (.ofList ([":cid", "d", "b", "c", "a"].map fun name => (name, .text name))) false .discard

/-- A resolver that counts its calls and has a different answer for each of four children. -/
def fourAnswers : Resolver Nat := fun path => do
  setState ((← currentState) + 1)
  match path with
  | "/p/a" => return none
  | "/p/b" => throw (.accessDenied path)
  | "/p/c" => return some (.make path .empty .discard)
  | _ => throw (.storage (.of .schemaUnchecked))

/-- Of four children the first is missing, the second may not be seen, the third is there and the store fails over the last. -/
theorem course_of_nexts_of_fourAnswers :
    ∃ (lookups : List Lookup) (rest : Children) (after : Logged Nat),
      ((start fourChildren).nexts fourAnswers.watched 3).run (Logged.watched ⟨0, {}⟩ []) =
        (([some (.make "/p/c" .empty .discard), none, none], rest), after.watched lookups) ∧
      lookups.map Lookup.path = ["/p/a", "/p/b", "/p/c", "/p/d"] ∧ after.state = 4 ∧
      rest.error = some (.storage (.of .schemaUnchecked)) ∧
      ∀ more, rest.nexts fourAnswers more = pure (.replicate more none, rest) := by
  obtain ⟨-, -, lookups, items, rest, after, -, hwatched, -, hover⟩ := course_of_nexts fourAnswers fourChildren 3 ⟨0, {}⟩
  have hitems : [some (.make "/p/c" .empty .discard), none, none] = items := congrArg (fun run => run.1.1) hwatched
  have hpaths : ["/p/a", "/p/b", "/p/c", "/p/d"] = lookups.map Lookup.path :=
    congrArg (fun run => run.2.state.lookups.map Lookup.path) hwatched
  have hcalls : 4 = after.state := congrArg (fun run => run.2.state.state) hwatched
  have herror : some (.storage (.of .schemaUnchecked)) = rest.error := congrArg (fun run => run.1.2.error) hwatched
  subst hitems
  exact ⟨lookups, rest, after, hwatched, hpaths.symm, hcalls.symm, herror.symm, hover (by simp) Nat fourAnswers⟩

end Children

end SparseRows
