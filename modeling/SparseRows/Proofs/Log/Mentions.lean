import SparseRows.Proofs.Lists
import SparseRows.Proofs.Log.Record

/-!
# Events found in log lines

Whether a line reports an event is found out by a search for the member that names the event, as text and at every place of
the line. Where it starts there is a quote: one that opens a text, one that closes it, or one that was escaped in it. What
stands behind the quote is the rest of a text then, and a text can be told from its quotes (`eq_and_prefix_of_closed`), so
it would have to be the key of the member, with a colon behind it, which only keys have. So the member is found exactly if
it was written (`occursIn_renderObject_iff`), whatever the values are, as long as no key has a quote itself.
-/

namespace SparseRows

open Text

namespace Log

variable {name : String} {cs rest : List Char} {mark : Char}

theorem renderString_append (s : String) (rest : List Char) :
    renderString s ++ rest = '"' :: (s.toList.flatMap escape ++ '"' :: rest) := by
  simp [renderString]

theorem renderMember_append (member : String × String) (rest : List Char) :
    renderMember member ++ rest = renderString member.1 ++ ':' :: (renderString member.2 ++ rest) := by
  simp [renderMember]

/-- Only the escape of a quote has a quote in it. -/
theorem quote_notMem_escape {c : Char} (h : c ≠ '"') : '"' ∉ escape c := by
  unfold escape
  split
  case h_6 =>
    split
    · have hdigit : ∀ n, '"' ≠ hexDigit (n % 16) := by
        intro n
        have hlt := Nat.mod_lt n (by decide : 0 < 16)
        generalize n % 16 = digit at hlt
        decide +revert
      simp [hexWord, hdigit]
    · simpa using Ne.symm h
  case h_1 => exact absurd rfl h
  all_goals decide

/-- Two texts that are read alike to their closing quotes are the same, and what follows is read on. -/
theorem eq_and_prefix_of_closed {cs' tail : List Char}
    (h : cs.flatMap escape ++ '"' :: tail <+: cs'.flatMap escape ++ '"' :: rest) : cs = cs' ∧ tail <+: rest := by
  obtain ⟨more, hmore⟩ := h
  rw [List.append_assoc, List.cons_append] at hmore
  have hread := Json.scanString_flatMap spells_escape cs (tail ++ more)
  rw [hmore, Json.scanString_flatMap spells_escape, Option.some.injEq, Prod.mk.injEq] at hread
  exact ⟨List.map_injective_iff.mpr (fun _ _ heq => Json.Piece.char.inj heq) hread.1.symm, more, hread.2.symm⟩

/-- What follows the opening quote of the member that names an event. -/
def behindQuote (name : String) : List Char :=
  "event".toList.flatMap escape ++ '"' :: ':' :: renderString name

/-- The event is the member that lines are searched for. -/
theorem renderMember_event (name : String) : renderMember ("event", name) = '"' :: behindQuote name :=
  renderString_append "event" (':' :: renderString name)

/-- The member is not found where there is no quote. -/
theorem infix_of_quote_notMem (part : List Char) (hpart : '"' ∉ part) (h : renderMember ("event", name) <:+: part ++ rest) :
    renderMember ("event", name) <:+: rest := by
  rw [renderMember_event] at h ⊢
  exact infix_of_infix_append part hpart h

/-- From a quote on the member is found at the quote or behind it. -/
theorem prefix_or_infix_of_quote (h : renderMember ("event", name) <:+: '"' :: rest) :
    behindQuote name <+: rest ∨ renderMember ("event", name) <:+: rest := by
  rw [renderMember_event, List.infix_cons_iff, List.cons_prefix_cons] at h
  rw [renderMember_event]
  exact h.imp_left And.right

/-- What follows a quote is not the key of the member if it starts otherwise. -/
theorem not_prefix_cons (h : mark ≠ 'e') : ¬behindQuote name <+: mark :: rest := by
  have hkey : behindQuote name = 'e' :: ("vent".toList ++ '"' :: ':' :: renderString name) := rfl
  intro hprefix
  rw [hkey, List.cons_prefix_cons] at hprefix
  exact h hprefix.1.symm

/-- A text is not the key of the member if no colon follows it. -/
theorem not_prefix_text (h : mark ≠ ':') : ¬behindQuote name <+: cs.flatMap escape ++ '"' :: mark :: rest := by
  intro hprefix
  have htail := (eq_and_prefix_of_closed hprefix).2
  rw [List.cons_prefix_cons] at htail
  exact h htail.1.symm

/-- In a value the member is not found: neither at a quote that was escaped in it nor at the one that closes it, for a value is
followed by what separates members or ends the object. -/
theorem infix_of_infix_value (hmark : mark = ',' ∨ mark = '}')
    (h : renderMember ("event", name) <:+: cs.flatMap escape ++ '"' :: mark :: rest) :
    renderMember ("event", name) <:+: mark :: rest := by
  have hcolon : mark ≠ ':' := by rintro rfl; simp at hmark
  have hletter : mark ≠ 'e' := by rintro rfl; simp at hmark
  induction cs with
  | nil => exact (prefix_or_infix_of_quote h).resolve_left (not_prefix_cons hletter)
  | cons c cs ih =>
    rw [List.flatMap_cons, List.append_assoc] at h
    by_cases hquote : c = '"'
    · subst hquote
      have hescaped : renderMember ("event", name) <:+: '"' :: (cs.flatMap escape ++ '"' :: mark :: rest) :=
        infix_of_quote_notMem ['\\'] (by decide) h
      exact ih ((prefix_or_infix_of_quote hescaped).resolve_left (not_prefix_text hcolon))
    · exact ih (infix_of_quote_notMem _ (quote_notMem_escape hquote) h)

/-- In a member whose key has no quote, the member that names an event is found only if it is the same. -/
theorem eq_or_infix_of_infix_member {member : String × String} (hkey : '"' ∉ member.1.toList) (hmark : mark = ',' ∨ mark = '}')
    (h : renderMember ("event", name) <:+: renderMember member ++ mark :: rest) :
    member = ("event", name) ∨ renderMember ("event", name) <:+: mark :: rest := by
  have hcolon : mark ≠ ':' := by rintro rfl; simp at hmark
  have hquote : '"' ∉ member.1.toList.flatMap escape := by
    rw [List.mem_flatMap]
    rintro ⟨c, hc, hmem⟩
    exact quote_notMem_escape (fun heq => hkey (heq ▸ hc)) hmem
  rw [renderMember_append, renderString_append, renderString_append] at h
  rcases prefix_or_infix_of_quote h with hopening | hkeyed
  · obtain ⟨hevent, htail⟩ := eq_and_prefix_of_closed hopening
    rw [List.cons_prefix_cons, renderString, List.cons_append, List.cons_prefix_cons] at htail
    have hname := (eq_and_prefix_of_closed htail.2.2).1
    exact .inl (Prod.ext (String.toList_inj.mp hevent).symm (String.toList_inj.mp hname).symm)
  · have hclosing := infix_of_quote_notMem _ hquote hkeyed
    have hcolonBehind := (prefix_or_infix_of_quote hclosing).resolve_left (not_prefix_cons (by decide))
    have hvalue := infix_of_quote_notMem [':'] (by decide) hcolonBehind
    exact .inr (infix_of_infix_value hmark ((prefix_or_infix_of_quote hvalue).resolve_left (not_prefix_text hcolon)))

/-- Among members whose keys have no quotes, one that names an event is found only if it is among them. -/
theorem mem_of_found {members : List (String × String)} (hkeys : ∀ member ∈ members, '"' ∉ member.1.toList)
    (h : renderMember ("event", name) <:+: renderObject members) : ("event", name) ∈ members := by
  have hinside : renderMember ("event", name) <:+: [','].intercalate (members.map renderMember) ++ ['}'] :=
    infix_of_quote_notMem ['{'] (by decide) h
  clear h
  induction members with
  | nil =>
    have hlength := hinside.length_le
    simp [renderMember, renderString] at hlength
  | cons member members ih =>
    rw [List.forall_mem_cons] at hkeys
    cases members with
    | nil =>
      rw [List.map_singleton, List.intercalate_singleton] at hinside
      rcases eq_or_infix_of_infix_member hkeys.1 (.inr rfl) hinside with heq | hend
      · exact heq ▸ List.mem_cons_self
      · exact List.mem_cons_of_mem _ (ih hkeys.2 hend)
    | cons next members =>
      rw [List.map_cons, List.map_cons, List.intercalate_cons_cons, List.append_assoc, List.append_assoc] at hinside
      rcases eq_or_infix_of_infix_member hkeys.1 (.inl rfl) hinside with heq | hlater
      · exact heq ▸ List.mem_cons_self
      · exact List.mem_cons_of_mem _ (ih hkeys.2 (infix_of_quote_notMem [','] (by decide) hlater))

/-- The text of a member is found in that of its object. -/
theorem found_of_mem {member : String × String} {members : List (String × String)} (h : member ∈ members) :
    renderMember member <:+: renderObject members := by
  have hinside : renderMember member <:+: [','].intercalate (members.map renderMember) := by
    induction members with
    | nil => cases h
    | cons first members ih =>
      cases members with
      | nil =>
        simp [List.mem_singleton.mp h]
      | cons next members =>
        rw [List.map_cons, List.map_cons, List.intercalate_cons_cons, List.append_assoc]
        rcases List.mem_cons.mp h with rfl | hlater
        · exact (List.prefix_append ..).isInfix
        · rw [← List.map_cons]
          exact (ih hlater).trans (((List.suffix_append [','] _).trans (List.suffix_append ..)).isInfix)
  exact hinside.trans ((List.prefix_append ..).isInfix.trans (List.suffix_cons '{' _).isInfix)

/-- The search finds a member that names an event exactly if it was written. -/
theorem occursIn_renderObject_iff {members : List (String × String)} (hkeys : ∀ member ∈ members, '"' ∉ member.1.toList) :
    occursIn (renderMember ("event", name)) (renderObject members) = true ↔ ("event", name) ∈ members :=
  occursIn_iff.trans ⟨mem_of_found hkeys, found_of_mem⟩

/-- A line looks as if it reported an event exactly if it does. -/
theorem mentions_renderLine_iff {fields : List (String × String)}
    (hfields : ∀ field ∈ fields, '"' ∉ field.1.toList ∧ field.1 ≠ "event")
    (severity : Severity) (reported event : Event) (component : String) :
    mentions (renderLine severity reported component fields) event = true ↔ reported = event := by
  have hsorted : ∀ field ∈ sortFields fields, '"' ∉ field.1.toList ∧ field.1 ≠ "event" := by
    intro field hfield
    exact hfields field ((sortFields_perm fields).mem_iff.mp hfield)
  have hkeys : ∀ member ∈ members severity reported component fields, '"' ∉ member.1.toList := by
    have hfixed : '"' ∉ "event".toList ∧ '"' ∉ "severity".toList ∧ '"' ∉ "component".toList := by decide
    intro member hmember
    simp only [members, List.mem_cons] at hmember
    rcases hmember with rfl | rfl | rfl | hfield
    · exact hfixed.1
    · exact hfixed.2.1
    · exact hfixed.2.2
    · exact (hsorted member hfield).1
  rw [mentions, renderLine, String.toList_ofList, occursIn_renderObject_iff hkeys]
  constructor
  · intro hmember
    simp only [members, List.mem_cons, Prod.mk.injEq, true_and, String.reduceEq, false_and, false_or] at hmember
    rcases hmember with hname | hfield
    · exact (Event.eq_of_name_eq hname).symm
    · exact absurd rfl (hsorted _ hfield).2
  · rintro rfl
    exact List.mem_cons_self

end Log

namespace LogCall

/-- After a call an event is found if it was before, or if the call keeps a line that reports it. -/
theorem contains_perform_iff (root : Logger) {call : LogCall}
    (hfields : ∀ field ∈ call.fields, '"' ∉ field.1.toList ∧ field.1 ≠ "event") (journal : Journal) (event : Event) :
    (call.perform root journal).contains event = true ↔
      journal.contains event = true ∨
        root.destination = .memory ∧ call.threshold root.threshold ≤ call.severity ∧ call.event = event := by
  rw [perform, Logger.log, Logger.enabled, threshold_logger, destination_logger]
  by_cases hgrave : call.threshold root.threshold ≤ call.severity
  · have hline := Log.mentions_renderLine_iff hfields call.severity call.event event (call.logger root).component
    rw [if_pos (decide_eq_true hgrave)]
    cases hdestination : root.destination with
    | memory =>
      rw [Journal.contains, Journal.write, Array.any_push, Bool.or_eq_true, hline]
      simp [hgrave, Journal.contains]
    | standard =>
      rw [Journal.write]
      split <;> simp [Journal.contains]
    | discard => simp [Journal.write]
  · rw [if_neg (by simpa using hgrave)]
    simp [hgrave]

/-- What calls leave, each of a handle that was made from one of its own. -/
def performEach (calls : List (Logger × LogCall)) (journal : Journal) : Journal :=
  calls.foldl (fun journal call => call.2.perform call.1 journal) journal

/-- After some calls an event is found if it was before, or if one of them keeps a line that reports it. -/
theorem contains_performEach_iff {calls : List (Logger × LogCall)}
    (hfields : ∀ call ∈ calls, ∀ field ∈ call.2.fields, '"' ∉ field.1.toList ∧ field.1 ≠ "event") (journal : Journal)
    (event : Event) :
    (performEach calls journal).contains event = true ↔
      journal.contains event = true ∨ ∃ call ∈ calls, call.1.destination = .memory ∧
        call.2.threshold call.1.threshold ≤ call.2.severity ∧ call.2.event = event := by
  induction calls generalizing journal with
  | nil => simp [performEach]
  | cons call calls ih =>
    rw [List.forall_mem_cons] at hfields
    have hlater := ih hfields.2 (call.2.perform call.1 journal)
    rw [contains_perform_iff call.1 hfields.1] at hlater
    rw [performEach, List.foldl_cons, ← performEach, hlater, List.exists_mem_cons_iff, or_assoc]

/-- An event is found in what was kept of calls exactly if one of them was to report this event, was grave enough for its
handle and had a handle whose lines are kept. Nothing else that the calls say can look like the event, be it components,
values or the names of other events, if no key of a field has a quote or is the word that names the event. -/
theorem contains_iff_of_calls (calls : List (Logger × LogCall))
    (hfields : ∀ call ∈ calls, ∀ field ∈ call.2.fields, '"' ∉ field.1.toList ∧ field.1 ≠ "event") (event : Event) :
    (performEach calls {}).contains event = true ↔
      ∃ call ∈ calls, call.1.destination = .memory ∧ call.2.threshold call.1.threshold ≤ call.2.severity ∧
        call.2.event = event := by
  have hempty : Journal.contains {} event = false := by simp [Journal.contains]
  rw [contains_performEach_iff hfields, hempty, Bool.false_eq_true, false_or]

/-- A component and a value that hold the text of a member, and a key that differs from the word in one letter only. The
event that they name is not found, nor is the one that a call was not grave enough for. -/
theorem contains_iff_of_pastedMembers :
    let pasted : LogCall :=
      ⟨[.child "\",\"event\":\"ROW_READ\""], .info, .schemaStatementFailed,
       [("Event", "ROW_READ"), ("note", "\"event\":\"ROW_READ\""), ("x", "event")]⟩
    let dropped : LogCall := ⟨[.threshold .warn], .info, .rowRemoved, []⟩
    let journal := performEach [(.memory "store" .trace, pasted), (.memory "body" .info, dropped)] {}
    journal.contains .schemaStatementFailed = true ∧ journal.contains .rowRead = false ∧
      journal.contains .rowRemoved = false := by
  intro pasted dropped journal
  have hfound := contains_iff_of_calls [(.memory "store" .trace, pasted), (.memory "body" .info, dropped)] (by decide)
  refine ⟨(hfound _).mpr (by decide), ?_, ?_⟩
  · rw [Bool.eq_false_iff, ne_eq, hfound]
    decide
  · rw [Bool.eq_false_iff, ne_eq, hfound]
    decide

end LogCall

end SparseRows
