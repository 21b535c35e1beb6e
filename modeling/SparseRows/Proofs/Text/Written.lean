import SparseRows.Text.Lines

/-!
# Texts written in lines

A text is written line by line, with a line break after each line but the last one, which may do without. Every text is
written in one way only, which is what its lines are (`lines_eq_iff`).
-/

namespace SparseRows.Text

/-- Some lines and a text that is written in them. A line feed ends a line, and so does a carriage return with a line feed. -/
inductive Written : List (List Char) → List Char → Prop
  | nil : Written [] []
  /-- The last line need not end. -/
  | last {line : List Char} (hne : line ≠ []) (hplain : '\n' ∉ line) : Written [line] line
  | feed {line : List Char} {more : List (List Char)} {rest : List Char} (hplain : '\n' ∉ line)
      (hend : line.getLast? ≠ some '\r') (h : Written more rest) : Written (line :: more) (line ++ '\n' :: rest)
  | returnFeed {line : List Char} {more : List (List Char)} {rest : List Char} (hplain : '\n' ∉ line)
      (h : Written more rest) : Written (line :: more) (line ++ '\r' :: '\n' :: rest)

/-! ## What the lines of a text are -/

theorem lines_ne_nil {cs : List Char} (hne : cs ≠ []) : lines cs ≠ [] := by
  fun_cases lines cs
  · exact absurd rfl hne
  all_goals exact List.cons_ne_nil _ _

/-- A character that breaks no line begins one. -/
theorem lines_cons {c : Char} {cs : List Char} (hfeed : c ≠ '\n') (hreturn : ∀ after, c = '\r' → cs ≠ '\n' :: after) :
    lines (c :: cs) = (c :: (lines cs).headD []) :: (lines cs).tail := by
  rw [lines]
  · cases lines cs <;> rfl
  · exact hfeed
  · exact hreturn

/-- What breaks no line begins one. -/
theorem lines_append {line rest : List Char} (hne : line ++ rest ≠ []) (hplain : '\n' ∉ line)
    (hreturn : ∀ after, line.getLast? = some '\r' → rest ≠ '\n' :: after) :
    lines (line ++ rest) = (line ++ (lines rest).headD []) :: (lines rest).tail := by
  induction line with
  | nil =>
    obtain ⟨first, more, hlines⟩ := List.exists_cons_of_ne_nil (lines_ne_nil hne)
    rw [List.nil_append] at hlines
    rw [List.nil_append, hlines]
    rfl
  | cons c line ih =>
    rw [List.mem_cons, not_or] at hplain
    have hafter : ∀ after, c = '\r' → line ++ rest ≠ '\n' :: after := by
      rintro after rfl hcut
      cases line with
      | nil => exact hreturn after rfl hcut
      | cons d line => exact hplain.2 (List.head_eq_of_cons_eq hcut ▸ List.mem_cons_self)
    rw [List.cons_append, lines_cons (Ne.symm hplain.1) hafter]
    by_cases hempty : line ++ rest = []
    · obtain ⟨rfl, rfl⟩ := List.append_eq_nil_iff.mp hempty
      rfl
    · rw [ih hempty hplain.2 fun after h => hreturn after (by rw [List.getLast?_cons, h]; rfl)]
      rfl

/-- A text that is written in some lines has these lines. -/
theorem Written.lines_eq {ls : List (List Char)} {cs : List Char} (h : Written ls cs) : lines cs = ls := by
  induction h with
  | nil => rfl
  | @last line hne hplain =>
    have hlines := @lines_append line [] (by rwa [List.append_nil]) hplain fun _ _ => nofun
    simpa [lines] using hlines
  | feed hplain hend _ ih =>
    rw [lines_append (by simp) hplain fun _ h => absurd h hend, lines, ih]
    simp
  | returnFeed hplain _ ih =>
    rw [lines_append (by simp) hplain (by simp), lines, ih]
    simp

/-- A character that breaks no line may be put before a text. -/
theorem Written.cons {c : Char} {ls : List (List Char)} {cs : List Char} (hfeed : c ≠ '\n')
    (hreturn : ∀ after, c = '\r' → cs ≠ '\n' :: after) (h : Written ls cs) :
    Written ((c :: ls.headD []) :: ls.tail) (c :: cs) := by
  have hplain : ∀ {line : List Char}, '\n' ∉ line → '\n' ∉ c :: line := fun hline hmem =>
    (List.mem_cons.mp hmem).elim (Ne.symm hfeed) hline
  cases h with
  | nil => exact .last nofun (hplain List.not_mem_nil)
  | last hne hline => exact .last nofun (hplain hline)
  | returnFeed hline h => exact .returnFeed (hplain hline) h
  | @feed line more rest hline hend h =>
    refine .feed (hplain hline) ?_ h
    cases line with
    | nil => exact fun hlast => hreturn rest (Option.some.inj hlast) rfl
    | cons d line => exact hend

/-- Every text is written in its lines. -/
theorem written_lines (cs : List Char) : Written (lines cs) cs := by
  fun_induction lines cs with
  | case1 => exact .nil
  | case2 rest ih => exact .feed List.not_mem_nil nofun ih
  | case3 rest ih => exact .returnFeed List.not_mem_nil ih
  | case4 c rest hfeed hreturn hlines ih =>
    rw [hlines] at ih
    exact ih.cons hfeed hreturn
  | case5 c rest hfeed hreturn line more hlines ih =>
    rw [hlines] at ih
    exact ih.cons hfeed hreturn

/-- The lines of a text are those that it is written in. -/
theorem lines_eq_iff {cs : List Char} {ls : List (List Char)} : lines cs = ls ↔ Written ls cs :=
  ⟨fun h => h ▸ written_lines cs, Written.lines_eq⟩

/-! ## Texts one after the other -/

/-- A line feed between two texts ends the last line of the first, or if there is none that goes on, makes an empty line. -/
theorem Written.append_feed {ls more : List (List Char)} {cs rest : List Char} (h : Written ls cs)
    (hend : cs.getLast? ≠ some '\r') (hrest : Written more rest) :
    ∃ gap, (∀ line ∈ gap, line = []) ∧ Written (ls ++ gap ++ more) (cs ++ '\n' :: rest) := by
  induction h with
  | nil => exact ⟨[[]], by simp, .feed List.not_mem_nil nofun hrest⟩
  | last hne hplain => exact ⟨[], by simp, .feed hplain hend hrest⟩
  | @feed line following after hplain hline h ih =>
    obtain ⟨gap, hgap, hwritten⟩ := ih fun hlast => hend (by simp [List.getLast?_append, List.getLast?_cons, hlast])
    refine ⟨gap, hgap, ?_⟩
    have := Written.feed hplain hline hwritten
    simpa using this
  | @returnFeed line following after hplain h ih =>
    obtain ⟨gap, hgap, hwritten⟩ := ih fun hlast => hend (by simp [List.getLast?_append, List.getLast?_cons, hlast])
    refine ⟨gap, hgap, ?_⟩
    have := Written.returnFeed hplain hwritten
    simpa using this

/-- What stands in a line stands in the text. -/
theorem Written.mem_of_mem {ls : List (List Char)} {cs : List Char} (h : Written ls cs) {line : List Char} (hline : line ∈ ls)
    {c : Char} (hc : c ∈ line) : c ∈ cs := by
  induction h with
  | nil => exact absurd hline List.not_mem_nil
  | last hne hplain => exact List.mem_singleton.mp hline ▸ hc
  | feed hplain hend h ih =>
    rcases List.mem_cons.mp hline with rfl | hline
    · exact List.mem_append_left _ hc
    · exact List.mem_append_right _ (List.mem_cons_of_mem _ (ih hline))
  | returnFeed hplain h ih =>
    rcases List.mem_cons.mp hline with rfl | hline
    · exact List.mem_append_left _ hc
    · exact List.mem_append_right _ (List.mem_cons_of_mem _ (List.mem_cons_of_mem _ (ih hline)))

end SparseRows.Text
