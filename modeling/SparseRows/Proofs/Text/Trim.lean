import SparseRows.Text.Blank

/-!
# Trimming

What trimming takes off the ends of a text, and what it leaves.
-/

namespace SparseRows.Text

variable {cs gap gap' : List Char}

/-- A text without blanks at its ends. -/
structure Tight (cs : List Char) : Prop where
  head : ∀ c ∈ cs.head?, isBlank c = false
  last : ∀ c ∈ cs.getLast?, isBlank c = false

theorem trimStart_gap_append (hgap : ∀ c ∈ gap, isBlank c) (cs : List Char) : trimStart (gap ++ cs) = trimStart cs :=
  List.dropWhile_append_of_pos hgap

theorem trimEnd_append_gap (hgap : ∀ c ∈ gap, isBlank c) (cs : List Char) : trimEnd (cs ++ gap) = trimEnd cs := by
  rw [trimEnd, List.reverse_append, List.dropWhile_append_of_pos fun c hc => hgap c (List.mem_reverse.mp hc)]
  rfl

/-- A text that does not start with a blank loses nothing at its start. -/
theorem trimStart_of_head (hhead : ∀ c ∈ cs.head?, isBlank c = false) : trimStart cs = cs := by
  cases cs with
  | nil => rfl
  | cons c cs => exact List.dropWhile_cons_of_neg (by simp [hhead c rfl])

/-- A text that does not end with a blank loses nothing at its end. -/
theorem trimEnd_of_last (hlast : ∀ c ∈ cs.getLast?, isBlank c = false) : trimEnd cs = cs := by
  have hreverse : cs.reverse.dropWhile isBlank = cs.reverse :=
    trimStart_of_head fun c hc => hlast c (by rwa [List.head?_reverse] at hc)
  rw [trimEnd, hreverse, List.reverse_reverse]

/-- Of nothing but blanks nothing is left. -/
theorem trimStart_gap (hgap : ∀ c ∈ gap, isBlank c) : trimStart gap = [] := by
  rw [← gap.append_nil, trimStart_gap_append hgap]
  rfl

theorem trimEnd_gap (hgap : ∀ c ∈ gap, isBlank c) : trimEnd gap = [] :=
  trimEnd_append_gap hgap []

/-- A character that is not blank stays at the start. -/
theorem head?_trimEnd {c : Char} (hhead : cs.head? = some c) (hc : isBlank c = false) : (trimEnd cs).head? = some c := by
  obtain ⟨rest, rfl⟩ := List.head?_eq_some_iff.mp hhead
  rw [trimEnd, List.head?_reverse, List.reverse_cons, List.dropWhile_append]
  split
  · rw [List.dropWhile_cons_of_neg (by simp [hc])]
    rfl
  · exact List.getLast?_concat

/-- Trimming takes the blanks around a text off. -/
theorem Tight.trim_between (h : Tight cs) (hgap : ∀ c ∈ gap, isBlank c) (hgap' : ∀ c ∈ gap', isBlank c) :
    trim (gap ++ cs ++ gap') = cs := by
  rw [trim, List.append_assoc, trimStart_gap_append hgap]
  cases cs with
  | nil =>
    rw [List.nil_append, trimStart_gap hgap']
    rfl
  | cons c cs =>
    have hhead : ∀ d ∈ (c :: cs ++ gap').head?, isBlank d = false := h.head
    rw [trimStart_of_head hhead, trimEnd_append_gap hgap', trimEnd_of_last h.last]

end SparseRows.Text
