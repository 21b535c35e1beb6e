import Mathlib.Data.List.Basic
import Mathlib.Data.List.TakeWhile
import SparseRows.Dialect.Properties
import SparseRows.Proofs.Text.Trim
import SparseRows.Proofs.Text.Written

/-!
# The end of a properties text

An entry is complete with its last line, which is the first one that does not go on in the next. Where the text ends before
that, the entry counts for nothing, though a blank line would have completed it: `parse_append_blank` says what becomes of a
text when blank lines follow it.
-/

namespace SparseRows.Dialect.Properties

/-! ## Lines that go on -/

/-- A text that ends in an even number of backslashes, or in none. -/
def EndsEven (cs : List Char) : Prop :=
  ∃ body n, cs = body ++ List.replicate (2 * n) '\\' ∧ body.getLast? ≠ some '\\'

/-- What stands before some other character than a backslash does not count. -/
theorem isContinued_append {before : List Char} (hlast : before.getLast? ≠ some '\\') (cs : List Char) :
    isContinued (before ++ cs) = isContinued cs := by
  have hbefore : before.reverse.takeWhile (· == '\\') = [] := by
    rw [← List.head?_reverse] at hlast
    cases hreverse : before.reverse with
    | nil => rfl
    | cons c rest =>
      rw [hreverse, List.head?_cons] at hlast
      exact List.takeWhile_cons_of_neg fun hc => hlast (congrArg some (beq_iff_eq.mp hc))
  rw [isContinued, isContinued, List.reverse_append, List.takeWhile_append, hbefore, List.append_nil]
  split
  · next hall => rw [← List.length_reverse, hall, List.length_reverse]
  · rfl

/-- A line of backslashes alone goes on if their number is odd. -/
theorem isContinued_replicate (n : Nat) : isContinued (List.replicate n '\\') = (n % 2 == 1) := by
  rw [isContinued, List.reverse_replicate, List.takeWhile_replicate, if_pos (beq_self_eq_true _), List.length_replicate]

/-- A line that ends in an even number of backslashes, or in none, does not go on. -/
theorem EndsEven.isContinued_eq_false {line : List Char} (h : EndsEven line) : isContinued line = false := by
  obtain ⟨body, n, rfl, hbody⟩ := h
  rw [isContinued_append hbody, isContinued_replicate, Nat.mul_mod_right]
  rfl

/-- One more backslash makes a line go on. -/
theorem EndsEven.isContinued_concat {line : List Char} (h : EndsEven line) : isContinued (line ++ ['\\']) = true := by
  obtain ⟨body, n, rfl, hbody⟩ := h
  rw [List.append_assoc, ← List.replicate_succ', isContinued_append hbody, isContinued_replicate, Nat.mul_add_mod]
  rfl

/-- The blanks that a line starts with do not count. -/
theorem isContinued_trimStart (raw : List Char) : isContinued (Text.trimStart raw) = isContinued raw := by
  have hlast : (raw.takeWhile Text.isBlank).getLast? ≠ some '\\' := fun hlast => by
    have hblank : Text.isBlank '\\' := List.mem_takeWhile_imp (List.mem_of_getLast? hlast)
    exact absurd hblank (by decide)
  rw [← isContinued_append hlast, Text.takeWhile_append_trimStart]

/-! ## Entry by entry -/

/-- What has been read of an entry that goes on past the last of some lines, where `begun` has been read of the first entry. -/
def unfinished (begun : List Char) : List (List Char) → List Char
  | [] => begun
  | raw :: rest =>
    let line := Text.trimStart raw
    if begun.isEmpty && isIdle line then unfinished begun rest
    else if isContinued line then unfinished (begun ++ line.dropLast) rest
    else unfinished [] rest

/-- The entries in lines that follow others. -/
theorem entries_append (begun : List Char) (lines more : List (List Char)) :
    entries begun (lines ++ more) = entries begun lines ++ entries (unfinished begun lines) more := by
  induction lines generalizing begun with
  | nil => rfl
  | cons raw rest ih =>
    simp only [List.cons_append, entries, unfinished]
    split_ifs
    · exact ih _
    · exact ih _
    · exact congrArg (List.cons _) (ih _)

/-- What is unfinished after some lines is what the lines behind them find begun. -/
theorem unfinished_append (begun : List Char) (lines more : List (List Char)) :
    unfinished begun (lines ++ more) = unfinished (unfinished begun lines) more := by
  induction lines generalizing begun with
  | nil => rfl
  | cons raw rest ih =>
    simp only [List.cons_append, unfinished]
    split_ifs <;> exact ih _

/-- Nothing is left unfinished by a last line that does not go on. -/
theorem unfinished_of_last {lines : List (List Char)} (hlast : ∀ line, lines.getLast? = some line → EndsEven line) :
    unfinished [] lines = [] := by
  rcases List.eq_nil_or_concat' lines with rfl | ⟨before, line, rfl⟩
  · rfl
  · have hline := (hlast line List.getLast?_concat).isContinued_eq_false
    simp only [unfinished_append, unfinished, isContinued_trimStart, hline, Bool.false_eq_true, if_false]
    split_ifs with hidle
    · rw [Bool.and_eq_true] at hidle
      exact List.isEmpty_iff.mp hidle.1
    · rfl

/-- Between two entries blank lines are no entries. -/
theorem entries_nil_of_blank {blanks : List (List Char)} (hblank : ∀ line ∈ blanks, ∀ c ∈ line, Text.isBlank c) :
    entries [] blanks = [] := by
  induction blanks with
  | nil => rfl
  | cons line blanks ih =>
    rw [List.forall_mem_cons] at hblank
    rw [entries, Text.trimStart_gap hblank.1]
    exact ih hblank.2

/-- A blank line completes an entry that has begun. -/
theorem entries_of_blank {blanks : List (List Char)} (hsome : blanks ≠ []) (hblank : ∀ line ∈ blanks, ∀ c ∈ line, Text.isBlank c)
    (begun : List Char) : entries begun blanks = if begun = [] then [] else [begun] := by
  by_cases hbegun : begun = []
  · subst hbegun
    rw [entries_nil_of_blank hblank, if_pos rfl]
  · obtain ⟨line, blanks, rfl⟩ := List.exists_cons_of_ne_nil hsome
    rw [List.forall_mem_cons] at hblank
    rw [entries, Text.trimStart_gap hblank.1, List.isEmpty_eq_false_iff.mpr hbegun, if_neg hbegun, List.append_nil]
    exact congrArg (List.cons begun) (entries_nil_of_blank hblank.2)

/-- An entry without text has no key. -/
theorem add_nil (properties : Properties) : add properties [] = properties :=
  rfl

/-- An entry makes no difference if it has no key or if it says what is known already. -/
theorem add_eq_self_iff (properties : Properties) (entry : List Char) :
    add properties entry = properties ↔ (split entry).1 = "" ∨ properties[(split entry).1]? = some (split entry).2 := by
  rw [add]
  split
  · next hkey => simp [hkey]
  · next hkey =>
    rw [or_iff_right hkey]
    constructor
    · intro h
      rw [← h, Std.ExtTreeMap.getElem?_insert_self]
    · intro h
      refine Std.ExtTreeMap.ext_getElem? fun key => ?_
      rw [Std.ExtTreeMap.getElem?_insert]
      split
      · next heq => rw [← Std.LawfulEqOrd.eq_of_compare heq, h]
      · rfl

/-- What becomes of a text when a line break and blank lines follow it. The entry that the last line of the text leaves
unfinished, if there is one, is an entry then. This makes a difference unless the entry has no key or says what is known
already, and never does if the last line ends in an even number of backslashes. -/
theorem parse_append_blank (s blanks : String) (hend : s.toList.getLast? ≠ some '\r') (hsome : blanks ≠ "")
    (hblank : ∀ c ∈ blanks.toList, Text.isBlank c) :
    let entry := unfinished [] (Text.lines s.toList)
    parse (s ++ "\n" ++ blanks) = add (parse s) entry ∧
    (parse (s ++ "\n" ++ blanks) = parse s ↔ (split entry).1 = "" ∨ (parse s)[(split entry).1]? = some (split entry).2) ∧
    ((∀ line, (Text.lines s.toList).getLast? = some line → EndsEven line) → parse (s ++ "\n" ++ blanks) = parse s) := by
  intro entry
  obtain ⟨gap, hgap, hwritten⟩ :=
    (Text.written_lines s.toList).append_feed hend (Text.written_lines blanks.toList)
  have hlines : Text.lines (s ++ "\n" ++ blanks).toList = Text.lines s.toList ++ (gap ++ Text.lines blanks.toList) := by
    rw [← List.append_assoc, Text.lines_eq_iff]
    simpa using hwritten
  have hmore : entries entry (gap ++ Text.lines blanks.toList) = if entry = [] then [] else [entry] := by
    refine entries_of_blank ?_ (List.forall_mem_append.mpr ⟨?_, ?_⟩) entry
    · exact List.append_ne_nil_of_right_ne_nil _ (Text.lines_ne_nil fun hempty => hsome (String.toList_eq_nil_iff.mp hempty))
    · exact fun line hline c hc => absurd (hgap line hline ▸ hc) List.not_mem_nil
    · exact fun line hline c hc => hblank c ((Text.written_lines _).mem_of_mem hline hc)
  have hparse : parse (s ++ "\n" ++ blanks) = add (parse s) entry := by
    rw [parse, hlines, entries_append, List.foldl_append, hmore]
    split
    · next hentry => rw [List.foldl_nil, hentry, add_nil, parse]
    · rw [List.foldl_cons, List.foldl_nil, parse]
  refine ⟨hparse, ?_, fun hlast => ?_⟩
  · rw [hparse]
    exact add_eq_self_iff (parse s) entry
  · rw [hparse, show entry = [] from unfinished_of_last hlast, add_nil]

/-- The last line of a text names the algorithm of row hashes and ends in a backslash. The property is lost, unless a blank line
follows. -/
theorem parse_append_blank_of_cutShort :
    let s := "validate = select 1\nrowid-hash = SHA-512\\"
    (s.toList.getLast? ≠ some '\r' ∧ "\n" ≠ "" ∧ ∀ c ∈ "\n".toList, Text.isBlank c) ∧
    (parse s)["rowid-hash"]? = none ∧ (parse (s ++ "\n" ++ "\n"))["rowid-hash"]? = some "SHA-512" ∧
    parse (s ++ "\n" ++ "\n") ≠ parse s := by
  intro s
  have hend : s.toList.getLast? ≠ some '\r' := by decide
  have hblank : ∀ c ∈ "\n".toList, Text.isBlank c := List.all_eq_true.mp (by decide)
  obtain ⟨hparse, hiff, -⟩ := parse_append_blank s "\n" hend (by decide) hblank
  have hentry : split (unfinished [] (Text.lines s.toList)) = ("rowid-hash", "SHA-512") := by decide
  have hlost : (parse s)["rowid-hash"]? = none := by decide
  rw [hentry, hlost] at hiff
  refine ⟨⟨hend, by decide, hblank⟩, hlost, ?_, fun h => absurd (hiff.mp h) (by decide)⟩
  rw [hparse, add, hentry, if_neg (by decide)]
  exact Std.ExtTreeMap.getElem?_insert_self

end SparseRows.Dialect.Properties
