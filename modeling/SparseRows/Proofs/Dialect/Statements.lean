import Mathlib.Data.List.Basic
import SparseRows.Dialect.Script
import SparseRows.Proofs.Text.Trim
import SparseRows.Proofs.Text.Written

/-!
# The statements of a script

What a script says is a matter of its lines. Without the blank lines, some are comments, and the others are cut into groups,
each of which ends with the first line that has a semicolon at its end. The script has an item for each comment and one for
each group, in order (`parse_by_lines`), so comments and blank lines make no difference to the statements, wherever they are
put.
-/

namespace SparseRows.Dialect

namespace ScriptItem

/-- The number of the last line of an item. -/
def number : ScriptItem → Nat
  | comment number _ | statement number _ => number

/-- Whether an item is a comment. -/
def isComment : ScriptItem → Bool
  | comment .. => true
  | statement .. => false

/-- The statement that a part of a script is, if it is one. -/
def sql? : ScriptItem → Option String
  | statement _ sql => some sql
  | comment _ _ => none

end ScriptItem

namespace Script

/-! ## What the lines say -/

/-- A line of a script, without the blanks at its end. -/
structure Line where
  number : Nat
  text : List Char

namespace Line

/-- Whether nothing is left of a line. -/
def isBlank (line : Line) : Bool :=
  line.text.isEmpty

/-- Whether a line is a comment: it has `#` in its first column. -/
def isComment (line : Line) : Bool :=
  line.text.head? == some '#'

/-- Whether a line ends a statement: its last character is a semicolon. -/
def endsStatement (line : Line) : Bool :=
  line.text.getLast? == some ';'

/-- The item for a comment. -/
def comment (line : Line) : ScriptItem :=
  .comment line.number (String.ofList line.text)

end Line

/-- The lines that are not blank, where the first of all has this number. -/
def nonblank (first : Nat) (lines : List (List Char)) : List Line :=
  ((lines.zipIdx first).map fun (raw, number) => ⟨number, Text.trimEnd raw⟩).filter (!·.isBlank)

/-- The text of some lines, with single spaces between them. -/
def joinedText (lines : List Line) : List Char :=
  [' '].intercalate (lines.map Line.text)

/-- Lines that belong together. -/
structure Group where
  begun : List Line
  last : Line

namespace Group

/-- The lines of a group. -/
def lines (group : Group) : List Line :=
  group.begun ++ [group.last]

/-- The statement of a group has the number of its last line and the text of all its lines, without the semicolon at the end. -/
def statement (group : Group) : ScriptItem :=
  .statement group.last.number (String.ofList (joinedText group.lines).dropLast)

end Group

/-- Some lines and the groups that they are cut into: of the lines of a group the last one, and no other, ends a statement.
Lines that are left over make no group. -/
inductive Cut : List Line → List Group → Prop
  | rest {lines : List Line} (h : ∀ line ∈ lines, line.endsStatement = false) : Cut lines []
  | group {begun lines : List Line} {last : Line} {groups : List Group} (hbegun : ∀ line ∈ begun, line.endsStatement = false)
      (hlast : last.endsStatement = true) (h : Cut lines groups) : Cut (begun ++ [last] ++ lines) (⟨begun, last⟩ :: groups)

/-- Whether a line is blank or a comment. -/
def IsIdle (line : List Char) : Prop :=
  (∀ c ∈ line, Text.isBlank c) ∨ line.head? = some '#'

/-- Some lines, and the same lines with any number of blank lines and comments anywhere between them. -/
inductive Padded : List (List Char) → List (List Char) → Prop
  | nil : Padded [] []
  | keep (line : List Char) {lines padded : List (List Char)} (h : Padded lines padded) : Padded (line :: lines) (line :: padded)
  | pad {line : List Char} {lines padded : List (List Char)} (hidle : IsIdle line) (h : Padded lines padded) :
      Padded lines (line :: padded)

/-! ## One line after the other -/

theorem nonblank_cons (number : Nat) (raw : List Char) (rest : List (List Char)) :
    nonblank number (raw :: rest) =
      if Line.isBlank ⟨number, Text.trimEnd raw⟩ then nonblank (number + 1) rest
      else ⟨number, Text.trimEnd raw⟩ :: nonblank (number + 1) rest := by
  rw [nonblank, List.zipIdx_cons, List.map_cons, List.filter_cons]
  cases Line.isBlank ⟨number, Text.trimEnd raw⟩ <;> rfl

/-- What a line does: it is blank, it is a comment, it ends the statement that has begun, or it goes on with it. -/
theorem items_cons (number : Nat) (begun raw : List Char) (rest : List (List Char)) :
    let line : Line := ⟨number, Text.trimEnd raw⟩
    (line.isBlank = true ∧ items number begun (raw :: rest) = items (number + 1) begun rest) ∨
    (line.isBlank = false ∧ line.isComment = true ∧
      items number begun (raw :: rest) = line.comment :: items (number + 1) begun rest) ∨
    (line.isBlank = false ∧ line.isComment = false ∧ line.endsStatement = true ∧
      items number begun (raw :: rest) =
        .statement number (String.ofList (joined begun line.text.dropLast)) :: items (number + 1) [] rest) ∨
    (line.isBlank = false ∧ line.isComment = false ∧ line.endsStatement = false ∧
      items number begun (raw :: rest) = items (number + 1) (joined begun line.text) rest) := by
  intro line
  have hitems : items number begun (raw :: rest) =
      if line.isBlank then items (number + 1) begun rest
      else if line.isComment then line.comment :: items (number + 1) begun rest
      else if line.endsStatement then
        .statement number (String.ofList (joined begun line.text.dropLast)) :: items (number + 1) [] rest
      else items (number + 1) (joined begun line.text) rest := rfl
  rw [hitems]
  cases line.isBlank <;> cases line.isComment <;> cases line.endsStatement <;> simp

/-! ## Comments and line numbers -/

/-- The comments among the items are those among the lines. -/
theorem filter_isComment_items (number : Nat) (begun : List Char) (lines : List (List Char)) :
    (items number begun lines).filter (·.isComment) = ((nonblank number lines).filter (·.isComment)).map Line.comment := by
  induction lines generalizing number begun with
  | nil => rfl
  | cons raw rest ih =>
    rw [nonblank_cons]
    rcases items_cons number begun raw rest with
      ⟨hblank, hitems⟩ | ⟨hblank, hcomment, hitems⟩ | ⟨hblank, hcomment, -, hitems⟩ | ⟨hblank, hcomment, -, hitems⟩
    · rw [hitems, hblank, if_pos rfl, ih]
    · rw [hitems, hblank, if_neg Bool.false_ne_true, List.filter_cons_of_pos rfl, List.filter_cons_of_pos hcomment, ih]
      rfl
    · rw [hitems, hblank, if_neg Bool.false_ne_true, List.filter_cons_of_neg Bool.false_ne_true,
        List.filter_cons_of_neg (by simp [hcomment]), ih]
    · rw [hitems, hblank, if_neg Bool.false_ne_true, List.filter_cons_of_neg (by simp [hcomment]), ih]

/-- Items are numbered by lines, of which none counts twice. -/
theorem map_number_items_sublist (number : Nat) (begun : List Char) (lines : List (List Char)) :
    ((items number begun lines).map ScriptItem.number).Sublist (List.range' number lines.length) := by
  induction lines generalizing number begun with
  | nil => exact List.Sublist.refl _
  | cons raw rest ih =>
    rw [List.length_cons, List.range'_succ]
    rcases items_cons number begun raw rest with ⟨-, hitems⟩ | ⟨-, -, hitems⟩ | ⟨-, -, -, hitems⟩ | ⟨-, -, -, hitems⟩
    · exact hitems ▸ (ih ..).cons _
    · exact hitems ▸ (ih ..).cons_cons _
    · exact hitems ▸ (ih ..).cons_cons _
    · exact hitems ▸ (ih ..).cons _

/-- The numbers of the items grow. -/
theorem pairwise_number_items (number : Nat) (begun : List Char) (lines : List (List Char)) :
    (items number begun lines).Pairwise fun a b => a.number < b.number :=
  List.pairwise_map.mp (List.Pairwise.sublist (map_number_items_sublist number begun lines) List.pairwise_lt_range')

/-! ## Statements -/

/-- A line is joined to those before it by a space. -/
theorem joinedText_concat {lines : List Line} (hsome : lines ≠ []) (line : Line) :
    joinedText (lines ++ [line]) = joinedText lines ++ ' ' :: line.text := by
  induction lines with
  | nil => exact absurd rfl hsome
  | cons first lines ih =>
    cases lines with
    | nil => simp [joinedText]
    | cons second lines =>
      have hmore := ih (List.cons_ne_nil _ _)
      simp only [joinedText, List.cons_append, List.map_cons, List.intercalate_cons_cons, List.append_assoc] at hmore ⊢
      rw [hmore]

/-- Lines that are not blank do not join to nothing. -/
theorem joinedText_ne_nil {lines : List Line} (hsome : lines ≠ []) (hlines : ∀ line ∈ lines, line.isBlank = false) :
    joinedText lines ≠ [] := by
  cases lines with
  | nil => exact absurd rfl hsome
  | cons first lines =>
    have hfirst : first.text ≠ [] := List.isEmpty_eq_false_iff.mp (hlines first List.mem_cons_self)
    cases lines with
    | nil => rwa [joinedText, List.map_singleton, List.intercalate_singleton]
    | cons second lines =>
      rw [joinedText, List.map_cons, List.map_cons, List.intercalate_cons_cons, List.append_assoc]
      exact List.append_ne_nil_of_left_ne_nil hfirst _

/-- The text of lines with one more line. -/
theorem joined_joinedText {begun : List Line} (hbegun : ∀ line ∈ begun, line.isBlank = false) (line : Line) :
    joined (joinedText begun) line.text = joinedText (begun ++ [line]) := by
  by_cases hsome : begun = []
  · subst hsome
    rw [List.nil_append, joinedText, joinedText, List.map_singleton, List.intercalate_singleton]
    rfl
  · rw [joinedText_concat hsome, joined, List.isEmpty_eq_false_iff.mpr (joinedText_ne_nil hsome hbegun), if_neg Bool.false_ne_true]

/-- What is taken off the end of a line is taken off the end of the text. -/
theorem joined_dropLast (begun : List Char) {text : List Char} (hsome : text ≠ []) :
    joined begun text.dropLast = (joined begun text).dropLast := by
  simp only [joined]
  split
  · rfl
  · rw [List.dropLast_append_of_ne_nil (List.cons_ne_nil _ _), List.dropLast_cons_of_ne_nil hsome]

/-- The statements among the items are those of the groups, where some lines have been read of the first group. -/
theorem exists_cut_items (number : Nat) {begun : List Line} (hblank : ∀ line ∈ begun, line.isBlank = false)
    (hbegun : ∀ line ∈ begun, line.endsStatement = false) (lines : List (List Char)) :
    ∃ groups, Cut (begun ++ (nonblank number lines).filter (!·.isComment)) groups ∧
      (items number (joinedText begun) lines).filter (!·.isComment) = groups.map Group.statement := by
  induction lines generalizing number begun with
  | nil => exact ⟨[], .rest (by simpa [nonblank] using hbegun), rfl⟩
  | cons raw rest ih =>
    rw [nonblank_cons]
    rcases items_cons number (joinedText begun) raw rest with
      ⟨hline, hitems⟩ | ⟨hline, hcomment, hitems⟩ | ⟨hline, hcomment, hend, hitems⟩ | ⟨hline, hcomment, hend, hitems⟩
    · rw [hitems, hline, if_pos rfl]
      exact ih (number + 1) hblank hbegun
    · rw [hitems, hline, if_neg Bool.false_ne_true, List.filter_cons_of_neg (by simp [hcomment]),
        List.filter_cons_of_neg Bool.false_ne_true]
      exact ih (number + 1) hblank hbegun
    · rw [hitems, hline, if_neg Bool.false_ne_true, List.filter_cons_of_pos (by simp [hcomment])]
      obtain ⟨groups, hcut, hgroups⟩ := @ih (number + 1) [] nofun nofun
      refine ⟨⟨begun, ⟨number, Text.trimEnd raw⟩⟩ :: groups, ?_, ?_⟩
      · rw [List.append_cons]
        exact .group hbegun hend hcut
      · rw [List.filter_cons_of_pos rfl, List.map_cons, ← hgroups, joined_dropLast _ (List.isEmpty_eq_false_iff.mp hline),
          joined_joinedText hblank]
        rfl
    · rw [hitems, hline, if_neg Bool.false_ne_true, List.filter_cons_of_pos (by simp [hcomment]), joined_joinedText hblank,
        List.append_cons]
      refine ih (number + 1) ?_ ?_
      · exact List.forall_mem_append.mpr ⟨hblank, List.forall_mem_singleton.mpr hline⟩
      · exact List.forall_mem_append.mpr ⟨hbegun, List.forall_mem_singleton.mpr hend⟩

/-- A line that is idle is blank or a comment, once the blanks at its end are off. -/
theorem IsIdle.isBlank_or_isComment {raw : List Char} (h : IsIdle raw) (number : Nat) :
    Line.isBlank ⟨number, Text.trimEnd raw⟩ = true ∨ Line.isComment ⟨number, Text.trimEnd raw⟩ = true := by
  rcases h with hgap | hmark
  · exact .inl (List.isEmpty_iff.mpr (Text.trimEnd_gap hgap))
  · exact .inr (beq_iff_eq.mpr (Text.head?_trimEnd hmark (by decide)))

/-- Comments and blank lines make no difference to the texts of the statements. -/
theorem filterMap_sql?_items_of_padded {lines padded : List (List Char)} (h : Padded lines padded) (number number' : Nat)
    (begun : List Char) :
    (items number begun padded).filterMap ScriptItem.sql? = (items number' begun lines).filterMap ScriptItem.sql? := by
  induction h generalizing number number' begun with
  | nil => rfl
  | keep raw _ ih =>
    simp only [items]
    split_ifs
    · exact ih ..
    · exact ih ..
    · exact congrArg (List.cons _) (ih ..)
    · exact ih ..
  | @pad raw lines padded hidle _ ih =>
    have hline := hidle.isBlank_or_isComment number
    rcases items_cons number begun raw padded with ⟨-, hitems⟩ | ⟨-, -, hitems⟩ | ⟨hblank, hcomment, -⟩ | ⟨hblank, hcomment, -⟩
    · exact hitems ▸ ih ..
    · exact hitems ▸ ih ..
    all_goals simp [hblank, hcomment] at hline

/-- What a script says: each comment and each group of lines has its item, and the items are in the order of the lines,
where each takes the number of its last line. Comments and blank lines make no difference to the texts of the statements. -/
theorem parse_by_lines (s : String) :
    (∃ lines groups, Text.Written lines s.toList ∧ Cut ((nonblank 1 lines).filter (!·.isComment)) groups ∧
      (parse s).filter (·.isComment) = ((nonblank 1 lines).filter (·.isComment)).map Line.comment ∧
      (parse s).filter (!·.isComment) = groups.map Group.statement) ∧
    ((parse s).Pairwise fun a b => a.number < b.number) ∧
    ∀ (lines padded : List (List Char)) (s' : String), Text.Written lines s.toList → Text.Written padded s'.toList →
      Padded lines padded → (parse s').filterMap ScriptItem.sql? = (parse s).filterMap ScriptItem.sql? := by
  refine ⟨?_, pairwise_number_items 1 [] _, fun lines padded s' hlines hpadded h => ?_⟩
  · obtain ⟨groups, hcut, hgroups⟩ := @exists_cut_items 1 [] nofun nofun (Text.lines s.toList)
    exact ⟨Text.lines s.toList, groups, Text.written_lines s.toList, hcut, filter_isComment_items 1 [] _, hgroups⟩
  · rw [parse, parse, hlines.lines_eq, hpadded.lines_eq]
    exact filterMap_sql?_items_of_padded h 1 1 []

/-- A statement of three lines with two semicolons at its end and one that never ends, and then a comment before them, and
another one with a semicolon and two kinds of blank lines in the midst of the first. -/
theorem parse_by_lines_of_interrupted :
    let plain := "CREATE (\n  a\n);;\nDROP"
    let lines := ["CREATE (", "  a", ");;", "DROP"].map String.toList
    let padded := "# all\nCREATE (\r\n\n  a\n# inside;\n \t\n);;\nDROP"
    let lines' := ["# all", "CREATE (", "", "  a", "# inside;", " \t", ");;", "DROP"].map String.toList
    (Text.Written lines plain.toList ∧ Text.Written lines' padded.toList ∧ Padded lines lines') ∧
    (parse padded).filterMap ScriptItem.sql? = (parse plain).filterMap ScriptItem.sql? ∧
    parse padded = [.comment 1 "# all", .comment 5 "# inside;", .statement 7 "CREATE (   a );"] := by
  intro plain lines padded lines'
  have hlines : Text.Written lines plain.toList := Text.lines_eq_iff.mp (by decide)
  have hlines' : Text.Written lines' padded.toList := Text.lines_eq_iff.mp (by decide)
  have hpadded : Padded lines lines' := by
    refine .pad (.inr rfl) (.keep _ (.pad (.inl ?_) (.keep _ (.pad (.inr rfl) (.pad (.inl ?_) (.keep _ (.keep _ .nil)))))))
    all_goals exact List.all_eq_true.mp (by decide)
  exact ⟨⟨hlines, hlines', hpadded⟩, (parse_by_lines plain).2.2 lines lines' padded hlines hlines' hpadded, by decide⟩

end Script

end SparseRows.Dialect
