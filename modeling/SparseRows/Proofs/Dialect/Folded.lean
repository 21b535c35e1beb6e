import SparseRows.Proofs.Dialect.Entries

/-!
# Entries that are folded

A properties text may be written with any blanks around keys and values, with an entry over several lines, and with blank
lines and comments between the entries. It reads as the same properties however it is written (`parse_of_written`).
-/

namespace SparseRows.Dialect.Properties

/-! ## How properties are written -/

/-- A part of a line, with the blanks that the line starts with. -/
structure Piece where
  indent : List Char
  text : List Char

namespace Piece

/-- What a line can hold of an entry: something that does not start with a blank and does not end in a backslash, unless
that one is doubled. -/
structure IsProper (piece : Piece) : Prop where
  indent : ∀ c ∈ piece.indent, Text.isBlank c
  text_ne_nil : piece.text ≠ []
  start : ∀ c ∈ piece.text.head?, Text.isBlank c = false
  even : EndsEven piece.text

/-- The lines that some pieces are written in: each but the last ends in one more backslash. -/
def lines : List Piece → List (List Char)
  | [] => []
  | [piece] => [piece.indent ++ piece.text]
  | piece :: next :: rest => (piece.indent ++ piece.text ++ ['\\']) :: lines (next :: rest)

/-- The text of some pieces in one. -/
def joined (pieces : List Piece) : List Char :=
  (pieces.map text).flatten

end Piece

/-- One way to write an entry. The key, the separator and the blanks around it are in the first line. -/
structure Spelling where
  key : List Char
  separator : Char
  /-- The blanks before the key and on both sides of the separator. -/
  indent : List Char
  before : List Char
  after : List Char
  /-- What the first line holds of the value. -/
  first : List Char
  /-- The other lines, which hold the rest of the value. -/
  more : List Piece

namespace Spelling

variable (spelling : Spelling)

/-- What the first line holds. -/
def head : Piece :=
  ⟨spelling.indent, spelling.key ++ spelling.before ++ spelling.separator :: spelling.after ++ spelling.first⟩

/-- The value. -/
def value : List Char :=
  spelling.first ++ Piece.joined spelling.more

/-- The lines of the entry. -/
def lines : List (List Char) :=
  Piece.lines (spelling.head :: spelling.more)

/-- What an entry has to observe. The key can be told from a comment, and neither key nor value has blanks at its ends. -/
structure IsProper : Prop where
  key_ne_nil : spelling.key ≠ []
  key_tight : Text.Tight spelling.key
  key_plain : '=' ∉ spelling.key ∧ ':' ∉ spelling.key
  key_start : spelling.key.head? ≠ some '#' ∧ spelling.key.head? ≠ some '!'
  separator : spelling.separator = '=' ∨ spelling.separator = ':'
  indent : ∀ c ∈ spelling.indent, Text.isBlank c
  before : ∀ c ∈ spelling.before, Text.isBlank c
  after : ∀ c ∈ spelling.after, Text.isBlank c
  value_tight : Text.Tight spelling.value
  even : EndsEven spelling.head.text
  more : ∀ piece ∈ spelling.more, piece.IsProper

end Spelling

/-- A line that is blank or a comment. -/
def IsIdle (line : List Char) : Prop :=
  (∀ c ∈ line, Text.isBlank c) ∨
    ∃ indent mark rest, line = indent ++ mark :: rest ∧ (∀ c ∈ indent, Text.isBlank c) ∧ (mark = '#' ∨ mark = '!')

/-- What a properties text is made of. -/
inductive Part where
  | idle (line : List Char)
  | entry (spelling : Spelling)

namespace Part

def lines : Part → List (List Char)
  | idle line => [line]
  | entry spelling => spelling.lines

def IsProper : Part → Prop
  | idle line => IsIdle line
  | entry spelling => spelling.IsProper

/-- The key and the value of an entry. -/
def pair? : Part → Option (String × String)
  | idle _ => none
  | entry spelling => some (String.ofList spelling.key, String.ofList spelling.value)

end Part

/-! ## Line by line -/

section Step

variable {begun raw line : List Char} {rest : List (List Char)}

/-- Blank lines and comments between entries are passed over. -/
theorem entries_idle (h : IsIdle raw) : entries [] (raw :: rest) = entries [] rest := by
  have hidle : isIdle (Text.trimStart raw) = true := by
    rcases h with hgap | ⟨indent, mark, rest, rfl, hgap, hmark⟩
    · rw [Text.trimStart_gap hgap]
      rfl
    · rw [Text.trimStart_gap_append hgap]
      rcases hmark with rfl | rfl <;> rfl
  rw [entries, hidle]
  rfl

/-- A line that ends in one more backslash goes on in the next one. -/
theorem entries_piece_concat {piece : Piece} (h : piece.IsProper) (hbegun : (begun.isEmpty && isIdle piece.text) = false) :
    entries begun ((piece.indent ++ piece.text ++ ['\\']) :: rest) = entries (begun ++ piece.text) rest := by
  obtain ⟨c, cs, htext⟩ := List.exists_cons_of_ne_nil h.text_ne_nil
  have hstart : ∀ d ∈ (piece.text ++ ['\\']).head?, Text.isBlank d = false := by
    rw [htext, List.cons_append, List.head?_cons, ← List.head?_cons, ← htext]
    exact h.start
  have hidle : isIdle (piece.text ++ ['\\']) = isIdle piece.text := by
    rw [htext]
    rfl
  rw [List.append_assoc, entries, Text.trimStart_gap_append h.indent, Text.trimStart_of_head hstart, hidle, hbegun,
    h.even.isContinued_concat, List.dropLast_concat]
  rfl

/-- A line that does not ends the entry. -/
theorem entries_piece {piece : Piece} (h : piece.IsProper) (hbegun : (begun.isEmpty && isIdle piece.text) = false) :
    entries begun ((piece.indent ++ piece.text) :: rest) = (begun ++ piece.text) :: entries [] rest := by
  rw [entries, Text.trimStart_gap_append h.indent, Text.trimStart_of_head h.start, hbegun, h.even.isContinued_eq_false]
  rfl

end Step

/-! ## Entry by entry -/

/-- Pieces that are written in lines are read in one, behind what has been read before. -/
theorem entries_lines (begun : List Char) {piece : Piece} {more : List Piece} (h : ∀ other ∈ piece :: more, other.IsProper)
    (hbegun : (begun.isEmpty && isIdle piece.text) = false) (rest : List (List Char)) :
    entries begun (Piece.lines (piece :: more) ++ rest) = (begun ++ Piece.joined (piece :: more)) :: entries [] rest := by
  induction more generalizing begun piece with
  | nil =>
    rw [List.forall_mem_singleton] at h
    rw [Piece.lines, List.singleton_append, entries_piece h hbegun, Piece.joined, List.map_singleton, List.flatten_singleton]
  | cons next more ih =>
    rw [List.forall_mem_cons] at h
    have hread : (begun ++ piece.text).isEmpty = false :=
      List.isEmpty_eq_false_iff.mpr (List.append_ne_nil_of_right_ne_nil _ h.1.text_ne_nil)
    rw [Piece.lines, List.cons_append, entries_piece_concat h.1 hbegun, ih _ h.2 (by rw [hread, Bool.false_and]), List.append_assoc]
    rfl

namespace Spelling

variable {spelling : Spelling}

theorem IsProper.head_isProper (h : spelling.IsProper) : spelling.head.IsProper where
  indent := h.indent
  text_ne_nil := by
    simp [head]
  start := by
    obtain ⟨c, cs, hkey⟩ := List.exists_cons_of_ne_nil h.key_ne_nil
    have hstart := h.key_tight.head
    simp only [head, hkey, List.cons_append, List.head?_cons] at hstart ⊢
    exact hstart
  even := h.even

/-- The key keeps an entry from being taken for a comment. -/
theorem IsProper.isIdle_head (h : spelling.IsProper) : isIdle spelling.head.text = false := by
  obtain ⟨c, cs, hkey⟩ := List.exists_cons_of_ne_nil h.key_ne_nil
  have hstart := h.key_start
  rw [hkey, List.head?_cons, ne_eq, ne_eq, Option.some.injEq, Option.some.injEq] at hstart
  simp [head, hkey, isIdle, hstart]

/-- The lines of an entry are read in one. -/
theorem IsProper.entries_eq (h : spelling.IsProper) (rest : List (List Char)) :
    entries [] (spelling.lines ++ rest) = Piece.joined (spelling.head :: spelling.more) :: entries [] rest :=
  entries_lines [] (List.forall_mem_cons.mpr ⟨h.head_isProper, h.more⟩) h.isIdle_head rest

/-- What is read of an entry is its key and its value. -/
theorem IsProper.split_eq (h : spelling.IsProper) :
    split (Piece.joined (spelling.head :: spelling.more)) = (String.ofList spelling.key, String.ofList spelling.value) := by
  have hseparator : ¬(!isSeparator spelling.separator) = true := by
    rcases h.separator with heq | heq <;> rw [heq] <;> decide
  have hbefore : ∀ c ∈ spelling.key ++ spelling.before, (!isSeparator c) = true := by
    refine List.forall_mem_append.mpr ⟨fun c hc => ?_, fun c hc => ?_⟩
    · have hequals : c ≠ '=' := fun heq => h.key_plain.1 (heq ▸ hc)
      have hcolon : c ≠ ':' := fun heq => h.key_plain.2 (heq ▸ hc)
      simp [isSeparator, hequals, hcolon]
    · have hblank := h.before c hc
      rw [Bool.not_eq_true', isSeparator, Bool.or_eq_false_iff, beq_eq_false_iff_ne, beq_eq_false_iff_ne]
      exact ⟨fun heq => absurd (heq ▸ hblank) (by decide), fun heq => absurd (heq ▸ hblank) (by decide)⟩
  have hjoined : Piece.joined (spelling.head :: spelling.more) =
      (spelling.key ++ spelling.before) ++ spelling.separator :: (spelling.after ++ spelling.value) := by
    simp [Piece.joined, head, value]
  have hkey : Text.trim (spelling.key ++ spelling.before) = spelling.key :=
    @Text.Tight.trim_between _ [] _ h.key_tight nofun h.before
  have hvalue : Text.trim (spelling.after ++ spelling.value) = spelling.value := by
    have htrim := @Text.Tight.trim_between _ _ [] h.value_tight h.after nofun
    rwa [List.append_nil] at htrim
  have hcut : (spelling.separator :: (spelling.after ++ spelling.value)).takeWhile (!isSeparator ·) = [] ∧
      (spelling.separator :: (spelling.after ++ spelling.value)).dropWhile (!isSeparator ·) =
        spelling.separator :: (spelling.after ++ spelling.value) :=
    ⟨List.takeWhile_cons_of_neg hseparator, List.dropWhile_cons_of_neg hseparator⟩
  rw [split, hjoined, List.takeWhile_append_of_pos hbefore, List.dropWhile_append_of_pos hbefore, hcut.1, hcut.2, List.append_nil,
    List.drop_one, List.tail_cons, hkey, hvalue]

/-- An entry is added with its key and its value. -/
theorem IsProper.add_eq (h : spelling.IsProper) (properties : Properties) :
    add properties (Piece.joined (spelling.head :: spelling.more)) =
      properties.insert (String.ofList spelling.key) (String.ofList spelling.value) := by
  have hkey : String.ofList spelling.key ≠ "" := fun hempty => h.key_ne_nil (String.ofList_injective hempty)
  rw [add, h.split_eq, if_neg hkey]

end Spelling

/-- The parts of a text add the entries that are among them. -/
theorem foldl_add_entries {parts : List Part} (h : ∀ part ∈ parts, part.IsProper) (properties : Properties) :
    (entries [] (parts.flatMap Part.lines)).foldl add properties =
      (parts.filterMap Part.pair?).foldl (fun properties (key, value) => properties.insert key value) properties := by
  induction parts generalizing properties with
  | nil => rfl
  | cons part parts ih =>
    rw [List.forall_mem_cons] at h
    rw [List.flatMap_cons]
    cases part with
    | idle line => exact (congrArg _ (entries_idle h.1)).trans (ih h.2 properties)
    | entry spelling =>
      rw [show (Part.entry spelling).lines = spelling.lines from rfl, h.1.entries_eq, List.foldl_cons, h.1.add_eq, ih h.2]
      rfl

/-- However properties are written, a text reads as the values of the keys, where a key that is given twice has its last
value. -/
theorem parse_of_written {parts : List Part} (h : ∀ part ∈ parts, part.IsProper) (s : String)
    (hwritten : Text.Written (parts.flatMap Part.lines) s.toList) :
    parse s = (parts.filterMap Part.pair?).foldl (fun properties (key, value) => properties.insert key value) ∅ := by
  rw [parse, hwritten.lines_eq]
  exact foldl_add_entries h ∅

/-- A path that is given twice, the second time over two lines, of which the first ends in two backslashes of its own and
the second starts like a comment, and an indented comment and a blank line between. -/
theorem parse_of_written_pathTwice :
    let first : Spelling := ⟨"path".toList, '=', [], [], [], "D:".toList, []⟩
    let second : Spelling :=
      ⟨"path".toList, ':', "  ".toList, " ".toList, "\t".toList, "C:\\\\".toList, [⟨" ".toList, "#x=1".toList⟩]⟩
    let parts : List Part := [.entry first, .idle " ! x=2\\".toList, .idle [], .entry second]
    let s := "path=D:\n ! x=2\\\n\n  path :\tC:\\\\\\\r\n #x=1"
    ((∀ part ∈ parts, part.IsProper) ∧ Text.Written (parts.flatMap Part.lines) s.toList) ∧
    parse s = ((∅ : Properties).insert "path" "D:").insert "path" "C:\\\\#x=1" := by
  intro first second parts s
  have hpath : Text.Tight "path".toList := ⟨(Option.any_eq_false ..).mp (by decide), (Option.any_eq_false ..).mp (by decide)⟩
  have hfirst : first.IsProper :=
    { key_ne_nil := by decide
      key_tight := hpath
      key_plain := by decide
      key_start := by decide
      separator := .inl rfl
      indent := nofun
      before := nofun
      after := nofun
      value_tight := ⟨(Option.any_eq_false ..).mp (by decide), (Option.any_eq_false ..).mp (by decide)⟩
      even := ⟨"path=D:".toList, 0, by decide, by decide⟩
      more := nofun }
  have hpiece : Piece.IsProper ⟨" ".toList, "#x=1".toList⟩ :=
    { indent := List.all_eq_true.mp (by decide)
      text_ne_nil := by decide
      start := (Option.any_eq_false ..).mp (by decide)
      even := ⟨"#x=1".toList, 0, by decide, by decide⟩ }
  have hsecond : second.IsProper :=
    { key_ne_nil := by decide
      key_tight := hpath
      key_plain := by decide
      key_start := by decide
      separator := .inr rfl
      indent := List.all_eq_true.mp (by decide)
      before := List.all_eq_true.mp (by decide)
      after := List.all_eq_true.mp (by decide)
      value_tight := ⟨(Option.any_eq_false ..).mp (by decide), (Option.any_eq_false ..).mp (by decide)⟩
      even := ⟨"path :\tC:".toList, 1, by decide, by decide⟩
      more := List.forall_mem_singleton.mpr hpiece }
  have hcomment : IsIdle " ! x=2\\".toList :=
    .inr ⟨" ".toList, '!', " x=2\\".toList, by decide, List.all_eq_true.mp (by decide), .inr rfl⟩
  have hproper : ∀ part ∈ parts, part.IsProper := by
    simp only [parts, List.forall_mem_cons]
    exact ⟨hfirst, hcomment, .inl nofun, hsecond, nofun⟩
  have hwritten : Text.Written (parts.flatMap Part.lines) s.toList := Text.lines_eq_iff.mp (by decide)
  exact ⟨⟨hproper, hwritten⟩, parse_of_written hproper s hwritten⟩

end SparseRows.Dialect.Properties
