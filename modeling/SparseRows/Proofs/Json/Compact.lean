import SparseRows.Proofs.Decimal
import SparseRows.Proofs.Json.Grammar

/-!
# Compact JSON is read back

The compact text of a value is one of its texts by the grammar if its parts are, down to numbers and strings
(`Value.element_toText`). So it is read as the value, and an integer of a word is read back from its number.
-/

namespace SparseRows.Json

/-- An integer is read back from its number, if a word has as many digits. -/
theorem integer?_ofInt {i : Int} (h : i.natAbs < 10 ^ Text.wordDigits) : (ofInt i).integer? = some i := by
  have hread := Text.readInteger_repr h
  have hzero : i.repr.toList ≠ ['-', '0'] := by
    intro heq
    have hminus : Text.readInteger ['-', '0'] = some 0 := by decide
    rw [heq, hminus] at hread
    obtain rfl := Option.some.inj hread
    exact absurd heq (by decide)
  rw [ofInt, integer?, integerOf, if_neg hzero, hread]

namespace Grammar

/-! ## Numbers -/

theorem whole_toDigits (n : Nat) : Whole (Nat.toDigits 10 n) := by
  by_cases hzero : n = 0
  · subst hzero
    exact .zero
  · obtain ⟨c, cs, hdigits⟩ := List.exists_cons_of_ne_nil (Nat.toDigits_ne_nil (n := n) (b := 10))
    have hhead := Text.head?_toDigits hzero
    have hall : ∀ d ∈ Nat.toDigits 10 n, d.isDigit = true := fun d hd => Nat.isDigit_of_mem_toDigits (by decide) (by decide) hd
    rw [hdigits] at hhead hall ⊢
    exact .digits ⟨List.cons_ne_nil c cs, hall⟩ fun heq => hhead (congrArg some heq)

/-- An integer in decimals is a number of the grammar. -/
theorem number_repr (i : Int) : Number i.repr.toList := by
  cases i with
  | ofNat n =>
    have hnumber := Number.unsigned (whole_toDigits n) .missing .missing
    change Number (Nat.repr n).toList
    rwa [List.append_nil, List.append_nil, ← Nat.toList_repr] at hnumber
  | negSucc n =>
    have hnumber := Number.negative (whole_toDigits (n + 1)) .missing .missing
    change Number ("-" ++ Nat.repr (n + 1)).toList
    rw [List.append_nil, List.append_nil, ← Nat.toList_repr] at hnumber
    rwa [String.toList_append]

/-- So the text of an integer is a text of its value. -/
theorem Value.ofInt (i : Int) : Value (.ofInt i) (Json.ofInt i).render := by
  rw [Json.ofInt, render]
  exact .number (number_repr i)

/-! ## Strings -/

/-- Four hexadecimal digits spell a unit of sixteen bits. -/
theorem unit16_hexWord {unit : Nat} (h : unit < 0x10000) : Unit16 unit (Text.hexWord unit) := by
  have hlower : ∀ n < 16, (Text.hexDigit n).toLower = Text.hexDigit n := by decide
  have hdigit : ∀ n, (Text.hexDigit (n % 16)).toLower = Text.hexDigit (n % 16) := fun n => hlower _ (Nat.mod_lt _ (by decide))
  refine ⟨h, ?_⟩
  simp only [Text.hexWord, List.map_cons, List.map_nil, hdigit]

/-- An escaped character before others. -/
theorem Characters.escape (c : Char) {pieces : List Piece} {text : List Char} (h : Characters pieces text) :
    Characters (.char c :: pieces) (Json.escape c ++ text) := by
  unfold Json.escape
  split
  case h_8 hquote hslash _ _ _ _ _ =>
    split
    · rename_i hcontrol
      have hword : c.toNat < 0x10000 := by omega
      have hunit := Characters.unit (unit16_hexWord hword) (.inl (by omega)) h
      rwa [Char.ofNat_toNat] at hunit
    · rename_i hcontrol
      exact .plain (by omega) hquote hslash h
  all_goals exact .short (by decide) h

/-- The escaped characters of a text spell its pieces. -/
theorem characters_piecesOf (s : String) : Characters (piecesOf s) ((piecesOf s).flatMap Piece.render) := by
  rw [piecesOf]
  induction s.toList with
  | nil => exact .done
  | cons c cs ih =>
    rw [List.map_cons, List.flatMap_cons]
    exact ih.escape c

/-- So the text of a string is a text of its value. -/
theorem Value.ofText (s : String) : Value (.ofText s) (Json.ofText s).render := by
  rw [Json.ofText, render, renderString]
  exact .string (characters_piecesOf s)

/-! ## Arrays and objects -/

theorem blank_nil : Blank [] := by
  intro c hc
  cases hc

theorem Value.element {v : Json} {text : List Char} (h : Value v text) : Element v text := by
  have hpadded := Element.padded blank_nil h blank_nil
  rwa [List.nil_append, List.append_nil] at hpadded

/-- The texts of some values with commas between them are elements. -/
theorem elements_render {item : Json} {items : List Json} (h : ∀ v ∈ item :: items, Value v v.render) :
    Elements (item :: items) (item.render ++ renderItems items) := by
  induction items generalizing item with
  | nil =>
    rw [renderItems, List.append_nil]
    exact .last (h item List.mem_cons_self).element
  | cons next items ih =>
    rw [renderItems]
    exact .more (h item List.mem_cons_self).element (ih fun v hv => h v (List.mem_cons_of_mem item hv))

/-- The compact text of an array is a text of it, if this is so of its items. -/
theorem Value.array_render {items : List Json} (h : ∀ v ∈ items, Value v v.render) :
    Value (.array items) (Json.array items).render := by
  cases items with
  | nil =>
    rw [render]
    exact .emptyArray blank_nil
  | cons item items =>
    rw [render]
    exact .array (elements_render h)

/-- A member that is written as the grammar has it. -/
structure Renders (member : List Piece × Json) : Prop where
  name : Characters member.1 (member.1.flatMap Piece.render)
  value : Value member.2 member.2.render

/-- A member renders if its value does. -/
theorem renders_piecesOf (name : String) {v : Json} (h : Value v v.render) : Renders (piecesOf name, v) :=
  ⟨characters_piecesOf name, h⟩

/-- A member that renders has its name, a colon and its value for a text. -/
theorem Renders.member {member : List Piece × Json} (h : Renders member) :
    Member member (renderString member.1 ++ ':' :: member.2.render) := by
  have hnamed := Member.named blank_nil h.name blank_nil h.value.element
  rwa [List.nil_append, List.append_nil] at hnamed

/-- The texts of some members with commas between them are members. -/
theorem members_render {member : List Piece × Json} {members : List (List Piece × Json)}
    (h : ∀ m ∈ member :: members, Renders m) :
    Members (member :: members) (renderString member.1 ++ ':' :: member.2.render ++ renderMembers members) := by
  induction members generalizing member with
  | nil =>
    rw [renderMembers, List.append_nil]
    exact .last (h member List.mem_cons_self).member
  | cons next members ih =>
    rw [renderMembers]
    exact .more (h member List.mem_cons_self).member (ih fun m hm => h m (List.mem_cons_of_mem member hm))

/-- The compact text of an object is a text of it, if its members render. -/
theorem Value.object_render {members : List (List Piece × Json)} (h : ∀ m ∈ members, Renders m) :
    Value (.object members) (Json.object members).render := by
  cases members with
  | nil =>
    rw [render]
    exact .emptyObject blank_nil
  | cons member members =>
    rw [render]
    exact .object (members_render h)

/-- What is written of a value is a text of it. -/
theorem Value.element_toText {v : Json} (h : Value v v.render) : Element v v.toText.toList := by
  rw [toText, String.toList_ofList]
  exact h.element

end Grammar

end SparseRows.Json
