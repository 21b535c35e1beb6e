import Mathlib.Data.List.Forall2
import SparseRows.Json.Parser

/-!
# How JSON texts are spelled

What a text means to the reader, put together from its parts. Forms spell characters, so that a string is read as its text
(`scanString_flatMap`); texts spell tokens, whatever follows (`Lexes`); tokens spell a value, wherever a value may stand
(`SpellsValue`). Each of them is read part by part, so what writes a text needs to be looked at one part at a time.
-/

namespace SparseRows

/-! ## Hexadecimal digits -/

namespace Text

/-- A hexadecimal digit is read back. -/
theorem readHexDigit_hexDigit {n : Nat} (h : n < 16) : readHexDigit (hexDigit n) = some n := by
  decide +revert

/-- Four digits are read as the number that they were written for. -/
theorem readHexWord_hexWord {n : Nat} (h : n < 0x10000) :
    readHexWord (hexDigit (n / 4096 % 16)) (hexDigit (n / 256 % 16)) (hexDigit (n / 16 % 16)) (hexDigit (n % 16)) = some n := by
  rw [readHexWord, readHexDigit_hexDigit (Nat.mod_lt _ (by decide)), readHexDigit_hexDigit (Nat.mod_lt _ (by decide)),
    readHexDigit_hexDigit (Nat.mod_lt _ (by decide)), readHexDigit_hexDigit (Nat.mod_lt _ (by decide))]
  refine congrArg some ?_
  omega

end Text

namespace Json

/-! ## Characters of a string -/

/-- A form that stands for a character wherever it is met in a string. -/
def Spells (form : List Char) (c : Char) : Prop :=
  ∀ rest, scanString (form ++ rest) = (scanString rest).map fun (pieces, left) => (.char c :: pieces, left)

/-- A backslash and a character that has a short escape. -/
theorem spells_escape {e c : Char} (h : unescape e = some c) : Spells ['\\', e] c := by
  intro rest
  have hu : e ≠ 'u' := by
    rintro rfl
    cases h
  rw [List.cons_append, List.singleton_append, scanString.eq_4 _ _ (by simp [hu]), h]
  cases scanString rest <;> rfl

/-- The number of a character that is no half of a surrogate pair, as an escape. -/
theorem spells_unit {c : Char} (h : c.toNat < 0xd800) : Spells ('\\' :: 'u' :: Text.hexWord c.toNat) c := by
  intro rest
  have hpiece : pieceOfUnit c.toNat = .char c := by
    rw [pieceOfUnit, if_neg (by omega), Char.ofNat_toNat]
  rw [Text.hexWord]
  simp only [List.cons_append, List.nil_append, scanString]
  rw [Text.readHexWord_hexWord (by omega), ← hpiece]
  cases scanString rest <;> rfl

/-- A character that is neither a control character nor a quote nor a backslash, as it is. -/
theorem spells_self {c : Char} (hcontrol : 0x20 ≤ c.toNat) (hquote : c ≠ '"') (hslash : c ≠ '\\') : Spells [c] c := by
  intro rest
  rw [List.singleton_append, scanString.eq_5 _ _ (by simpa using hquote) (by simp [hslash]) (by simp [hslash]),
    if_neg (by omega)]
  cases scanString rest <;> rfl

/-- A string whose characters are all spelled is read to its closing quote. -/
theorem scanString_flatMap {form : Char → List Char} (hform : ∀ c, Spells (form c) c) (cs rest : List Char) :
    scanString (cs.flatMap form ++ '"' :: rest) = some (cs.map .char, rest) := by
  induction cs with
  | nil => rfl
  | cons c cs ih =>
    rw [List.flatMap_cons, List.append_assoc, hform, ih]
    rfl

/-- Where there are no halves nothing is joined. -/
theorem joinHalves_map_char (cs : List Char) : joinHalves (cs.map .char) = cs.map .char := by
  induction cs with
  | nil => rfl
  | cons c cs ih => rw [List.map_cons, joinHalves.eq_2 _ _ (by simp), ih]

/-! ## Tokens of a text -/

/-- A text that gives these tokens, whatever follows. -/
def Lexes (text : List Char) (ts : List Token) : Prop :=
  ∀ rest, tokens (text ++ rest) = (tokens rest).map (ts ++ ·)

/-- The first token is what is scanned first, unless there is space. -/
theorem tokens_cons {c : Char} {cs rest : List Char} {token : Token} (hspace : isSpace c = false)
    (h : scanToken (c :: cs) = some (token, rest)) : tokens (c :: cs) = (tokens rest).map (token :: ·) := by
  rw [tokens, if_neg (by simp [hspace])]
  split
  · rename_i hnone
    rw [h] at hnone
    cases hnone
  · rename_i hsome
    rw [h] at hsome
    cases hsome
    rfl

namespace Lexes

theorem nil : Lexes [] [] := by
  intro rest
  cases h : tokens rest <;> simp [h]

/-- The tokens of two texts stand in a row. -/
theorem append {text text' : List Char} {ts ts' : List Token} (h : Lexes text ts) (h' : Lexes text' ts') :
    Lexes (text ++ text') (ts ++ ts') := by
  intro rest
  rw [List.append_assoc, h, h', Option.map_map]
  congr 1
  funext left
  exact (List.append_assoc ..).symm

/-- What is one token to the scanner. -/
theorem of_scanToken {c : Char} {cs : List Char} {token : Token} (hspace : isSpace c = false)
    (h : ∀ rest, scanToken (c :: cs ++ rest) = some (token, rest)) : Lexes (c :: cs) [token] :=
  fun rest => tokens_cons hspace (h rest)

theorem comma : Lexes [','] [.comma] := of_scanToken rfl fun _ => rfl

theorem colon : Lexes [':'] [.colon] := of_scanToken rfl fun _ => rfl

theorem openArray : Lexes ['['] [.openArray] := of_scanToken rfl fun _ => rfl

theorem closeArray : Lexes [']'] [.closeArray] := of_scanToken rfl fun _ => rfl

theorem openObject : Lexes ['{'] [.openObject] := of_scanToken rfl fun _ => rfl

theorem closeObject : Lexes ['}'] [.closeObject] := of_scanToken rfl fun _ => rfl

/-- A string whose characters are all spelled. -/
theorem string {form : Char → List Char} (hform : ∀ c, Spells (form c) c) (s : String) :
    Lexes ('"' :: s.toList.flatMap form ++ ['"']) [.string (piecesOf s)] := by
  rw [List.cons_append]
  refine of_scanToken rfl fun rest => ?_
  rw [List.cons_append, List.append_assoc, List.singleton_append, scanToken, scanString_flatMap hform]
  exact congrArg (fun pieces => some (Token.string pieces, rest)) (joinHalves_map_char _)

/-- Texts with a separator between them. -/
theorem intercalate {sep : List Char} {sepTokens : List Token} (hsep : Lexes sep sepTokens) {texts : List (List Char)}
    {spelled : List (List Token)} (h : List.Forall₂ Lexes texts spelled) :
    Lexes (sep.intercalate texts) (sepTokens.intercalate spelled) := by
  induction h with
  | nil => exact nil
  | @cons text ts texts spelled htext hrest ih =>
    cases hrest with
    | nil => simpa using htext
    | cons =>
      rw [List.intercalate_cons_cons, List.intercalate_cons_cons]
      exact (htext.append hsep).append ih

/-- A text has the tokens that it lexes to. -/
theorem tokens_eq {text : List Char} {ts : List Token} (h : Lexes text ts) : tokens text = some ts := by
  have := h []
  rwa [List.append_nil, tokens, Option.map_some, List.append_nil] at this

end Lexes

/-! ## The value of some tokens -/

/-- Tokens that spell a value, wherever a value may stand. -/
def SpellsValue (ts : List Token) (v : Json) : Prop :=
  ∀ stack, ts.foldlM State.step (.value stack) = some (.complete v stack)

/-- Tokens that spell a member of an object. -/
def SpellsMember (member : List Piece × Json) (ts : List Token) : Prop :=
  ∃ value, ts = .string member.1 :: .colon :: value ∧ SpellsValue value member.2

theorem spellsValue_string (pieces : List Piece) : SpellsValue [.string pieces] (.string pieces) :=
  fun _ => rfl

/-- Once a member is read, it is one of those that are done. -/
theorem SpellsMember.foldlM {member : List Piece × Json} {ts : List Token} (h : SpellsMember member ts)
    (done : List (List Piece × Json)) (stack : List Frame) :
    ts.foldlM State.step (.member done stack) = some (.complete member.2 (.object done member.1 :: stack)) := by
  obtain ⟨value, rfl, hvalue⟩ := h
  exact hvalue _

/-- The members of an object, with a comma between them, up to its end. -/
theorem foldlM_members {member : List Piece × Json} {ts : List Token} (hmember : SpellsMember member ts)
    {members : List (List Piece × Json)} {spelled : List (List Token)} (h : List.Forall₂ SpellsMember members spelled)
    (done : List (List Piece × Json)) (stack : List Frame) :
    ([Token.comma].intercalate (ts :: spelled) ++ [Token.closeObject]).foldlM State.step (.member done stack) =
      some (.complete (.object (done.reverse ++ member :: members)) stack) := by
  induction h generalizing member ts done with
  | nil =>
    rw [List.intercalate_singleton, List.foldlM_append, hmember.foldlM]
    simp [State.step]
  | @cons next nextTs members spelled hnext hrest ih =>
    rw [List.intercalate_cons_cons, List.append_assoc, List.append_assoc, List.foldlM_append, hmember.foldlM]
    refine (ih hnext ((member.1, member.2) :: done)).trans ?_
    simp

/-- An object whose members are all spelled. -/
theorem spellsValue_object {members : List (List Piece × Json)} {spelled : List (List Token)}
    (h : List.Forall₂ SpellsMember members spelled) :
    SpellsValue (.openObject :: [.comma].intercalate spelled ++ [.closeObject]) (.object members) := by
  intro stack
  cases h with
  | nil => rfl
  | @cons member ts members spelled hmember hrest =>
    -- Behind the opening brace a name may follow just as it may behind a comma.
    have hfold := foldlM_members hmember hrest [] stack
    obtain ⟨value, rfl, -⟩ := hmember
    cases hrest <;> exact hfold

/-- The items of an array, with a comma between them, up to its end. -/
theorem foldlM_items {v : Json} {ts : List Token} (hv : SpellsValue ts v) {items : List Json} {spelled : List (List Token)}
    (h : List.Forall₂ (fun item ts => SpellsValue ts item) items spelled) (done : List Json) (stack : List Frame) :
    ([Token.comma].intercalate (ts :: spelled) ++ [Token.closeArray]).foldlM State.step (.value (.array done :: stack)) =
      some (.complete (.array (done.reverse ++ v :: items)) stack) := by
  induction h generalizing v ts done with
  | nil =>
    rw [List.intercalate_singleton, List.foldlM_append, hv]
    simp [State.step]
  | @cons next nextTs items spelled hnext hrest ih =>
    rw [List.intercalate_cons_cons, List.append_assoc, List.append_assoc, List.foldlM_append, hv]
    refine (ih hnext (v :: done)).trans ?_
    simp

/-- The tokens of a value start with one that ends no array. -/
theorem SpellsValue.exists_cons {ts : List Token} {v : Json} (h : SpellsValue ts v) :
    ∃ token rest, ts = token :: rest ∧ token ≠ .closeArray := by
  cases ts with
  | nil => exact nomatch h []
  | cons token rest =>
    refine ⟨token, rest, rfl, ?_⟩
    rintro rfl
    exact nomatch h []

/-- Behind the opening bracket an item may follow just as it may behind a comma. -/
theorem step_opened {token : Token} (hne : token ≠ .closeArray) (stack : List Frame) :
    State.step (.opened stack) token = State.step (.value (.array [] :: stack)) token := by
  cases token with
  | closeArray => exact absurd rfl hne
  | _ => rfl

/-- An array whose items are all spelled. -/
theorem spellsValue_array {items : List Json} {spelled : List (List Token)}
    (h : List.Forall₂ (fun item ts => SpellsValue ts item) items spelled) :
    SpellsValue (.openArray :: [.comma].intercalate spelled ++ [.closeArray]) (.array items) := by
  intro stack
  cases h with
  | nil => rfl
  | @cons item ts items spelled hitem hrest =>
    have hfold := foldlM_items hitem hrest [] stack
    obtain ⟨token, rest, rfl, hne⟩ := hitem.exists_cons
    have hstep := step_opened hne stack
    cases hrest <;> exact (congrArg (· >>= _) hstep).trans hfold

/-- A text is parsed as the value that its tokens spell. -/
theorem parse_eq {s : String} {ts : List Token} {v : Json} (hlex : Lexes s.toList ts) (hvalue : SpellsValue ts v) :
    parse s = some v := by
  rw [parse, hlex.tokens_eq, Option.bind_some, ofTokens, hvalue]
  rfl

end Json

end SparseRows
