import SparseRows.Json.Basic
import SparseRows.Text.Hex

/-!
# JSON tokens

A JSON text is a row of tokens with space, tabs, carriage returns and line feeds anywhere between them. Two halves of a
surrogate pair that are written next to each other make one character; any other half stays as it is.
-/

namespace SparseRows.Json

/-- A token of a JSON text. -/
inductive Token where
  | openArray
  | closeArray
  | openObject
  | closeObject
  | comma
  | colon
  | null
  | boolean (b : Bool)
  | number (spelling : List Char)
  | string (pieces : List Piece)
  deriving DecidableEq, Repr

/-- White space between tokens. -/
def isSpace (c : Char) : Bool :=
  c == ' ' || c == '\t' || c == '\n' || c == '\r'

/-- The character that a short escape stands for. -/
def unescape : Char → Option Char
  | '"' => some '"'
  | '\\' => some '\\'
  | '/' => some '/'
  | 'b' => some '\x08'
  | 'f' => some '\x0c'
  | 'n' => some '\n'
  | 'r' => some '\r'
  | 't' => some '\t'
  | _ => none

/-- A 16-bit unit as a piece: a character, unless it is half of a surrogate pair. -/
def pieceOfUnit (unit : Nat) : Piece :=
  if 0xd800 ≤ unit ∧ unit < 0xe000 then .half unit else .char (Char.ofNat unit)

/-- Reads a string from behind its opening quote, unit by unit; control characters may not stand in it. -/
def scanString : List Char → Option (List Piece × List Char)
  | [] => none
  | '"' :: rest => some ([], rest)
  | '\\' :: 'u' :: a :: b :: c :: d :: rest => do
    let unit ← Text.readHexWord a b c d
    let (pieces, rest) ← scanString rest
    return (pieceOfUnit unit :: pieces, rest)
  | '\\' :: e :: rest => do
    let c ← unescape e
    let (pieces, rest) ← scanString rest
    return (.char c :: pieces, rest)
  | c :: rest =>
    if c.toNat < 0x20 then none
    else do
      let (pieces, rest) ← scanString rest
      return (.char c :: pieces, rest)

/-- Puts the two halves of a surrogate pair together wherever they stand next to each other. -/
def joinHalves : List Piece → List Piece
  | .half hi :: .half lo :: rest =>
    if hi < 0xdc00 ∧ 0xdc00 ≤ lo then
      .char (Char.ofNat (0x10000 + (hi - 0xd800) * 0x400 + (lo - 0xdc00))) :: joinHalves rest
    else .half hi :: joinHalves (.half lo :: rest)
  | piece :: rest => piece :: joinHalves rest
  | [] => []

/-- The digits at the start of a text, of which there is at least one, and what follows them. -/
def scanDigits (cs : List Char) : Option (List Char × List Char) :=
  match cs.takeWhile Char.isDigit with
  | [] => none
  | digits => some (digits, cs.dropWhile Char.isDigit)

/-- The fraction at the start of a text, which may be missing. -/
def scanFraction : List Char → Option (List Char × List Char)
  | '.' :: rest => (scanDigits rest).map fun (digits, rest) => ('.' :: digits, rest)
  | cs => some ([], cs)

/-- The sign at the start of an exponent, which may be missing. -/
def scanSign : List Char → List Char × List Char
  | '+' :: rest => (['+'], rest)
  | '-' :: rest => (['-'], rest)
  | cs => ([], cs)

/-- The exponent at the start of a text, which may be missing. -/
def scanExponent : List Char → Option (List Char × List Char)
  | c :: rest =>
    if c = 'e' ∨ c = 'E' then
      (scanDigits (scanSign rest).2).map fun (digits, after) => (c :: (scanSign rest).1 ++ digits, after)
    else some ([], c :: rest)
  | [] => some ([], [])

/-- The whole part of a number: zero alone, or digits that do not start with zero. -/
def scanWhole (cs : List Char) : Option (List Char × List Char) :=
  (scanDigits cs).bind fun (digits, rest) =>
    if digits.head? = some '0' ∧ digits ≠ ['0'] then none else some (digits, rest)

/-- An unsigned number at the start of a text. -/
def scanUnsigned (cs : List Char) : Option (List Char × List Char) := do
  let (whole, rest) ← scanWhole cs
  let (fraction, rest) ← scanFraction rest
  let (exponent, rest) ← scanExponent rest
  return (whole ++ fraction ++ exponent, rest)

/-- A number at the start of a text. -/
def scanNumber : List Char → Option (List Char × List Char)
  | '-' :: rest => (scanUnsigned rest).map fun (spelling, rest) => ('-' :: spelling, rest)
  | cs => scanUnsigned cs

/-- The token at the start of a text, and what follows it. -/
def scanToken : List Char → Option (Token × List Char)
  | '[' :: rest => some (.openArray, rest)
  | ']' :: rest => some (.closeArray, rest)
  | '{' :: rest => some (.openObject, rest)
  | '}' :: rest => some (.closeObject, rest)
  | ',' :: rest => some (.comma, rest)
  | ':' :: rest => some (.colon, rest)
  | 'n' :: 'u' :: 'l' :: 'l' :: rest => some (.null, rest)
  | 't' :: 'r' :: 'u' :: 'e' :: rest => some (.boolean true, rest)
  | 'f' :: 'a' :: 'l' :: 's' :: 'e' :: rest => some (.boolean false, rest)
  | '"' :: rest => (scanString rest).map fun (pieces, rest) => (.string (joinHalves pieces), rest)
  | cs => (scanNumber cs).map fun (spelling, rest) => (.number spelling, rest)

/-! ## Helper lemmas: every token takes something off the text -/

/-- A string takes some characters, its closing quote at least. -/
theorem length_scanString {cs rest : List Char} {pieces : List Piece} (h : scanString cs = some (pieces, rest)) :
    rest.length < cs.length := by
  fun_induction scanString cs generalizing pieces rest with
  | case1 => simp at h
  | case2 tail => simp_all
  | case3 a b c d tail ih =>
    simp only [Option.bind_eq_bind, Option.bind_eq_some_iff] at h
    obtain ⟨_, _, ⟨_, _⟩, h', h⟩ := h
    simp only [Option.pure_def, Option.some.injEq, Prod.mk.injEq] at h
    have := ih h'
    simp only [List.length_cons, ← h.2]
    omega
  | case4 e tail _ ih =>
    simp only [Option.bind_eq_bind, Option.bind_eq_some_iff] at h
    obtain ⟨_, _, ⟨_, _⟩, h', h⟩ := h
    simp only [Option.pure_def, Option.some.injEq, Prod.mk.injEq] at h
    have := ih h'
    simp only [List.length_cons, ← h.2]
    omega
  | case5 => simp at h
  | case6 c tail _ _ _ _ ih =>
    simp only [Option.bind_eq_bind, Option.bind_eq_some_iff] at h
    obtain ⟨⟨_, _⟩, h', h⟩ := h
    simp only [Option.pure_def, Option.some.injEq, Prod.mk.injEq] at h
    have := ih h'
    simp only [List.length_cons, ← h.2]
    omega

/-- Digits are one at least. -/
theorem length_scanDigits {cs digits rest : List Char} (h : scanDigits cs = some (digits, rest)) :
    rest.length < cs.length := by
  unfold scanDigits at h
  split at h
  · simp at h
  · rename_i hne
    simp only [Option.some.injEq, Prod.mk.injEq] at h
    have hl := congrArg List.length (List.takeWhile_append_dropWhile (p := Char.isDigit) (l := cs))
    have : (cs.takeWhile Char.isDigit).length ≠ 0 := fun h0 => hne (List.length_eq_zero_iff.mp h0)
    rw [List.length_append] at hl
    rw [← h.2]
    omega

/-- A fraction may be missing, so it may take nothing. -/
theorem length_scanFraction {cs fraction rest : List Char} (h : scanFraction cs = some (fraction, rest)) :
    rest.length ≤ cs.length := by
  unfold scanFraction at h
  split at h
  · obtain ⟨⟨_, _⟩, h', heq⟩ := Option.map_eq_some_iff.mp h
    simp only [Prod.mk.injEq] at heq
    have := length_scanDigits h'
    simp only [List.length_cons, ← heq.2]
    omega
  · simp_all

theorem length_scanSign (cs : List Char) : (scanSign cs).2.length ≤ cs.length := by
  unfold scanSign
  split <;> simp

/-- So may an exponent. -/
theorem length_scanExponent {cs exponent rest : List Char} (h : scanExponent cs = some (exponent, rest)) :
    rest.length ≤ cs.length := by
  cases cs with
  | nil => simp_all [scanExponent]
  | cons c tail =>
    simp only [scanExponent] at h
    split at h
    · obtain ⟨⟨_, _⟩, h', heq⟩ := Option.map_eq_some_iff.mp h
      simp only [Prod.mk.injEq] at heq
      have := length_scanDigits h'
      have := length_scanSign tail
      simp only [List.length_cons, ← heq.2]
      omega
    · simp_all

theorem length_scanWhole {cs whole rest : List Char} (h : scanWhole cs = some (whole, rest)) :
    rest.length < cs.length := by
  obtain ⟨⟨_, _⟩, h', h⟩ := Option.bind_eq_some_iff.mp h
  have := length_scanDigits h'
  split at h
  simp_all

theorem length_scanUnsigned {cs spelling rest : List Char} (h : scanUnsigned cs = some (spelling, rest)) :
    rest.length < cs.length := by
  simp only [scanUnsigned, Option.bind_eq_bind, Option.bind_eq_some_iff] at h
  obtain ⟨⟨_, _⟩, h1, ⟨_, _⟩, h2, ⟨_, _⟩, h3, h⟩ := h
  simp only [Option.pure_def, Option.some.injEq, Prod.mk.injEq] at h
  dsimp only at h2 h3
  have := length_scanWhole h1
  have := length_scanFraction h2
  have := length_scanExponent h3
  rw [← h.2]
  omega

/-- A number takes some characters. -/
theorem length_scanNumber {cs spelling rest : List Char} (h : scanNumber cs = some (spelling, rest)) :
    rest.length < cs.length := by
  unfold scanNumber at h
  split at h
  · obtain ⟨⟨_, _⟩, h', heq⟩ := Option.map_eq_some_iff.mp h
    simp only [Prod.mk.injEq] at heq
    have := length_scanUnsigned h'
    simp only [List.length_cons, ← heq.2]
    omega
  · exact length_scanUnsigned h

/-- Every token takes some characters, so reading tokens comes to an end. -/
theorem length_scanToken {cs rest : List Char} {token : Token} (h : scanToken cs = some (token, rest)) :
    rest.length < cs.length := by
  unfold scanToken at h
  split at h
  case h_10 =>
    obtain ⟨⟨_, _⟩, h', heq⟩ := Option.map_eq_some_iff.mp h
    simp only [Prod.mk.injEq] at heq
    have := length_scanString h'
    simp only [List.length_cons, ← heq.2]
    omega
  case h_11 =>
    obtain ⟨⟨_, _⟩, h', heq⟩ := Option.map_eq_some_iff.mp h
    simp only [Prod.mk.injEq] at heq
    have := length_scanNumber h'
    rw [← heq.2]
    omega
  all_goals
    simp only [Option.some.injEq, Prod.mk.injEq] at h
    simp only [List.length_cons, ← h.2]
    omega

/-! ## The tokens of a text -/

/-- The tokens of a text, unless something in it is no token. -/
def tokens : List Char → Option (List Token)
  | [] => some []
  | c :: cs =>
    if isSpace c then tokens cs
    else
      match h : scanToken (c :: cs) with
      | none => none
      | some (token, rest) =>
        have : rest.length < (c :: cs).length := length_scanToken h
        (tokens rest).map (token :: ·)
termination_by cs => cs.length
decreasing_by
  · exact Nat.lt_succ_self _
  · exact this

end SparseRows.Json
