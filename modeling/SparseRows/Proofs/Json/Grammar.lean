import SparseRows.Json.Printer
import SparseRows.Proofs.Json.Spelling

/-!
# The grammar of JSON

The texts of JSON values as the grammar has them, white space and escapes at will, and that each is read as the value that
it spells (`Element.parse_eq`). The compact text that is written of a value is one of its texts.
-/

namespace SparseRows.Json.Grammar

/-! ## The grammar -/

/-- White space, which may be missing. -/
def Blank (cs : List Char) : Prop :=
  ∀ c ∈ cs, c = ' ' ∨ c = '\t' ∨ c = '\n' ∨ c = '\r'

/-- Digits, of which there is at least one. -/
def Digits (cs : List Char) : Prop :=
  cs ≠ [] ∧ ∀ c ∈ cs, c.isDigit = true

/-- The whole part of a number: zeros do not come first. -/
inductive Whole : List Char → Prop
  | zero : Whole ['0']
  | digits {c : Char} {cs : List Char} (hdigits : Digits (c :: cs)) (hne : c ≠ '0') : Whole (c :: cs)

/-- The fraction of a number, which may be missing. -/
inductive Fraction : List Char → Prop
  | missing : Fraction []
  | point {digits : List Char} (hdigits : Digits digits) : Fraction ('.' :: digits)

/-- The exponent of a number, which may be missing. -/
inductive Exponent : List Char → Prop
  | missing : Exponent []
  | power {e : Char} {sign digits : List Char} (he : e = 'e' ∨ e = 'E') (hsign : sign ∈ [[], ['+'], ['-']])
      (hdigits : Digits digits) : Exponent (e :: sign ++ digits)

/-- A number. -/
inductive Number : List Char → Prop
  | unsigned {whole fraction exponent : List Char} (hwhole : Whole whole) (hfraction : Fraction fraction)
      (hexponent : Exponent exponent) : Number (whole ++ fraction ++ exponent)
  | negative {whole fraction exponent : List Char} (hwhole : Whole whole) (hfraction : Fraction fraction)
      (hexponent : Exponent exponent) : Number ('-' :: (whole ++ fraction ++ exponent))

/-- What may follow a backslash, and the character that it stands for then. -/
def shortEscapes : List (Char × Char) :=
  [('"', '"'), ('\\', '\\'), ('/', '/'), ('b', '\x08'), ('f', '\x0c'), ('n', '\n'), ('r', '\r'), ('t', '\t')]

/-- A 16-bit unit in four hexadecimal digits, which may be of either case. -/
def Unit16 (unit : Nat) (digits : List Char) : Prop :=
  unit < 0x10000 ∧ digits.map Char.toLower = Text.hexWord unit

/-- What stands between the quotes of a string. -/
inductive Characters : List Piece → List Char → Prop
  | done : Characters [] []
  | plain {c : Char} {pieces : List Piece} {text : List Char} (hcontrol : 0x20 ≤ c.toNat) (hquote : c ≠ '"') (hslash : c ≠ '\\')
      (h : Characters pieces text) : Characters (.char c :: pieces) (c :: text)
  | short {e c : Char} {pieces : List Piece} {text : List Char} (hshort : (e, c) ∈ shortEscapes) (h : Characters pieces text) :
      Characters (.char c :: pieces) ('\\' :: e :: text)
  | unit {unit : Nat} {digits : List Char} {pieces : List Piece} {text : List Char} (hunit : Unit16 unit digits)
      (hrange : unit < 0xd800 ∨ 0xe000 ≤ unit) (h : Characters pieces text) :
      Characters (.char (Char.ofNat unit) :: pieces) ('\\' :: 'u' :: digits ++ text)
  | pair {hi lo : Nat} {hiDigits loDigits : List Char} {pieces : List Piece} {text : List Char} (hhi : Unit16 hi hiDigits)
      (hhiRange : 0xd800 ≤ hi ∧ hi < 0xdc00) (hlo : Unit16 lo loDigits) (hloRange : 0xdc00 ≤ lo ∧ lo < 0xe000)
      (h : Characters pieces text) :
      Characters (.char (Char.ofNat (0x10000 + (hi - 0xd800) * 0x400 + (lo - 0xdc00))) :: pieces)
        ('\\' :: 'u' :: hiDigits ++ '\\' :: 'u' :: loDigits ++ text)
  /-- A half of a surrogate pair without the other half. -/
  | half {unit : Nat} {digits : List Char} {pieces : List Piece} {text : List Char} (hunit : Unit16 unit digits)
      (hrange : 0xd800 ≤ unit ∧ unit < 0xe000)
      (hlone : unit < 0xdc00 → ∀ lo rest, pieces = .half lo :: rest → lo < 0xdc00) (h : Characters pieces text) :
      Characters (.half unit :: pieces) ('\\' :: 'u' :: digits ++ text)

mutual

/-- A value and a text of it, without white space about it. -/
inductive Value : Json → List Char → Prop
  | null : Value .null ['n', 'u', 'l', 'l']
  | yes : Value (.boolean true) ['t', 'r', 'u', 'e']
  | no : Value (.boolean false) ['f', 'a', 'l', 's', 'e']
  | number {spelling : List Char} (h : Number spelling) : Value (.number spelling) spelling
  | string {pieces : List Piece} {text : List Char} (h : Characters pieces text) :
      Value (.string pieces) ('"' :: text ++ ['"'])
  | emptyArray {blank : List Char} (h : Blank blank) : Value (.array []) ('[' :: blank ++ [']'])
  | array {items : List Json} {text : List Char} (h : Elements items text) : Value (.array items) ('[' :: text ++ [']'])
  | emptyObject {blank : List Char} (h : Blank blank) : Value (.object []) ('{' :: blank ++ ['}'])
  | object {members : List (List Piece × Json)} {text : List Char} (h : Members members text) :
      Value (.object members) ('{' :: text ++ ['}'])

/-- A value with white space about it. -/
inductive Element : Json → List Char → Prop
  | padded {v : Json} {before text after : List Char} (hbefore : Blank before) (h : Value v text) (hafter : Blank after) :
      Element v (before ++ text ++ after)

/-- Values with commas between them. -/
inductive Elements : List Json → List Char → Prop
  | last {v : Json} {text : List Char} (h : Element v text) : Elements [v] text
  | more {v : Json} {items : List Json} {text rest : List Char} (h : Element v text) (hrest : Elements items rest) :
      Elements (v :: items) (text ++ ',' :: rest)

/-- A name, a colon and a value. -/
inductive Member : List Piece × Json → List Char → Prop
  | named {name : List Piece} {v : Json} {before text after value : List Char} (hbefore : Blank before)
      (hname : Characters name text) (hafter : Blank after) (h : Element v value) :
      Member (name, v) (before ++ ('"' :: text ++ ['"']) ++ after ++ ':' :: value)

/-- Members with commas between them. -/
inductive Members : List (List Piece × Json) → List Char → Prop
  | last {member : List Piece × Json} {text : List Char} (h : Member member text) : Members [member] text
  | more {member : List Piece × Json} {members : List (List Piece × Json)} {text rest : List Char} (h : Member member text)
      (hrest : Members members rest) : Members (member :: members) (text ++ ',' :: rest)

end

/-! ## Numbers are read -/

/-- What may follow a number without being part of it. -/
def Ends (rest : List Char) : Prop :=
  ∀ c ∈ rest.head?, c.isDigit = false ∧ c ≠ '.' ∧ c ≠ 'e' ∧ c ≠ 'E'

/-- Digits are scanned as far as they go. -/
theorem Digits.scanDigits {digits rest : List Char} (h : Digits digits) (hrest : ∀ c ∈ rest.head?, c.isDigit = false) :
    scanDigits (digits ++ rest) = some (digits, rest) := by
  have htake : (digits ++ rest).takeWhile Char.isDigit = digits := by
    rw [List.takeWhile_append_of_pos h.2]
    cases rest with
    | nil => exact List.append_nil _
    | cons c rest => rw [List.takeWhile_cons_of_neg (by simp [hrest c rfl]), List.append_nil]
  have hdrop : (digits ++ rest).dropWhile Char.isDigit = rest := by
    rw [List.dropWhile_append_of_pos h.2]
    cases rest with
    | nil => rfl
    | cons c rest => rw [List.dropWhile_cons_of_neg (by simp [hrest c rfl])]
  unfold Json.scanDigits
  rw [htake, hdrop]
  split
  · exact absurd rfl h.1
  · rfl

/-- The whole part of a number is scanned as far as it goes. -/
theorem Whole.scanWhole {whole rest : List Char} (h : Whole whole) (hrest : ∀ c ∈ rest.head?, c.isDigit = false) :
    scanWhole (whole ++ rest) = some (whole, rest) := by
  have hdigits : Digits whole := by
    cases h with
    | zero => exact ⟨by simp, by simp⟩
    | digits hdigits _ => exact hdigits
  rw [Json.scanWhole, hdigits.scanDigits hrest, Option.bind_some]
  refine if_neg fun hzero => ?_
  cases h with
  | zero => exact hzero.2 rfl
  | digits _ hne => exact hne (Option.some.inj hzero.1)

/-- So is its fraction. -/
theorem Fraction.scanFraction {fraction rest : List Char} (h : Fraction fraction)
    (hrest : ∀ c ∈ rest.head?, c.isDigit = false ∧ c ≠ '.') : scanFraction (fraction ++ rest) = some (fraction, rest) := by
  cases h with
  | missing =>
    rw [List.nil_append]
    unfold Json.scanFraction
    split
    · exact absurd rfl (hrest '.' rfl).2
    · rfl
  | point hdigits =>
    rw [List.cons_append, Json.scanFraction, hdigits.scanDigits fun c hc => (hrest c hc).1]
    rfl

/-- So is its exponent, up to what may stand behind a number. -/
theorem Exponent.scanExponent {exponent rest : List Char} (h : Exponent exponent) (hrest : Ends rest) :
    scanExponent (exponent ++ rest) = some (exponent, rest) := by
  cases h with
  | missing =>
    cases rest with
    | nil => rfl
    | cons c rest =>
      obtain ⟨-, -, hlower, hupper⟩ := hrest c rfl
      rw [List.nil_append, Json.scanExponent, if_neg (not_or.mpr ⟨hlower, hupper⟩)]
  | @power e sign digits he hsign hdigits =>
    have hscan : Json.scanDigits (digits ++ rest) = some (digits, rest) := hdigits.scanDigits fun c hc => (hrest c hc).1
    have hcut : scanSign (sign ++ (digits ++ rest)) = (sign, digits ++ rest) := by
      simp only [List.mem_cons, List.not_mem_nil, or_false] at hsign
      rcases hsign with rfl | rfl | rfl
      · -- A digit comes first, which is no sign.
        obtain ⟨c, cs, rfl⟩ := List.exists_cons_of_ne_nil hdigits.1
        have hdigit := hdigits.2 c List.mem_cons_self
        rw [List.nil_append, List.cons_append]
        unfold scanSign
        split
        · rename_i heq
          cases heq
          exact absurd hdigit (by decide)
        · rename_i heq
          cases heq
          exact absurd hdigit (by decide)
        · rfl
      · rfl
      · rfl
    rw [List.append_assoc, List.cons_append, Json.scanExponent, if_pos he, hcut, hscan]
    rfl

/-- Behind the whole part stands what follows the number, or a point or an exponent. -/
theorem ends_whole {fraction exponent rest : List Char} (hfraction : Fraction fraction) (hexponent : Exponent exponent)
    (hrest : Ends rest) : ∀ c ∈ (fraction ++ (exponent ++ rest)).head?, c.isDigit = false := by
  cases hfraction with
  | missing =>
    cases hexponent with
    | missing => exact fun c hc => (hrest c hc).1
    | power he =>
      rintro c ⟨⟩
      rcases he with rfl | rfl <;> rfl
  | point =>
    rintro c ⟨⟩
    rfl

/-- Behind the fraction stands what follows the number, or an exponent. -/
theorem ends_fraction {exponent rest : List Char} (hexponent : Exponent exponent) (hrest : Ends rest) :
    ∀ c ∈ (exponent ++ rest).head?, c.isDigit = false ∧ c ≠ '.' := by
  cases hexponent with
  | missing => exact fun c hc => ⟨(hrest c hc).1, (hrest c hc).2.1⟩
  | power he =>
    rintro c ⟨⟩
    rcases he with rfl | rfl <;> exact ⟨rfl, by decide⟩

/-- A number without a sign is scanned part by part. -/
theorem scanUnsigned_append {whole fraction exponent rest : List Char} (hwhole : Whole whole) (hfraction : Fraction fraction)
    (hexponent : Exponent exponent) (hrest : Ends rest) :
    scanUnsigned (whole ++ fraction ++ exponent ++ rest) = some (whole ++ fraction ++ exponent, rest) := by
  rw [List.append_assoc, List.append_assoc, scanUnsigned, hwhole.scanWhole (ends_whole hfraction hexponent hrest),
    Option.bind_eq_bind, Option.bind_some]
  dsimp only
  rw [hfraction.scanFraction (ends_fraction hexponent hrest), Option.bind_some]
  dsimp only
  rw [hexponent.scanExponent hrest]
  rfl

/-- The first character of a number. -/
theorem Whole.exists_cons {whole : List Char} (h : Whole whole) : ∃ c cs, whole = c :: cs ∧ c.isDigit = true := by
  cases h with
  | zero => exact ⟨'0', [], rfl, rfl⟩
  | @digits c cs hdigits => exact ⟨c, cs, rfl, hdigits.2 c List.mem_cons_self⟩

/-- A number starts with a digit or with a minus sign. -/
theorem Number.exists_cons {spelling : List Char} (h : Number spelling) :
    ∃ c cs, spelling = c :: cs ∧ (c = '-' ∨ c.isDigit = true) := by
  cases h with
  | unsigned hwhole =>
    obtain ⟨c, cs, rfl, hdigit⟩ := hwhole.exists_cons
    exact ⟨c, _, rfl, .inr hdigit⟩
  | negative => exact ⟨'-', _, rfl, .inl rfl⟩

/-- A number is scanned as it is spelled, whatever may stand behind it. -/
theorem Number.scanNumber {spelling rest : List Char} (h : Number spelling) (hrest : Ends rest) :
    scanNumber (spelling ++ rest) = some (spelling, rest) := by
  cases h with
  | unsigned hwhole hfraction hexponent =>
    have hscan := scanUnsigned_append hwhole hfraction hexponent hrest
    obtain ⟨c, cs, rfl, hdigit⟩ := hwhole.exists_cons
    rw [← hscan]
    refine Json.scanNumber.eq_2 _ ?_
    rintro after heq
    cases heq
    exact absurd hdigit (by decide)
  | negative hwhole hfraction hexponent =>
    rw [List.cons_append, Json.scanNumber, scanUnsigned_append hwhole hfraction hexponent hrest]
    rfl

/-- What starts with a minus sign or a digit can only be a number. -/
theorem scanToken_eq_scanNumber {c : Char} {cs : List Char} (h : c = '-' ∨ c.isDigit = true) :
    scanToken (c :: cs) = (scanNumber (c :: cs)).map fun (spelling, rest) => (.number spelling, rest) := by
  unfold scanToken
  split
  case h_11 => rfl
  all_goals
    rename_i heq
    cases heq
    exact absurd h (by decide)

/-- No white space starts a number. -/
theorem isSpace_of_number {c : Char} (h : c = '-' ∨ c.isDigit = true) : isSpace c = false := by
  rw [Bool.eq_false_iff]
  intro hspace
  simp only [isSpace, Bool.or_eq_true, beq_iff_eq] at hspace
  rcases hspace with ((rfl | rfl) | rfl) | rfl <;> exact absurd h (by decide)

/-! ## Strings are read -/

/-- Hexadecimal digits are read in either case. -/
theorem readHexDigit_toLower (c : Char) : Text.readHexDigit c.toLower = Text.readHexDigit c := by
  by_cases hupper : 'A' ≤ c ∧ c ≤ 'Z'
  · have hlow : 65 ≤ c.toNat := hupper.1
    have hhigh : c.toNat ≤ 90 := hupper.2
    have hletters : ∀ n < 26, Text.readHexDigit (Char.ofNat (65 + n)).toLower = Text.readHexDigit (Char.ofNat (65 + n)) := by
      decide
    have hletter := hletters (c.toNat - 65) (by omega)
    rwa [Nat.add_sub_cancel' hlow, Char.ofNat_toNat] at hletter
  · have hsame : c.toLower = c := dif_neg hupper
    rw [hsame]

/-- The four digits of a unit are read as the unit. -/
theorem Unit16.readHexWord {unit : Nat} {digits : List Char} (h : Unit16 unit digits) :
    ∃ a b c d, digits = [a, b, c, d] ∧ Text.readHexWord a b c d = some unit := by
  obtain ⟨hunit, hdigits⟩ := h
  obtain ⟨a, _, rfl, ha, hdigits⟩ := List.map_eq_cons_iff.mp hdigits
  obtain ⟨b, _, rfl, hb, hdigits⟩ := List.map_eq_cons_iff.mp hdigits
  obtain ⟨c, _, rfl, hc, hdigits⟩ := List.map_eq_cons_iff.mp hdigits
  obtain ⟨d, _, rfl, hd, hdigits⟩ := List.map_eq_cons_iff.mp hdigits
  obtain rfl := List.map_eq_nil_iff.mp hdigits
  refine ⟨a, b, c, d, rfl, ?_⟩
  rw [← Text.readHexWord_hexWord hunit, Text.readHexWord, Text.readHexWord, ← readHexDigit_toLower a, ← readHexDigit_toLower b,
    ← readHexDigit_toLower c, ← readHexDigit_toLower d, ha, hb, hc, hd]

/-- A unit in four digits is read as a piece. -/
theorem Unit16.scanString {unit : Nat} {digits : List Char} (h : Unit16 unit digits) (rest : List Char) :
    scanString ('\\' :: 'u' :: digits ++ rest) =
      (scanString rest).map fun (pieces, left) => (pieceOfUnit unit :: pieces, left) := by
  obtain ⟨a, b, c, d, rfl, hread⟩ := h.readHexWord
  simp only [List.cons_append, List.nil_append, Json.scanString]
  rw [hread]
  cases Json.scanString rest <;> rfl

/-- A short escape stands for its character. -/
theorem unescape_of_mem {e c : Char} (h : (e, c) ∈ shortEscapes) : unescape e = some c := by
  simp only [shortEscapes, List.mem_cons, Prod.mk.injEq, List.not_mem_nil, or_false] at h
  rcases h with ⟨rfl, rfl⟩ | ⟨rfl, rfl⟩ | ⟨rfl, rfl⟩ | ⟨rfl, rfl⟩ | ⟨rfl, rfl⟩ | ⟨rfl, rfl⟩ | ⟨rfl, rfl⟩ | ⟨rfl, rfl⟩ <;> rfl

theorem joinHalves_char (c : Char) (pieces : List Piece) : joinHalves (.char c :: pieces) = .char c :: joinHalves pieces :=
  joinHalves.eq_2 _ _ (by simp)

/-- A half that makes no pair with what follows stays as it is. -/
theorem joinHalves_of_unpaired {unit : Nat} {pieces : List Piece}
    (h : ∀ lo rest, pieces = .half lo :: rest → ¬(unit < 0xdc00 ∧ 0xdc00 ≤ lo)) :
    joinHalves (.half unit :: pieces) = .half unit :: joinHalves pieces := by
  rcases pieces with _ | ⟨c | lo, rest⟩
  · rfl
  · exact joinHalves.eq_2 _ _ (by simp)
  · rw [joinHalves, if_neg (h lo rest rfl)]

/-- Whether a half makes a pair shows in what follows when the pairs are joined there. -/
theorem joinHalves_half {unit : Nat} {pieces : List Piece}
    (hlone : unit < 0xdc00 → ∀ lo rest, joinHalves pieces = .half lo :: rest → lo < 0xdc00) :
    joinHalves (.half unit :: pieces) = .half unit :: joinHalves pieces := by
  refine joinHalves_of_unpaired ?_
  rintro lo rest rfl ⟨hunit, hlo⟩
  have hstays : joinHalves (.half lo :: rest) = .half lo :: joinHalves rest :=
    joinHalves_of_unpaired fun _ _ _ hpair => Nat.not_lt.mpr hlo hpair.1
  exact Nat.not_lt.mpr hlo (hlone hunit lo _ hstays)

/-- What stands between the quotes of a string is read as pieces that make the string once the halves in it are joined. -/
theorem Characters.scanString {pieces : List Piece} {text : List Char} (h : Characters pieces text) :
    ∃ units, joinHalves units = pieces ∧ ∀ rest, scanString (text ++ '"' :: rest) = some (units, rest) := by
  induction h with
  | done => exact ⟨[], rfl, fun _ => rfl⟩
  | @plain c _ text hcontrol hquote hslash _ ih =>
    obtain ⟨units, hjoin, hscan⟩ := ih
    refine ⟨.char c :: units, by rw [joinHalves_char, hjoin], fun rest => ?_⟩
    have hspells := spells_self hcontrol hquote hslash (text ++ '"' :: rest)
    rw [hscan] at hspells
    exact hspells
  | @short e c _ text hshort _ ih =>
    obtain ⟨units, hjoin, hscan⟩ := ih
    refine ⟨.char c :: units, by rw [joinHalves_char, hjoin], fun rest => ?_⟩
    have hspells := spells_escape (unescape_of_mem hshort) (text ++ '"' :: rest)
    rw [hscan] at hspells
    exact hspells
  | @unit unit _ _ _ hunit hrange _ ih =>
    obtain ⟨units, hjoin, hscan⟩ := ih
    have hpiece : pieceOfUnit unit = .char (Char.ofNat unit) := if_neg (by omega)
    refine ⟨pieceOfUnit unit :: units, by rw [hpiece, joinHalves_char, hjoin], fun rest => ?_⟩
    rw [List.append_assoc, hunit.scanString, hscan]
    rfl
  | @pair hi lo _ _ _ _ hhi hhiRange hlo hloRange _ ih =>
    obtain ⟨units, hjoin, hscan⟩ := ih
    have hhiPiece : pieceOfUnit hi = .half hi := if_pos (by omega)
    have hloPiece : pieceOfUnit lo = .half lo := if_pos (by omega)
    refine ⟨pieceOfUnit hi :: pieceOfUnit lo :: units, ?_, fun rest => ?_⟩
    · rw [hhiPiece, hloPiece, joinHalves, if_pos ⟨hhiRange.2, hloRange.1⟩, hjoin]
    · rw [List.append_assoc, List.append_assoc, hhi.scanString, hlo.scanString, hscan]
      rfl
  | @half unit _ _ _ hunit hrange hlone _ ih =>
    obtain ⟨units, rfl, hscan⟩ := ih
    have hpiece : pieceOfUnit unit = .half unit := if_pos hrange
    refine ⟨pieceOfUnit unit :: units, by rw [hpiece, joinHalves_half hlone], fun rest => ?_⟩
    rw [List.append_assoc, hunit.scanString, hscan]
    rfl

/-! ## Values are read -/

/-- White space makes no tokens. -/
theorem Blank.tokens_append {cs : List Char} (h : Blank cs) (rest : List Char) : tokens (cs ++ rest) = tokens rest := by
  induction cs with
  | nil => rfl
  | cons c cs ih =>
    have hspace : isSpace c = true := by
      rcases h c List.mem_cons_self with rfl | rfl | rfl | rfl <;> rfl
    rw [List.cons_append, tokens, if_pos hspace]
    exact ih fun d hd => h d (List.mem_cons_of_mem c hd)

/-- White space has no tokens. -/
theorem Blank.lexes {cs : List Char} (h : Blank cs) : Lexes cs [] := by
  intro rest
  rw [h.tokens_append]
  exact Option.map_id'.symm

theorem ends_nil : Ends [] :=
  nofun

/-- White space may stand before what may stand behind a number. -/
theorem Blank.ends_append {cs rest : List Char} (h : Blank cs) (hrest : Ends rest) : Ends (cs ++ rest) := by
  cases cs with
  | nil => exact hrest
  | cons c cs =>
    rintro _ ⟨⟩
    rcases h c List.mem_cons_self with rfl | rfl | rfl | rfl <;> decide

/-- A text that gives these tokens, unless it is a number that goes on behind it. -/
def LexesBefore (text : List Char) (ts : List Token) : Prop :=
  ∀ rest, Ends rest → tokens (text ++ rest) = (tokens rest).map (ts ++ ·)

/-- What is one part of a text does not hang on what follows. -/
theorem LexesBefore.of_lexes {text : List Char} {ts : List Token} (h : Lexes text ts) : LexesBefore text ts :=
  fun rest _ => h rest

namespace LexesBefore

variable {text text' : List Char} {ts ts' : List Token}

/-- White space may stand about a text. -/
theorem padded {before after : List Char} (hbefore : Blank before) (h : LexesBefore text ts) (hafter : Blank after) :
    LexesBefore (before ++ text ++ after) ts := by
  intro rest hrest
  rw [List.append_assoc, List.append_assoc, hbefore.tokens_append, h _ (hafter.ends_append hrest), hafter.tokens_append]

/-- With a mark behind it that is in no number, a text gives its tokens whatever follows. -/
theorem mark (h : LexesBefore text ts) {c : Char} {token : Token} (hmark : Lexes [c] [token])
    (hends : c.isDigit = false ∧ c ≠ '.' ∧ c ≠ 'e' ∧ c ≠ 'E') : Lexes (text ++ [c]) (ts ++ [token]) := by
  intro rest
  have hrest : Ends ([c] ++ rest) := by
    rintro _ ⟨⟩
    exact hends
  rw [List.append_assoc, h _ hrest, hmark, Option.map_map]
  congr 1
  funext left
  exact (List.append_assoc ..).symm

/-- A text behind one that does not hang on it. -/
theorem behind (h : Lexes text ts) (h' : LexesBefore text' ts') : LexesBefore (text ++ text') (ts ++ ts') := by
  intro rest hrest
  rw [List.append_assoc, h, h' rest hrest, Option.map_map]
  congr 1
  funext left
  exact (List.append_assoc ..).symm

/-- A text before others, with a comma between them. -/
theorem comma (h : LexesBefore text ts) {next : List Token} {spelled : List (List Token)}
    (h' : LexesBefore text' ([.comma].intercalate (next :: spelled))) :
    LexesBefore (text ++ ',' :: text') ([.comma].intercalate (ts :: next :: spelled)) := by
  have hboth := behind (h.mark Lexes.comma (by decide)) h'
  rw [List.append_assoc] at hboth
  rwa [List.intercalate_cons_cons]

/-- A text in brackets. -/
theorem enclosed {o c : Char} {openToken closeToken : Token} (hopen : Lexes [o] [openToken]) (h : LexesBefore text ts)
    (hclose : Lexes [c] [closeToken]) (hends : c.isDigit = false ∧ c ≠ '.' ∧ c ≠ 'e' ∧ c ≠ 'E') :
    LexesBefore (o :: text ++ [c]) (openToken :: ts ++ [closeToken]) :=
  .of_lexes ((behind hopen h).mark hclose hends)

end LexesBefore

/-- A number is one token, before anything that may stand behind it. -/
theorem Number.lexesBefore {spelling : List Char} (h : Number spelling) : LexesBefore spelling [.number spelling] := by
  intro rest hrest
  have hscan := h.scanNumber hrest
  obtain ⟨c, cs, rfl, hc⟩ := h.exists_cons
  have htoken : scanToken (c :: (cs ++ rest)) = some (.number (c :: cs), rest) := by
    rw [scanToken_eq_scanNumber hc, ← List.cons_append, hscan]
    rfl
  exact tokens_cons (isSpace_of_number hc) htoken

/-- A string is one token, with its pieces. -/
theorem Characters.lexes {pieces : List Piece} {text : List Char} (h : Characters pieces text) :
    Lexes ('"' :: text ++ ['"']) [.string pieces] := by
  obtain ⟨units, rfl, hscan⟩ := h.scanString
  rw [List.cons_append]
  refine Lexes.of_scanToken rfl fun rest => ?_
  rw [List.cons_append, List.append_assoc, List.singleton_append, scanToken, hscan]
  rfl

/-- A text is read as what its tokens spell. -/
def Reads {α : Type} (spells : α → List Token → Prop) (x : α) (text : List Char) : Prop :=
  ∃ ts, LexesBefore text ts ∧ spells x ts

/-- A text is read as things with commas between them. -/
def ReadsAll {α : Type} (spells : α → List Token → Prop) (xs : List α) (text : List Char) : Prop :=
  ∃ ts spelled, List.Forall₂ spells xs (ts :: spelled) ∧ LexesBefore text ([.comma].intercalate (ts :: spelled))

section

variable {α : Type} {spells : α → List Token → Prop} {x : α} {xs : List α} {text rest : List Char}

theorem Reads.last (h : Reads spells x text) : ReadsAll spells [x] text := by
  obtain ⟨ts, hlex, hspells⟩ := h
  exact ⟨ts, [], .cons hspells .nil, by simpa using hlex⟩

theorem Reads.more (h : Reads spells x text) (hrest : ReadsAll spells xs rest) :
    ReadsAll spells (x :: xs) (text ++ ',' :: rest) := by
  obtain ⟨ts, hlex, hspells⟩ := h
  obtain ⟨next, spelled, hall, hrestLex⟩ := hrest
  exact ⟨ts, next :: spelled, .cons hspells hall, hlex.comma hrestLex⟩

end

/-- A text is read as a value. -/
abbrev ReadsValue : Json → List Char → Prop :=
  Reads fun v ts => SpellsValue ts v

mutual

/-- A value is read from its text, and so are the parts that it is made of. -/
theorem Value.reads : ∀ {v : Json} {text : List Char}, Value v text → ReadsValue v text
  | _, _, .null => ⟨[.null], .of_lexes (.of_scanToken rfl fun _ => rfl), fun _ => rfl⟩
  | _, _, .yes => ⟨[.boolean true], .of_lexes (.of_scanToken rfl fun _ => rfl), fun _ => rfl⟩
  | _, _, .no => ⟨[.boolean false], .of_lexes (.of_scanToken rfl fun _ => rfl), fun _ => rfl⟩
  | _, _, .number h => ⟨_, h.lexesBefore, fun _ => rfl⟩
  | _, _, .string h => ⟨_, .of_lexes h.lexes, spellsValue_string _⟩
  | _, _, .emptyArray h => ⟨_, .enclosed .openArray (.of_lexes h.lexes) .closeArray (by decide), spellsValue_array .nil⟩
  | _, _, .array h => by
    obtain ⟨ts, spelled, hitems, hlex⟩ := h.reads
    exact ⟨_, hlex.enclosed .openArray .closeArray (by decide), spellsValue_array hitems⟩
  | _, _, .emptyObject h => ⟨_, .enclosed .openObject (.of_lexes h.lexes) .closeObject (by decide), spellsValue_object .nil⟩
  | _, _, .object h => by
    obtain ⟨ts, spelled, hmembers, hlex⟩ := h.reads
    exact ⟨_, hlex.enclosed .openObject .closeObject (by decide), spellsValue_object hmembers⟩

theorem Element.reads : ∀ {v : Json} {text : List Char}, Element v text → ReadsValue v text
  | _, _, .padded hbefore h hafter => by
    obtain ⟨ts, hlex, hvalue⟩ := h.reads
    exact ⟨ts, hlex.padded hbefore hafter, hvalue⟩

theorem Elements.reads : ∀ {items : List Json} {text : List Char}, Elements items text →
    ReadsAll (fun v ts => SpellsValue ts v) items text
  | _, _, .last h => h.reads.last
  | _, _, .more h hrest => h.reads.more hrest.reads

theorem Member.reads : ∀ {member : List Piece × Json} {text : List Char}, Member member text → Reads SpellsMember member text
  | _, _, .named hbefore hname hafter h => by
    obtain ⟨ts, hlex, hvalue⟩ := h.reads
    have hname := ((hbefore.lexes.append hname.lexes).append hafter.lexes).append Lexes.colon
    exact ⟨_, by simpa using LexesBefore.behind hname hlex, ts, rfl, hvalue⟩

theorem Members.reads : ∀ {members : List (List Piece × Json)} {text : List Char}, Members members text →
    ReadsAll SpellsMember members text
  | _, _, .last h => h.reads.last
  | _, _, .more h hrest => h.reads.more hrest.reads

end

/-- A text of a value is parsed as the value. -/
theorem Element.parse_eq {v : Json} {s : String} (h : Element v s.toList) : parse s = some v := by
  obtain ⟨ts, hlex, hvalue⟩ := h.reads
  have htokens := hlex [] ends_nil
  rw [List.append_nil, tokens, Option.map_some, List.append_nil] at htokens
  rw [parse, htokens, Option.bind_some, ofTokens, hvalue]
  rfl

end SparseRows.Json.Grammar
