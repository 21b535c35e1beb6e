import Mathlib.Data.List.Nodup
import Mathlib.Data.List.Perm.Basic
import SparseRows.Log.Line
import SparseRows.Proofs.Json.Spelling
import SparseRows.Text.Blank

/-!
# What a log line says

A line is one line of text, and a reader of JSON gets from it the texts that were put into it, in the order written
(`decode_renderObject`). Which order that is depends on the keys, and on the order given only where keys are the same
(`stablySorted_sortFields`), so fields of different keys may be given in any order (`sortFields_perm`).
-/

namespace SparseRows.Log

/-! ## A line as text -/

/-- No control character is in a text. -/
def IsPlain (cs : List Char) : Prop :=
  ∀ c ∈ cs, isControl c = false

theorem isPlain_append {cs cs' : List Char} (h : IsPlain cs) (h' : IsPlain cs') : IsPlain (cs ++ cs') :=
  List.forall_mem_append.mpr ⟨h, h'⟩

theorem isPlain_cons {c : Char} {cs : List Char} (h : isControl c = false) (h' : IsPlain cs) : IsPlain (c :: cs) :=
  List.forall_mem_cons.mpr ⟨h, h'⟩

theorem isPlain_nil : IsPlain [] :=
  List.forall_mem_nil _

/-- Plain parts with something plain between them are plain. -/
theorem isPlain_intercalate {sep : List Char} (hsep : IsPlain sep) {parts : List (List Char)}
    (hparts : ∀ part ∈ parts, IsPlain part) : IsPlain (sep.intercalate parts) := by
  induction parts with
  | nil => exact isPlain_nil
  | cons part parts ih =>
    rw [List.forall_mem_cons] at hparts
    cases parts with
    | nil =>
      rw [List.intercalate_singleton]
      exact hparts.1
    | cons =>
      rw [List.intercalate_cons_cons]
      exact isPlain_append (isPlain_append hparts.1 hsep) (ih hparts.2)

theorem isControl_hexDigit {n : Nat} (h : n < 16) : isControl (Text.hexDigit n) = false := by
  decide +revert

/-- Hexadecimal digits are plain. -/
theorem isPlain_hexWord (n : Nat) : IsPlain (Text.hexWord n) := by
  have hdigit : ∀ m, isControl (Text.hexDigit (m % 16)) = false := fun m => isControl_hexDigit (Nat.mod_lt m (by decide))
  exact isPlain_cons (hdigit _) (isPlain_cons (hdigit _) (isPlain_cons (hdigit _) (isPlain_cons (hdigit _) isPlain_nil)))

/-- An escaped character is plain, which is what escapes are for. -/
theorem isPlain_escape (c : Char) : IsPlain (escape c) := by
  unfold escape
  split
  case h_6 =>
    split
    · exact isPlain_cons rfl (isPlain_cons rfl (isPlain_hexWord _))
    · rename_i hcontrol
      exact isPlain_cons (Bool.eq_false_iff.mpr hcontrol) isPlain_nil
  all_goals exact isPlain_cons rfl (isPlain_cons rfl isPlain_nil)

/-- So a string is plain, whatever is in the text. -/
theorem isPlain_renderString (s : String) : IsPlain (renderString s) := by
  have hchars : IsPlain (s.toList.flatMap escape) := by
    intro c hc
    obtain ⟨d, -, hc⟩ := List.mem_flatMap.mp hc
    exact isPlain_escape d c hc
  exact isPlain_append (isPlain_cons rfl hchars) (isPlain_cons rfl isPlain_nil)

/-- So is an object of strings. -/
theorem isPlain_renderObject (members : List (String × String)) : IsPlain (renderObject members) := by
  have hmember : ∀ part ∈ members.map renderMember, IsPlain part := by
    rintro _ hpart
    obtain ⟨member, -, rfl⟩ := List.mem_map.mp hpart
    exact isPlain_append (isPlain_renderString _) (isPlain_cons rfl (isPlain_renderString _))
  exact isPlain_append (isPlain_cons rfl (isPlain_intercalate (isPlain_cons rfl isPlain_nil) hmember))
    (isPlain_cons rfl isPlain_nil)

/-- Trimming a line that ends in a line feed takes nothing else off. -/
theorem trimEnd_renderObject (members : List (String × String)) :
    Text.trimEnd (renderObject members ++ ['\n']) = renderObject members := by
  rw [renderObject, Text.trimEnd, List.reverse_append, List.reverse_append, List.reverse_singleton, List.reverse_singleton,
    List.singleton_append, List.singleton_append, List.dropWhile_cons_of_pos rfl, List.dropWhile_cons_of_neg (by decide),
    List.reverse_cons, List.reverse_reverse]

/-! ## A line as JSON -/

/-- The texts by their names that a line gives to a reader of JSON, in the order written. -/
def decode (line : String) : Option (List (String × String)) :=
  match Json.parse line with
  | some (.object members) => members.mapM fun (name, v) => do return (← Json.textOf name, ← v.text?)
  | _ => none

/-- An escaped character spells the character. -/
theorem spells_escape (c : Char) : Json.Spells (escape c) c := by
  unfold escape
  split
  case h_6 hquote hslash _ _ _ =>
    split
    · rename_i hcontrol
      refine Json.spells_unit ?_
      rw [isControl, Bool.or_eq_true, Bool.and_eq_true, decide_eq_true_iff, decide_eq_true_iff, decide_eq_true_iff] at hcontrol
      omega
    · rename_i hcontrol
      refine Json.spells_self ?_ hquote hslash
      rw [isControl, Bool.or_eq_true, not_or, decide_eq_true_iff] at hcontrol
      omega
  all_goals exact Json.spells_escape rfl

/-- The tokens of a member. -/
def memberTokens (member : String × String) : List Json.Token :=
  [.string (Json.piecesOf member.1), .colon, .string (Json.piecesOf member.2)]

/-- A member as a member of a JSON object. -/
def jsonMember (member : String × String) : List Json.Piece × Json :=
  (Json.piecesOf member.1, Json.ofText member.2)

/-- A member lexes to its name, a colon and its value. -/
theorem lexes_renderMember (member : String × String) : Json.Lexes (renderMember member) (memberTokens member) :=
  (Json.Lexes.string spells_escape member.1).append (Json.Lexes.colon.append (Json.Lexes.string spells_escape member.2))

/-- A line is the JSON object of what was put into it. -/
theorem parse_renderObject (members : List (String × String)) :
    Json.parse (String.ofList (renderObject members)) = some (.object (members.map jsonMember)) := by
  have hlex : Json.Lexes (renderObject members)
      (.openObject :: [Json.Token.comma].intercalate (members.map memberTokens) ++ [.closeObject]) := by
    refine (Json.Lexes.openObject.append (Json.Lexes.comma.intercalate ?_)).append Json.Lexes.closeObject
    rw [List.forall₂_map_left_iff, List.forall₂_map_right_iff, List.forall₂_same]
    exact fun member _ => lexes_renderMember member
  refine Json.parse_eq (by rwa [String.toList_ofList]) (Json.spellsValue_object ?_)
  rw [List.forall₂_map_left_iff, List.forall₂_map_right_iff, List.forall₂_same]
  exact fun member _ => ⟨_, rfl, Json.spellsValue_string _⟩

/-- A reader of JSON gets from a line what was put into it. -/
theorem decode_renderObject (members : List (String × String)) : decode (String.ofList (renderObject members)) = some members := by
  rw [decode, parse_renderObject]
  change (members.map jsonMember).mapM _ = _
  induction members with
  | nil => rfl
  | cons member members ih =>
    rw [List.map_cons, List.mapM_cons, ih]
    simp [jsonMember, Json.ofText, Json.text?, Json.textOf_piecesOf]

/-! ## The order of the fields -/

/-- Fields in the order of their keys, those of one key in the order given. -/
structure StablySorted (fields sorted : List (String × String)) : Prop where
  ordered : sorted.Pairwise fun a b => a.1 ≤ b.1
  stable : ∀ key, sorted.filter (·.1 = key) = fields.filter (·.1 = key)

theorem keyLe_trans (a b c : String × String) (h : decide (a.1 ≤ b.1) = true) (h' : decide (b.1 ≤ c.1) = true) :
    decide (a.1 ≤ c.1) = true :=
  decide_eq_true (String.le_trans (of_decide_eq_true h) (of_decide_eq_true h'))

theorem keyLe_total (a b : String × String) : (decide (a.1 ≤ b.1) || decide (b.1 ≤ a.1)) = true := by
  rw [Bool.or_eq_true, decide_eq_true_iff, decide_eq_true_iff]
  exact String.le_total a.1 b.1

/-- Sorted fields are in the order of their keys. -/
theorem pairwise_sortFields (fields : List (String × String)) : (sortFields fields).Pairwise fun a b => a.1 ≤ b.1 :=
  (List.pairwise_mergeSort keyLe_trans keyLe_total fields).imp of_decide_eq_true

/-- Sorting neither adds nor drops a field. -/
theorem sortFields_perm (fields : List (String × String)) : (sortFields fields).Perm fields :=
  List.mergeSort_perm fields _

/-- Fields of one key stay in the order in which they were given. -/
theorem stablySorted_sortFields (fields : List (String × String)) : StablySorted fields (sortFields fields) where
  ordered := pairwise_sortFields fields
  stable key := by
    -- The fields of one key are sorted as given, so they are found in this order among the sorted ones, and these have no more.
    have hpairwise : (fields.filter (·.1 = key)).Pairwise fun a b => decide (a.1 ≤ b.1) = true := by
      refine List.pairwise_iff_forall_sublist.mpr fun {a b} hab => decide_eq_true ?_
      have ha : a.1 = key := of_decide_eq_true (List.mem_filter.mp (hab.subset List.mem_cons_self)).2
      have hb : b.1 = key :=
        of_decide_eq_true (List.mem_filter.mp (hab.subset (List.mem_cons_of_mem a List.mem_cons_self))).2
      exact (ha.trans hb.symm) ▸ String.le_refl a.1
    have hsublist := (List.sublist_mergeSort keyLe_trans keyLe_total hpairwise List.filter_sublist).filter (·.1 = key)
    rw [List.filter_filter] at hsublist
    simp only [Bool.and_self] at hsublist
    exact (hsublist.eq_of_length ((sortFields_perm fields).filter _).length_eq.symm).symm

/-- Fields of different keys are written in the same order whatever order they are given in. -/
theorem sortFields_eq_of_perm {fields fields' : List (String × String)} (hperm : fields.Perm fields')
    (hkeys : (fields.map Prod.fst).Nodup) : sortFields fields = sortFields fields' := by
  have hperm' : (sortFields fields).Perm (sortFields fields') :=
    (sortFields_perm fields).trans (hperm.trans (sortFields_perm fields').symm)
  refine List.Perm.eq_of_pairwise (fun a b ha hb hab hba => ?_) (pairwise_sortFields fields) (pairwise_sortFields fields') hperm'
  refine List.inj_on_of_nodup_map hkeys ((sortFields_perm fields).mem_iff.mp ha) ?_ (String.le_antisymm hab hba)
  exact hperm.mem_iff.mpr ((sortFields_perm fields').mem_iff.mp hb)

end SparseRows.Log
