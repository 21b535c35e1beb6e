import Mathlib.Data.Multiset.MapFold
import Mathlib.Data.Multiset.Filter
import SparseRows.Dialect.Basic
import SparseRows.Proofs.Access
import SparseRows.Sql.TripleTable

/-!
# Bags of triples

The contents of the table of a relational store, in no order and with nothing to keep a row id and a column id from standing
in it twice. What the row statements do to them is given by `Template.effect`. Keeping one value to a column is up to the
client, which updates before it inserts: `Bag.keyed_save` says that this suffices, and `Bag.Shows` how the bag stands for a
row.
-/

namespace SparseRows

/-- The triples in a table. -/
abbrev Bag := Multiset Triple

/-- The row and the column that a triple is for. -/
def Triple.place (triple : Triple) : String × String :=
  (triple.rid, triple.cid)

theorem Triple.isAt_iff {triple : Triple} {rid cid : String} : triple.isAt rid cid = true ↔ triple.place = (rid, cid) := by
  simp [isAt, place]

namespace Bag

variable (bag : Bag) (rid cid v : String)

/-- The value of the triples of a column is replaced. -/
def update : Bag :=
  bag.map fun t => if t.isAt rid cid then { t with v } else t

/-- The triples of a column are left out. -/
def dropColumn : Bag :=
  bag.filter fun t => ¬t.isAt rid cid

/-- The triples of a row are left out. -/
def dropRow : Bag :=
  bag.filter fun t => t.rid ≠ rid

/-- The columns of a row with their values. -/
def columns : Multiset (String × String) :=
  (bag.filter fun t => t.rid = rid).map fun t => (t.cid, t.v)

end Bag

/-- The number of triples that a row statement reaches, and the triples after it. -/
def Template.effect : Template → List String → Bag → Option (Nat × Bag)
  | updateColumn, [v, rid, cid], bag => some (bag.countP (·.isAt rid cid), bag.update rid cid v)
  | insertColumn, [v, rid, cid], bag => some (1, ⟨rid, cid, v⟩ ::ₘ bag)
  | removeColumn, [rid, cid], bag => some (bag.countP (·.isAt rid cid), bag.dropColumn rid cid)
  | deleteRow, [rid], bag => some (bag.countP (·.rid = rid), bag.dropRow rid)
  | _, _, _ => none

namespace Bag

variable {bag : Bag} {rid cid v : String}

/-- No row and column have more than one triple. -/
def Keyed (bag : Bag) : Prop :=
  (bag.map Triple.place).Nodup

/-- What a client makes of a column: it updates the triples that there are, or inserts one, or removes them. -/
def save (bag : Bag) (rid : String) : String × Option String → Bag
  | (cid, some v) => if 0 < bag.countP (·.isAt rid cid) then bag.update rid cid v else ⟨rid, cid, v⟩ ::ₘ bag
  | (cid, none) => bag.dropColumn rid cid

/-- No triple is counted at a place just if none stands there. -/
theorem countP_isAt_eq_zero_iff : bag.countP (·.isAt rid cid) = 0 ↔ ∀ t ∈ bag, t.place ≠ (rid, cid) := by
  rw [Multiset.countP_eq_zero]
  exact forall₂_congr fun t _ => not_congr Triple.isAt_iff

theorem keyed_zero : Keyed 0 :=
  Multiset.nodup_zero

/-- Overwriting a column leaves one triple at each place. -/
theorem Keyed.update (h : bag.Keyed) (rid cid v : String) : (bag.update rid cid v).Keyed := by
  have hplaces : (bag.update rid cid v).map Triple.place = bag.map Triple.place := by
    rw [Bag.update, Multiset.map_map]
    refine Multiset.map_congr rfl fun t _ => ?_
    rw [Function.comp_apply]
    split <;> rfl
  rwa [Keyed, hplaces]

/-- So does removing triples. -/
theorem Keyed.filter (h : bag.Keyed) (p : Triple → Prop) [DecidablePred p] : Keyed (Multiset.filter p bag) :=
  Multiset.nodup_of_le (Multiset.map_le_map (Multiset.filter_le p bag)) h

/-- A triple that is inserted because an update reached none is the only one of its row and column. -/
theorem Keyed.insert (h : bag.Keyed) (hnone : bag.countP (·.isAt rid cid) = 0) (v : String) : Keyed (⟨rid, cid, v⟩ ::ₘ bag) := by
  rw [Keyed, Multiset.map_cons, Multiset.nodup_cons]
  refine ⟨fun hmem => ?_, h⟩
  obtain ⟨t, ht, hplace⟩ := Multiset.mem_map.mp hmem
  exact countP_isAt_eq_zero_iff.mp hnone t ht hplace

/-- A client that updates before it inserts keeps one triple to a row and a column. -/
theorem Keyed.save (h : bag.Keyed) (rid : String) (change : String × Option String) : (bag.save rid change).Keyed := by
  obtain ⟨cid, text⟩ := change
  cases text with
  | none => exact h.filter _
  | some v =>
    simp only [Bag.save]
    by_cases hcount : 0 < bag.countP (·.isAt rid cid)
    · rw [if_pos hcount]
      exact h.update rid cid v
    · rw [if_neg hcount]
      exact h.insert (Nat.eq_zero_of_not_pos hcount) v

/-! ## Rows in a bag -/

/-- Where a column is there, overwriting it puts the new text in its place and leaves the others. -/
theorem mem_update {t : Triple} (hcount : 0 < bag.countP (·.isAt rid cid)) :
    t ∈ bag.update rid cid v ↔ if t.place = (rid, cid) then t.v = v else t ∈ bag := by
  rw [Bag.update, Multiset.mem_map]
  by_cases hplace : t.place = (rid, cid)
  · rw [if_pos hplace]
    constructor
    · rintro ⟨t', _, rfl⟩
      by_cases hat : t'.isAt rid cid
      · rw [if_pos hat]
      · rw [if_neg hat] at hplace
        exact absurd (Triple.isAt_iff.mpr hplace) hat
    · rintro rfl
      obtain ⟨t', ht', hat⟩ := Multiset.countP_pos.mp hcount
      refine ⟨t', ht', ?_⟩
      have hsame : t'.place = t.place := (Triple.isAt_iff.mp hat).trans hplace.symm
      obtain ⟨hrid, hcid⟩ := Prod.mk.inj hsame
      rw [if_pos hat, hrid, hcid]
  · rw [if_neg hplace]
    constructor
    · rintro ⟨t', ht', rfl⟩
      by_cases hat : t'.isAt rid cid
      · rw [if_pos hat] at hplace
        exact absurd (Triple.isAt_iff.mp hat) hplace
      · rwa [if_neg hat]
    · intro ht
      exact ⟨t, ht, if_neg fun hat => hplace (Triple.isAt_iff.mp hat)⟩

/-- An update that reaches no triple changes none. -/
theorem update_of_countP_eq_zero (h : bag.countP (·.isAt rid cid) = 0) (v : String) : bag.update rid cid v = bag := by
  have hsame : bag.update rid cid v = bag.map id := by
    refine Multiset.map_congr rfl fun t ht => if_neg fun hat => ?_
    exact countP_isAt_eq_zero_iff.mp h t ht (Triple.isAt_iff.mp hat)
  rw [hsame, Multiset.map_id]

/-- Removing a column removes its triples and no others. -/
theorem mem_dropColumn {t : Triple} : t ∈ bag.dropColumn rid cid ↔ t ∈ bag ∧ t.place ≠ (rid, cid) := by
  rw [dropColumn, Multiset.mem_filter, Triple.isAt_iff]

/-- A column that is saved has the text saved, and none if it was removed. Every other column has the triples it had. -/
theorem mem_save {t : Triple} (text : Option String) :
    t ∈ bag.save rid (cid, text) ↔ if t.place = (rid, cid) then text = some t.v else t ∈ bag := by
  cases text with
  | none =>
    rw [save, mem_dropColumn]
    by_cases hplace : t.place = (rid, cid) <;> simp [hplace]
  | some v =>
    simp only [save]
    by_cases hcount : 0 < bag.countP (·.isAt rid cid)
    · rw [if_pos hcount, mem_update hcount]
      by_cases hplace : t.place = (rid, cid) <;> simp [hplace, eq_comm]
    · have hnone := countP_isAt_eq_zero_iff.mp (Nat.eq_zero_of_not_pos hcount)
      rw [if_neg hcount, Multiset.mem_cons]
      by_cases hplace : t.place = (rid, cid)
      · have hnot : t ∉ bag := fun ht => hnone t ht hplace
        obtain ⟨trid, tcid, tv⟩ := t
        obtain ⟨rfl, rfl⟩ := Prod.mk.inj hplace
        simp [hnot, hplace, eq_comm]
      · have hne : t ≠ ⟨rid, cid, v⟩ := fun heq => hplace (heq ▸ rfl)
        simp [hplace, hne]

/-- The bag holds the columns of a row under its id, each with its text, and nothing else under this id. -/
def Shows (bag : Bag) (rid : String) (row : Row) : Prop :=
  ∀ (column : String) (w : Value), row[column]? = some w ↔ ∃ v, w = .text v ∧ Triple.mk rid column v ∈ bag

/-- An empty bag shows every row empty. -/
theorem shows_zero (rid : String) : Shows 0 rid ∅ := by
  intro column w
  simp

/-- What is saved of one row leaves every other alone. -/
theorem Shows.save_of_ne {row : Row} {rid' : String} (h : bag.Shows rid' row) (hne : rid' ≠ rid)
    (change : String × Option String) : (bag.save rid change).Shows rid' row := by
  intro column w
  obtain ⟨cid, text⟩ := change
  rw [h column w]
  refine exists_congr fun v => and_congr_right fun _ => ?_
  have hplace : (Triple.mk rid' column v).place ≠ (rid, cid) := fun heq => hne (Prod.mk.inj heq).1
  rw [mem_save, if_neg hplace]

/-- Removing a row leaves the other rows as they are shown. -/
theorem Shows.dropRow_of_ne {row : Row} {rid' : String} (h : bag.Shows rid' row) (hne : rid' ≠ rid) :
    (bag.dropRow rid).Shows rid' row := by
  intro column w
  rw [h column w]
  refine exists_congr fun v => and_congr_right fun _ => ?_
  rw [dropRow, Multiset.mem_filter]
  exact (and_iff_left hne).symm

/-- A row that is left out is empty. -/
theorem shows_dropRow (bag : Bag) (rid : String) : (bag.dropRow rid).Shows rid ∅ := by
  intro column w
  simp [dropRow]

/-- The columns of a row are what its triples hold. -/
theorem mem_columns {column text : String} : (column, text) ∈ bag.columns rid ↔ Triple.mk rid column text ∈ bag := by
  rw [columns, Multiset.mem_map]
  constructor
  · rintro ⟨⟨trid, tcid, tv⟩, ht, heq⟩
    obtain ⟨hmem, hrid⟩ := Multiset.mem_filter.mp ht
    obtain ⟨rfl, rfl⟩ := Prod.mk.inj heq
    obtain rfl : trid = rid := hrid
    exact hmem
  · intro h
    exact ⟨_, Multiset.mem_filter.mpr ⟨h, rfl⟩, rfl⟩

/-- A row has a column once. -/
theorem Keyed.nodup_columns (h : bag.Keyed) (rid : String) : ((bag.columns rid).map Prod.fst).Nodup := by
  have hrow := h.filter fun t => t.rid = rid
  have hplaces : (bag.filter fun t => t.rid = rid).map Triple.place = ((bag.columns rid).map Prod.fst).map (Prod.mk rid) := by
    rw [columns, Multiset.map_map, Multiset.map_map]
    refine Multiset.map_congr rfl fun t ht => ?_
    have hrid : t.rid = rid := (Multiset.mem_filter.mp ht).2
    rw [Triple.place, hrid]
    rfl
  rw [Keyed, hplaces] at hrow
  exact hrow.of_map _

/-- A bag shows one row under an id at most. -/
theorem Shows.unique {row row' : Row} (h : bag.Shows rid row) (h' : bag.Shows rid row') : row = row' :=
  Std.ExtTreeMap.ext_getElem? fun column => Option.ext fun w => (h column w).trans (h' column w).symm

/-- If no column of a row stands in the bag twice, the bag shows the row of the columns, in any order. -/
theorem Keyed.shows_ofList (hkeyed : bag.Keyed) {pairs : List (String × String)}
    (hpairs : (pairs : Multiset (String × String)) = bag.columns rid) :
    bag.Shows rid (Row.ofList (pairs.map fun (column, text) => (column, .text text))) := by
  have hmem : ∀ column text, (column, text) ∈ pairs ↔ Triple.mk rid column text ∈ bag := by
    intro column text
    rw [← mem_columns, ← hpairs, Multiset.mem_coe]
  have hnames : (pairs.map fun (column, text) => (column, Value.text text)).map (·.1) = pairs.map (·.1) := by
    rw [List.map_map]
    rfl
  have hnodup : (pairs.map (·.1)).Nodup := by
    have := hkeyed.nodup_columns rid
    rwa [← hpairs, Multiset.map_coe, Multiset.coe_nodup] at this
  have hlookup : ∀ column text, (column, text) ∈ pairs →
      (Row.ofList (pairs.map fun (column, text) => (column, .text text)))[column]? = some (.text text) := by
    intro column text hpair
    exact Row.getElem?_ofList_of_mem (hnames ▸ hnodup) (List.mem_map.mpr ⟨(column, text), hpair, rfl⟩)
  intro column w
  constructor
  · intro hrow
    by_cases hin : column ∈ pairs.map (·.1)
    · obtain ⟨⟨column, text⟩, hpair, rfl⟩ := List.mem_map.mp hin
      rw [hlookup column text hpair] at hrow
      exact ⟨text, (Option.some.inj hrow).symm, (hmem column text).mp hpair⟩
    · rw [Row.getElem?_ofList_of_notMem (hnames ▸ hin)] at hrow
      cases hrow
  · rintro ⟨text, rfl, htriple⟩
    exact hlookup column text ((hmem column text).mpr htriple)

/-- The columns of a row that is asked for make the row. -/
theorem Shows.ofList_eq {row : Row} (h : bag.Shows rid row) (hkeyed : bag.Keyed) {pairs : List (String × String)}
    (hpairs : (pairs : Multiset (String × String)) = bag.columns rid) :
    Row.ofList (pairs.map fun (column, text) => (column, .text text)) = row :=
  (hkeyed.shows_ofList hpairs).unique h

/-- A bag in which no column of a row stands twice shows a row under every id. -/
theorem Keyed.exists_shows (hkeyed : bag.Keyed) (rid : String) : ∃ row, bag.Shows rid row := by
  obtain ⟨pairs, hpairs⟩ := Quotient.exists_rep (bag.columns rid)
  exact ⟨_, hkeyed.shows_ofList hpairs⟩

end Bag

/-! ## Changes to a row in a bag -/

/-- The form that a store of texts gives a value: its text. Bytes, which such a store does not take, remain. -/
def Value.textForm (v : Value) : Value :=
  match v.toText? with
  | some s => .text s
  | none => v

/-- The text of a text is the text itself. -/
theorem Value.textForm_textForm (v : Value) : v.textForm.textForm = v.textForm := by
  cases v <;> rfl

/-- The change that leaves the text of what it leaves. -/
def Change.textForm : Change → Change
  | put v => .put v.textForm
  | remove => .remove

/-- A store of texts takes no bytes. -/
def Value.Textual (v : Value) : Prop :=
  v.isBinary = false

/-- A value that is not binary has a text, and this is the form that it takes. -/
theorem Value.Textual.toText? {v : Value} (h : v.Textual) : ∃ text, v.toText? = some text ∧ v.textForm = .text text := by
  cases v with
  | binary bytes => cases h
  | text s => exact ⟨_, rfl, rfl⟩
  | integer i => exact ⟨_, rfl, rfl⟩
  | boolean b => exact ⟨_, rfl, rfl⟩

namespace Bag

variable {bag : Bag} {rid : String}

/-- The row that a bag shows is one of texts. -/
theorem Shows.mapValues_textForm {row : Row} (h : bag.Shows rid row) : row.mapValues Value.textForm = row := by
  refine Std.ExtTreeMap.ext_getElem? fun column => ?_
  rw [Row.getElem?_mapValues]
  cases hrow : row[column]? with
  | none => rfl
  | some w =>
    obtain ⟨v, rfl, -⟩ := (h column w).mp hrow
    rfl

/-- Saving the text that a change leaves in a column makes the change to the row, in the form of a store of texts. -/
theorem Shows.save {row : Row} (h : bag.Shows rid row) (column : String) {change : Change} {text : Option String}
    (htext : change.textForm.value? = text.map .text) :
    (bag.save rid (column, text)).Shows rid (change.textForm.applyTo column row) := by
  intro name w
  rw [Change.getElem?_applyTo]
  by_cases hname : column = name
  · subst hname
    rw [if_pos rfl, htext, Option.map_eq_some_iff]
    refine exists_congr fun v => ?_
    have hplace : (Triple.mk rid column v).place = (rid, column) := rfl
    rw [mem_save, if_pos hplace]
    constructor
    · rintro ⟨rfl, rfl⟩
      exact ⟨rfl, rfl⟩
    · rintro ⟨rfl, rfl⟩
      exact ⟨rfl, rfl⟩
  · rw [if_neg hname, h name w]
    refine exists_congr fun v => and_congr_right fun _ => ?_
    have hplace : (Triple.mk rid name v).place ≠ (rid, column) := fun heq => hname (Prod.mk.inj heq).2.symm
    rw [mem_save, if_neg hplace]

/-- What a client makes of some columns, one after the other. -/
def saveAll (bag : Bag) (rid : String) (texts : List (String × Option String)) : Bag :=
  texts.foldl (fun bag change => bag.save rid change) bag

/-- Columns are saved one after the other. -/
theorem saveAll_append (bag : Bag) (rid : String) (texts more : List (String × Option String)) :
    bag.saveAll rid (texts ++ more) = (bag.saveAll rid texts).saveAll rid more :=
  List.foldl_append

/-- Saving columns leaves one triple at each place. -/
theorem Keyed.saveAll (h : bag.Keyed) (rid : String) (texts : List (String × Option String)) : (bag.saveAll rid texts).Keyed := by
  induction texts generalizing bag with
  | nil => exact h
  | cons change texts ih => exact ih (h.save rid change)

/-- Saving columns of a row leaves the other rows as they are shown. -/
theorem Shows.saveAll_of_ne {row : Row} {rid' : String} (h : bag.Shows rid' row) (hne : rid' ≠ rid)
    (texts : List (String × Option String)) : (bag.saveAll rid texts).Shows rid' row := by
  induction texts generalizing bag with
  | nil => exact h
  | cons change texts ih => exact ih (h.save_of_ne hne change)

/-- The texts are those that the changes leave in their columns. -/
def TextsOf (changes : List (String × Change)) (texts : List (String × Option String)) : Prop :=
  List.Forall₂ (fun change text => change.1 = text.1 ∧ change.2.textForm.value? = text.2.map .text) changes texts

/-- Saving the texts of changes shows the row with these changes made to it, in the form of texts. -/
theorem Shows.saveAll {changes : List (String × Change)} {texts : List (String × Option String)} (htexts : TextsOf changes texts)
    {row : Row} (h : bag.Shows rid row) :
    (bag.saveAll rid texts).Shows rid (Changes.applyList (changes.map fun (column, change) => (column, change.textForm)) row) := by
  induction htexts generalizing bag row with
  | nil => exact h
  | @cons change text changes texts hhead _ ih =>
    obtain ⟨column, change⟩ := change
    obtain ⟨column', text⟩ := text
    obtain ⟨rfl, htext⟩ := hhead
    exact ih (h.save column htext)

end Bag

/-- Changes in the form of a store of texts make a row of texts what the changes make it, in this form. -/
theorem Changes.applyList_textForm (changes : List (String × Change)) (row : Row) :
    applyList (changes.map fun (column, change) => (column, change.textForm)) (row.mapValues Value.textForm) =
      (applyList changes row).mapValues Value.textForm := by
  induction changes generalizing row with
  | nil => rfl
  | cons head changes ih =>
    obtain ⟨column, change⟩ := head
    have hstep : change.textForm.applyTo column (row.mapValues Value.textForm) =
        (change.applyTo column row).mapValues Value.textForm := by
      refine Std.ExtTreeMap.ext_getElem? fun name => ?_
      rw [Change.getElem?_applyTo, Row.getElem?_mapValues, Row.getElem?_mapValues, Change.getElem?_applyTo]
      by_cases hname : column = name
      · rw [if_pos hname, if_pos hname]
        cases change <;> rfl
      · rw [if_neg hname, if_neg hname]
    have hlater := ih (change.applyTo column row)
    rw [← hstep] at hlater
    exact hlater

end SparseRows
