import SparseRows.Proofs.Relational.Bag

/-!
# What changes to a row make of a bag

`Bag.Changed` says of two bags that the second is the first with some changes made to one row, and leaves nothing open
(`Bag.Changed.unique`). Saving the texts of the changes makes them (`Bag.changed_saveAll`), and making some of them before
makes no difference (`Bag.Changed.trans`).
-/

namespace SparseRows

open Std

namespace Changes

/-- The changes to columns whose names come before a name. -/
def before (changes : Changes) (column : String) : Changes :=
  ⟨changes.columns.filter fun name _ => compare name column = .lt⟩

/-- The changes before a column are those to columns whose names come before its name. -/
theorem get?_before (changes : Changes) (column name : String) :
    (changes.before column).get? name = if compare name column = .lt then changes.get? name else none := by
  rw [before, get?, ExtTreeMap.getElem?_filter', get?]
  cases changes.columns[name]? with
  | none => simp
  | some change => simp [Option.filter]

/-- The changes before one in the list are those to the columns whose names come before. -/
theorem toList_before {changes : Changes} {done rest : List (String × Change)} {column : String} {change : Change}
    (h : changes.toList = done ++ (column, change) :: rest) : (changes.before column).toList = done := by
  have hordered : changes.toList.Pairwise fun a b => compare a.1 b.1 = .lt := ExtTreeMap.ordered_keys_toList
  rw [h, List.pairwise_append, List.pairwise_cons] at hordered
  obtain ⟨-, ⟨hrest, -⟩, hdone⟩ := hordered
  have hlist : (changes.before column).toList = changes.toList.filter fun entry => compare entry.1 column = .lt :=
    ExtTreeMap.toList_filter
  have hearlier : done.filter (fun entry => compare entry.1 column = .lt) = done := by
    refine List.filter_eq_self.mpr fun entry hentry => ?_
    exact decide_eq_true (hdone entry hentry _ List.mem_cons_self)
  have hlater : ((column, change) :: rest).filter (fun entry => compare entry.1 column = .lt) = [] := by
    refine List.filter_eq_nil_iff.mpr fun entry hentry => ?_
    rw [decide_eq_true_eq]
    rcases List.mem_cons.mp hentry with rfl | hentry
    · rw [compare_self]
      exact Ordering.noConfusion
    · rw [OrientedCmp.gt_of_lt (hrest entry hentry)]
      exact Ordering.noConfusion
  rw [hlist, h, List.filter_append, hearlier, hlater, List.append_nil]

end Changes

namespace Bag

variable {bag after : Bag} {rid : String} {changes : Changes}

/-- Saving a column of a row changes no other row. -/
theorem dropRow_save (bag : Bag) (rid : String) (change : String × Option String) :
    (bag.save rid change).dropRow rid = bag.dropRow rid := by
  obtain ⟨cid, text⟩ := change
  have hat : ∀ t : Triple, t.rid ≠ rid → ¬t.isAt rid cid = true := fun t ht hat =>
    ht (Prod.mk.inj (Triple.isAt_iff.mp hat)).1
  cases text with
  | none =>
    rw [save, dropColumn, dropRow, Multiset.filter_filter]
    exact Multiset.filter_congr fun t _ => ⟨fun h => h.1, fun h => ⟨h, hat t h⟩⟩
  | some v =>
    simp only [save]
    by_cases hcount : 0 < bag.countP (·.isAt rid cid)
    · have hkept : ∀ t : Triple, (if t.isAt rid cid then { t with v := v } else t).rid = t.rid := by
        intro t
        split <;> rfl
      rw [if_pos hcount, update, dropRow, Multiset.filter_map]
      simp only [Function.comp_def, hkept]
      rw [Multiset.map_congr rfl fun t ht => if_neg (hat t (Multiset.mem_filter.mp ht).2), Multiset.map_id']
      rfl
    · rw [if_neg hcount, dropRow, Multiset.filter_cons_of_neg _ fun hrid => hrid rfl]
      rfl

/-- Saving columns of a row changes no other row. -/
theorem dropRow_saveAll (bag : Bag) (rid : String) (texts : List (String × Option String)) :
    (bag.saveAll rid texts).dropRow rid = bag.dropRow rid := by
  induction texts generalizing bag with
  | nil => rfl
  | cons change texts ih => exact (ih (bag.save rid change)).trans (dropRow_save bag rid change)

/-- A bag is another one with some changes made to a row: no column of a row stands in it twice, it shows the row as the changes
leave it, in the form of texts, and every other row has the triples that it had. -/
structure Changed (bag after : Bag) (rid : String) (changes : Changes) : Prop where
  keyed : after.Keyed
  row {row : Row} (h : bag.Shows rid row) : after.Shows rid ((changes.applyTo row).mapValues Value.textForm)
  others : after.dropRow rid = bag.dropRow rid

/-- There is one bag at most that changes make of a bag. -/
theorem Changed.unique {after' : Bag} (h : bag.Changed after rid changes) (h' : bag.Changed after' rid changes)
    (hkeyed : bag.Keyed) : after = after' := by
  obtain ⟨row, hrow⟩ := hkeyed.exists_shows rid
  refine (Multiset.Nodup.ext (h.keyed.of_map _) (h'.keyed.of_map _)).mpr fun t => ?_
  by_cases hrid : t.rid = rid
  · obtain ⟨trid, cid, v⟩ := t
    obtain rfl : trid = rid := hrid
    have hin : ∀ {bag : Bag} {row : Row}, bag.Shows trid row → (Triple.mk trid cid v ∈ bag ↔ row[cid]? = some (.text v)) := by
      intro bag row hbag
      rw [hbag cid (.text v)]
      simp
    rw [hin (h.row hrow), hin (h'.row hrow)]
  · have hin : ∀ bag : Bag, t ∈ bag ↔ t ∈ bag.dropRow rid := fun bag => by
      rw [dropRow, Multiset.mem_filter]
      exact (and_iff_left hrid).symm
    rw [hin after, hin after', h.others, h'.others]

/-- No changes leave a bag as it is. -/
theorem Keyed.changed_empty (hkeyed : bag.Keyed) (rid : String) : bag.Changed bag rid .empty where
  keyed := hkeyed
  row := by
    intro row hrow
    have hsame : Changes.empty.applyTo row = row := by
      refine ExtTreeMap.ext_getElem? fun name => ?_
      rw [Changes.getElem?_applyTo, Changes.get?_empty]
      rfl
    rwa [hsame, hrow.mapValues_textForm]
  others := rfl

/-- Saving the texts of changes makes the changes. -/
theorem changed_saveAll (hkeyed : bag.Keyed) (rid : String) {texts : List (String × Option String)}
    (htexts : TextsOf changes.toList texts) : bag.Changed (bag.saveAll rid texts) rid changes where
  keyed := hkeyed.saveAll rid texts
  row := by
    intro row hrow
    have hsaved := hrow.saveAll htexts
    rwa [← hrow.mapValues_textForm, Changes.applyList_textForm] at hsaved
  others := dropRow_saveAll bag rid texts

/-- Saving the texts before one of them makes the changes to the columns whose names come before. -/
theorem changed_saveAll_before (hkeyed : bag.Keyed) (rid : String) {saved rest : List (String × Option String)} {column : String}
    {text : Option String} (htexts : TextsOf changes.toList (saved ++ (column, text) :: rest)) :
    bag.Changed (bag.saveAll rid saved) rid (changes.before column) := by
  obtain ⟨entry, more, hentry, -, hmore⟩ := List.forall₂_cons_right_iff.mp (List.forall₂_drop_append _ _ _ htexts)
  obtain ⟨name, change⟩ := entry
  obtain ⟨rfl, -⟩ := hentry
  have hsplit : changes.toList = changes.toList.take saved.length ++ (name, change) :: more := by
    rw [← hmore, List.take_append_drop]
  refine changed_saveAll hkeyed rid ?_
  rw [Changes.toList_before hsplit]
  exact List.forall₂_take_append _ _ _ htexts

/-- Making changes after some changes to the same columns makes the same of a row as making them at once. -/
theorem Changed.trans {first : Changes} {last : Bag} (h : bag.Changed after rid first) (h' : after.Changed last rid changes)
    (hcovers : ∀ name, changes.get? name = none → first.get? name = none) : bag.Changed last rid changes where
  keyed := h'.keyed
  row := by
    intro row hrow
    have hshown := h'.row (h.row hrow)
    have hsame : (changes.applyTo ((first.applyTo row).mapValues Value.textForm)).mapValues Value.textForm =
        (changes.applyTo row).mapValues Value.textForm := by
      refine ExtTreeMap.ext_getElem? fun name => ?_
      simp only [Row.getElem?_mapValues, Changes.getElem?_applyTo]
      cases hget : changes.get? name with
      | some change => rfl
      | none =>
        rw [hcovers name hget]
        cases row[name]? with
        | none => rfl
        | some w => exact congrArg some (Value.textForm_textForm w)
    rwa [hsame] at hshown
  others := h'.others.trans h.others

end Bag

end SparseRows
