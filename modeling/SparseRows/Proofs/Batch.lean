import Mathlib.Data.List.Induction
import SparseRows.Proofs.Content.Edits

/-!
# Changes made call by call

A change set is built call by call and stands for its calls: what it makes of a row is what the calls make of it when they
are made on the row itself, one after the other (`applyTo_addAll`). Of the calls about one column the set keeps the last
(`get?_addAll`). So it does not matter how much of a set was made before the whole of it is made (`applyTo_applyList`).
-/

namespace SparseRows

/-- A call by which a change set is built: on the set that there is, or in a chain that gives the next one (`put`, `remove`). -/
inductive ChangeCall where
  | set (column : String) (v : Value)
  | put (column : String) (v : Value)
  | delete (column : String)
  | remove (column : String)
  | insert (column : String) (change : Change)
  deriving DecidableEq

namespace ChangeCall

/-- The column that a call is about. -/
def column : ChangeCall → String
  | set column _ | put column _ | delete column | remove column | insert column _ => column

/-- What becomes of the column. -/
def change : ChangeCall → Change
  | set _ v | put _ v => .put v
  | delete _ | remove _ => .remove
  | insert _ change => change

/-- The set after a call. -/
def addTo (changes : Changes) : ChangeCall → Changes
  | set column v | put column v => changes.put column v
  | delete column | remove column => changes.remove column
  | insert column change => changes.insert column change

/-- The row after a call that is made on the row itself: a column is written or erased. -/
def doTo (row : Row) : ChangeCall → Row
  | set column v | put column v | insert column (.put v) => row.insert column v
  | delete column | remove column | insert column .remove => row.erase column

/-- The set after some calls. -/
def addAll (changes : Changes) (calls : List ChangeCall) : Changes :=
  calls.foldl addTo changes

/-- The row after some calls that are made on the row itself. -/
def doAll (row : Row) (calls : List ChangeCall) : Row :=
  calls.foldl doTo row

/-- What the last call about a column makes of it. -/
def lastChange? (calls : List ChangeCall) (name : String) : Option Change :=
  (calls.filter (·.column = name)).getLast?.map change

/-- Each call puts one change in the set, whatever was there for its column. -/
theorem addTo_eq (changes : Changes) (call : ChangeCall) : call.addTo changes = changes.insert call.column call.change := by
  cases call <;> rfl

/-- On a row, a call does what its change does there. -/
theorem doTo_eq (row : Row) (call : ChangeCall) : call.doTo row = call.change.applyTo call.column row := by
  rcases call with _ | _ | _ | _ | ⟨column, _ | _⟩ <;> rfl

/-- The last call decides for its column and leaves the others to the calls before. -/
theorem lastChange?_concat (calls : List ChangeCall) (call : ChangeCall) (name : String) :
    lastChange? (calls ++ [call]) name = if call.column = name then some call.change else lastChange? calls name := by
  unfold lastChange?
  rw [List.filter_append]
  by_cases hname : call.column = name
  · rw [if_pos hname, List.filter_cons_of_pos (by simpa using hname), List.filter_nil, List.getLast?_concat, Option.map_some]
  · rw [if_neg hname, List.filter_cons_of_neg (by simpa using hname), List.filter_nil, List.append_nil]

end ChangeCall

namespace Changes

/-! ## One call -/

/-- A change that is added to a set is made after the others. -/
theorem applyTo_insert (changes : Changes) (column : String) (change : Change) (row : Row) :
    (changes.insert column change).applyTo row = change.applyTo column (changes.applyTo row) := by
  refine Std.ExtTreeMap.ext_getElem? fun name => ?_
  rw [getElem?_applyTo, get?_insert, Change.getElem?_applyTo, getElem?_applyTo]
  split <;> rfl

/-- A set with one more call makes of a row what it made before, with the call made on that. -/
theorem applyTo_addTo (changes : Changes) (call : ChangeCall) (row : Row) :
    (call.addTo changes).applyTo row = call.doTo (changes.applyTo row) := by
  rw [call.addTo_eq, applyTo_insert, call.doTo_eq]

/-! ## Some calls -/

/-- A row after the set that some calls make of another is the row after the other set and then the calls themselves. -/
theorem applyTo_addAll (changes : Changes) (calls : List ChangeCall) (row : Row) :
    (ChangeCall.addAll changes calls).applyTo row = ChangeCall.doAll (changes.applyTo row) calls := by
  unfold ChangeCall.addAll ChangeCall.doAll
  induction calls generalizing changes with
  | nil => rfl
  | cons call calls ih => rw [List.foldl_cons, List.foldl_cons, ih, applyTo_addTo]

/-- The last call about a column counts, and what no call is about stays. -/
theorem get?_addAll (changes : Changes) (calls : List ChangeCall) (name : String) :
    (ChangeCall.addAll changes calls).get? name = (ChangeCall.lastChange? calls name).or (changes.get? name) := by
  induction calls using List.reverseRecOn with
  | nil => rfl
  | append_singleton calls call ih =>
    have hlast : ChangeCall.addAll changes (calls ++ [call]) = call.addTo (ChangeCall.addAll changes calls) := by
      rw [ChangeCall.addAll, List.foldl_append]
      rfl
    rw [hlast, call.addTo_eq, get?_insert, ChangeCall.lastChange?_concat, ih]
    split <;> rfl

theorem applyTo_empty (row : Row) : empty.applyTo row = row := by
  refine Std.ExtTreeMap.ext_getElem? fun name => ?_
  rw [getElem?_applyTo, get?_empty]
  rfl

/-! ## The changes of a set -/

/-- The columns come in ascending order, so that none comes twice. -/
theorem toList_ascending (changes : Changes) : changes.toList.Pairwise fun earlier later => earlier.1 < later.1 := by
  have hordered : changes.toList.Pairwise fun earlier later => compare earlier.1 later.1 = .lt :=
    Std.ExtTreeMap.ordered_keys_toList
  exact hordered.imp compareOfLessAndEq_eq_lt.mp

/-- The changes of a set make the set again. -/
theorem ofList_toList (changes : Changes) : ofList changes.toList = changes := by
  ext name : 1
  rw [ofList, get?_foldl_toList, get?_empty, Option.or_none]

/-- Whatever was made of a set before, in any order and any number of times, the whole set makes the same of the row. -/
theorem applyTo_applyList {changes : Changes} {part : List (String × Change)} (hpart : part ⊆ changes.toList) (row : Row) :
    changes.applyTo (applyList part row) = changes.applyTo row := by
  refine Std.ExtTreeMap.ext_getElem? fun name => ?_
  rw [getElem?_applyTo, getElem?_applyTo]
  cases hname : changes.get? name with
  | some change => rfl
  | none =>
    have hnone : name ∉ part.map (·.1) := by
      intro hmem
      obtain ⟨⟨column, change⟩, hin, rfl⟩ := List.mem_map.mp hmem
      rw [mem_toList_iff.mp (hpart hin)] at hname
      cases hname
    exact getElem?_applyList_of_notMem row hnone

/-! ## Sets and their calls -/

/-- A change set is its calls in one go. It makes of every row what the calls make of it one by one. It has for each column
that a call was about the last change to it, in the order of the columns, and is known by these. Made again, or made after
any part of it was made before, it changes nothing more. -/
theorem batch_of_calls (calls : List ChangeCall) :
    let changes := ChangeCall.addAll empty calls
    (∀ row, changes.applyTo row = ChangeCall.doAll row calls) ∧
    (changes.toList.Pairwise fun earlier later => earlier.1 < later.1) ∧
    (∀ column change, (column, change) ∈ changes.toList ↔ ChangeCall.lastChange? calls column = some change) ∧
    ofList changes.toList = changes ∧
    (∀ row, changes.applyTo (changes.applyTo row) = changes.applyTo row) ∧
    ∀ part, part ⊆ changes.toList → ∀ row, changes.applyTo (applyList part row) = changes.applyTo row := by
  intro changes
  refine ⟨fun row => ?_, changes.toList_ascending, fun column change => ?_, changes.ofList_toList, fun row => ?_,
    fun part hpart row => applyTo_applyList hpart row⟩
  · rw [applyTo_addAll, applyTo_empty]
  · rw [mem_toList_iff, get?_addAll, get?_empty, Option.or_none]
  · exact applyTo_applyList (List.Subset.refl _) row

/-- A column that is written, deleted and written again, beside one that is only deleted, on a row that has both: after the
deletion was made alone, the whole set still makes of the row what the five calls make of it. -/
theorem batch_of_calls_of_retried :
    let calls : List ChangeCall :=
      [.set "title" (.text "a"), .delete "title", .insert "note" (.put (.integer 1)), .put "title" (.text "b"), .remove "note"]
    let row : Row := .ofList [("note", .boolean true), ("title", .text "old"), ("kept", .binary [0])]
    let changes := ChangeCall.addAll empty calls
    [("note", Change.remove)] ⊆ changes.toList ∧
      changes.applyTo (applyList [("note", .remove)] row) = ChangeCall.doAll row calls := by
  intro calls row changes
  obtain ⟨hcalls, -, hmem, -, -, hpart⟩ := batch_of_calls calls
  have hnote : [("note", Change.remove)] ⊆ changes.toList :=
    List.cons_subset.mpr ⟨(hmem "note" .remove).mpr rfl, List.nil_subset _⟩
  exact ⟨hnote, (hpart _ hnote row).trans (hcalls row)⟩

end Changes

end SparseRows
