import SparseRows.Client.Memory
import SparseRows.Proofs.Access

/-!
# What operations do to a store in memory

To its clients a store holds a row under every key, and most of them are empty. Asking for a row changes none, an insertion
changes one, and a removal empties one. None of the three fails.
-/

namespace SparseRows

open Std

namespace MemoryStore

/-- The row of a key, empty if there is none. -/
def row (store : MemoryStore) (key : RowKey) : Row :=
  (store[key]?).getD ∅

theorem row_empty (key : RowKey) : row ∅ key = ∅ := by
  simp [row]

/-- A row that is not empty is there. -/
theorem getElem?_of_row_eq {store : MemoryStore} {key : RowKey} {r : Row} (h : store.row key = r) (hr : r ≠ ∅) :
    store[key]? = some r := by
  unfold row at h
  cases hrow : store[key]? with
  | none => exact absurd (by rw [← h, hrow]; rfl) hr
  | some found => rw [← h, hrow, Option.getD_some]

/-- A row that is stored is there, and the others are as they were. -/
theorem row_insert (store : MemoryStore) (key name : RowKey) (r : Row) :
    row (store.insert key r) name = if key = name then r else store.row name := by
  unfold row
  rw [ExtTreeMap.getElem?_insert]
  by_cases h : key = name <;> simp [h]

/-- A row that is erased is empty, and the others are as they were. -/
theorem row_erase (store : MemoryStore) (key name : RowKey) :
    row (store.erase key) name = if key = name then ∅ else store.row name := by
  unfold row
  rw [ExtTreeMap.getElem?_erase]
  by_cases h : key = name <;> simp [h]

/-- A row that is made because it was asked for is empty, as it was before. -/
theorem row_insertIfNew (store : MemoryStore) (key name : RowKey) : row (store.insertIfNew key ∅) name = store.row name := by
  unfold row
  rw [ExtTreeMap.getElem?_insertIfNew]
  split
  · rename_i h
    have hkey : key = name := by simpa using h.1
    subst hkey
    rw [ExtTreeMap.getElem?_eq_none h.2]
    rfl
  · rfl

/-- A row that is there need not be made. -/
theorem insertIfNew_of_mem {store : MemoryStore} {key : RowKey} (h : key ∈ store) (r : Row) :
    store.insertIfNew key r = store := by
  refine ExtTreeMap.ext_getElem? fun name => ?_
  rw [ExtTreeMap.getElem?_insertIfNew, if_neg fun hnew => hnew.2 h]

/-- A row that is not there is made. -/
theorem insertIfNew_of_notMem {store : MemoryStore} {key : RowKey} (h : key ∉ store) (r : Row) :
    store.insertIfNew key r = store.insert key r := by
  refine ExtTreeMap.ext_getElem? fun name => ?_
  rw [ExtTreeMap.getElem?_insertIfNew, ExtTreeMap.getElem?_insert]
  simp only [h, not_false_eq_true, and_true]

/-- It makes no difference to an insertion whether the row was made before. -/
theorem insert_insertIfNew (store : MemoryStore) (key : RowKey) (r r' : Row) :
    (store.insertIfNew key r).insert key r' = store.insert key r' := by
  refine ExtTreeMap.ext_getElem? fun name => ?_
  rw [ExtTreeMap.getElem?_insert, ExtTreeMap.getElem?_insert, ExtTreeMap.getElem?_insertIfNew]
  by_cases hkey : key = name <;> simp [hkey]

/-- Nor does it make a difference to a removal. -/
theorem erase_insertIfNew (store : MemoryStore) (key : RowKey) (r : Row) :
    (store.insertIfNew key r).erase key = store.erase key := by
  refine ExtTreeMap.ext_getElem? fun name => ?_
  rw [ExtTreeMap.getElem?_erase, ExtTreeMap.getElem?_erase, ExtTreeMap.getElem?_insertIfNew]
  by_cases hkey : key = name <;> simp [hkey]

end MemoryStore

namespace MemoryClient

variable (client : MemoryClient) (store : MemoryStore) (key : RowKey)

/-- Asking for a row gives it and makes an empty one where there was none. -/
theorem rowAt_gives : (client.rowAt key).Gives store (store.row key) (store.insertIfNew key ∅) := by
  unfold rowAt
  refine Step.Gives.bind .currentState ?_
  cases h : store[key]? with
  | some row =>
    have hmem : key ∈ store := ExtTreeMap.mem_iff_isSome_getElem?.mpr (by simp [h])
    rw [MemoryStore.insertIfNew_of_mem hmem, MemoryStore.row, h]
    exact .pure
  | none =>
    have hmem : key ∉ store := fun hin => by simp [ExtTreeMap.mem_iff_isSome_getElem?, h] at hin
    rw [MemoryStore.insertIfNew_of_notMem hmem, MemoryStore.row, h]
    exact .bind .setState (.bind .log .pure)

/-- Asking for a row gives it, and makes it if there is none. -/
theorem get_gives : (client.get key).Gives store (store.row key) (store.insertIfNew key ∅) :=
  .bind (client.rowAt_gives store key) (.bind .log .pure)

/-- Inserting changes makes them to the row. -/
theorem insert_gives (changes : Changes) :
    (client.insert key changes).Gives store () (store.insert key (changes.applyTo (store.row key))) := by
  have h := MemoryStore.insert_insertIfNew store key ∅ (changes.applyTo (store.row key))
  rw [← h]
  exact .bind (client.rowAt_gives store key) (.bind .currentState (.bind .setState .log))

/-- Removing a row leaves none under its key. -/
theorem remove_gives : (client.remove key).Gives store () (store.erase key) := by
  unfold remove
  refine Step.Gives.bind .currentState ?_
  by_cases h : key ∈ store
  · simp only [h, if_true]
    exact .bind .setState .log
  · simp only [h, if_false]
    have herase : store.erase key = store := by
      refine ExtTreeMap.ext_getElem? fun name => ?_
      rw [ExtTreeMap.getElem?_erase]
      by_cases hkey : key = name
      · subst hkey
        simp [h]
      · simp [hkey]
    rw [herase]
    exact .pure

theorem access_get_gives : (client.access.get key).Gives store (.ok (store.row key)) (store.insertIfNew key ∅) :=
  .lift (client.get_gives store key)

/-- Asking for a row changes none. -/
theorem access_get_keeps : (client.access.get key).Keeps fun store' => ∀ name, store'.row name = store.row name := by
  refine ⟨fun store' h => ⟨_, _, client.access_get_gives store' key, fun name => ?_⟩⟩
  rw [MemoryStore.row_insertIfNew, h name]

theorem access_insert_gives (changes : Changes) :
    (client.access.insert key changes).Gives store (.ok ()) (store.insert key (changes.applyTo (store.row key))) :=
  .lift (client.insert_gives store key changes)

theorem access_remove_gives : (client.access.remove key).Gives store (.ok ()) (store.erase key) :=
  .lift (client.remove_gives store key)

/-- A client in memory takes every value as it is, under every key. -/
theorem access_lawful : client.access.Lawful (fun store rows => store.row = rows) (fun _ => True) (fun _ => True) id where
  get hview _ := by
    subst hview
    exact ⟨_, client.access_get_gives .., funext fun name => MemoryStore.row_insertIfNew ..⟩
  insert hview _ _ := by
    subst hview
    refine ⟨_, client.access_insert_gives .., funext fun name => ?_⟩
    rw [MemoryStore.row_insert, RowOp.effect, Row.mapValues_id, Function.update_apply]
    simp only [eq_comm]
  remove hview _ := by
    subst hview
    refine ⟨_, client.access_remove_gives .., funext fun name => ?_⟩
    rw [MemoryStore.row_erase, RowOp.effect, Function.update_apply]
    simp only [eq_comm]

end MemoryClient

end SparseRows
