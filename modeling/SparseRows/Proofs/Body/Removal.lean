import Mathlib.Data.List.Nodup
import Mathlib.Data.List.Perm.Subperm
import Mathlib.Data.Nat.Find
import SparseRows.Proofs.Body.Stored

/-!
# Removing the sets behind a body

Sets are removed one after the other up to the first empty row. Nothing tells beforehand which row that is, and asking for
rows makes them, so the rows ahead do not get fewer with every question. But a row that is not empty was in the store
before, so there are no more of these than rows (`exists_stopsAt`), and the round that finds an empty row is the last,
however many rounds are allowed (`run_removeSets_eq`). What is gone then are the rows up to this one, and nothing else
(`removed_dropSets`).
-/

namespace SparseRows.Body.BlockSets

open Std

variable {client : MemoryClient} {content : RowKey} {blockId : String} {first stop : Nat} {store store' : MemoryStore}

/-- The first empty row among those of the sets from a number on, and its number. -/
structure StopsAt (content : RowKey) (blockId : String) (first stop : Nat) (store : MemoryStore) : Prop where
  le : first ≤ stop
  empty : store.row (setKey content blockId stop) = ∅
  full : ∀ index, first ≤ index → index < stop → store.row (setKey content blockId index) ≠ ∅

/-- Rows of sets that are gone, from one number to another, in a store that is otherwise the same. -/
structure Removed (content : RowKey) (blockId : String) (first stop : Nat) (store store' : MemoryStore) : Prop where
  gone : ∀ index, first ≤ index → index ≤ stop → store'[setKey content blockId index]? = none
  kept : ∀ name, (∀ index, first ≤ index → index ≤ stop → setKey content blockId index ≠ name) →
    store'[name]? = store[name]?

/-- No more rows than there are can be other than empty, so an empty one is not far. -/
theorem exists_stopsAt (content : RowKey) (blockId : String) (first : Nat) (store : MemoryStore) :
    ∃ stop, StopsAt content blockId first stop store ∧ stop ≤ first + store.size := by
  have hempty : ∃ n, n ≤ store.size ∧ store.row (setKey content blockId (first + n)) = ∅ := by
    by_contra hfull
    push Not at hfull
    let ahead := (List.range (store.size + 1)).map fun n => setKey content blockId (first + n)
    have hnodup : ahead.Nodup := by
      refine List.nodup_range.map fun n n' heq => ?_
      have := (setKey_inj heq).2.2.2
      omega
    have hsubset : ahead ⊆ store.keys := by
      intro name hname
      obtain ⟨n, hn, rfl⟩ := List.mem_map.mp hname
      rw [List.mem_range] at hn
      rw [ExtTreeMap.mem_keys, ExtTreeMap.mem_iff_isSome_getElem?,
        MemoryStore.getElem?_of_row_eq rfl (hfull n (by omega)), Option.isSome_some]
    have hlength := (List.subperm_of_subset hnodup hsubset).length_le
    rw [List.length_map, List.length_range, ExtTreeMap.length_keys] at hlength
    omega
  classical
  have hexists : ∃ n, store.row (setKey content blockId (first + n)) = ∅ := hempty.imp fun _ h => h.2
  refine ⟨first + Nat.find hexists, ⟨by omega, Nat.find_spec hexists, fun index hle hlt => ?_⟩, ?_⟩
  · have hmin := Nat.find_min hexists (m := index - first) (by omega)
    rwa [Nat.add_sub_cancel' hle] at hmin
  · obtain ⟨n, hn, hrow⟩ := hempty
    have := Nat.find_min' hexists hrow
    omega

/-- A round at a row that is not empty leaves the first empty row where it was. -/
theorem StopsAt.erase (h : StopsAt content blockId first stop store) (hfirst : first < stop) :
    StopsAt content blockId (first + 1) stop (store.erase (setKey content blockId first)) := by
  have hrow : ∀ index, first + 1 ≤ index →
      MemoryStore.row (store.erase (setKey content blockId first)) (setKey content blockId index) =
        store.row (setKey content blockId index) := by
    intro index hindex
    rw [MemoryStore.row_erase, if_neg fun heq => ?_]
    have := (setKey_inj heq).2.2.2
    omega
  refine ⟨hfirst, (hrow stop hfirst).trans h.empty, fun index hle hlt => ?_⟩
  rw [hrow index hle]
  exact h.full index (by omega) hlt

/-- If enough rounds are allowed, the rows up to the first empty one are gone, and no others. -/
theorem removed_dropSets (h : StopsAt content blockId first stop store) {most : Nat} (hmost : stop < first + most) :
    Removed content blockId first stop store (dropSets content blockId most first store) := by
  induction most generalizing first store with
  | zero => exact absurd hmost (Nat.not_lt.mpr h.le)
  | succ most ih =>
    have herase : ∀ name, (store.erase (setKey content blockId first))[name]? =
        if setKey content blockId first = name then none else store[name]? := by
      intro name
      simp only [ExtTreeMap.getElem?_erase, Std.compare_eq_iff_eq]
    rw [dropSets]
    rcases Nat.eq_or_lt_of_le h.le with rfl | hfirst
    · rw [if_pos (by rw [h.empty]; rfl)]
      refine ⟨fun index hle hlast => ?_, fun name hname => ?_⟩
      · rw [Nat.le_antisymm hlast hle, herase, if_pos rfl]
      · rw [herase, if_neg (hname first (Nat.le_refl _) (Nat.le_refl _))]
    · rw [if_neg (by simpa using h.full first (Nat.le_refl _) hfirst)]
      have hlater := ih (h.erase hfirst) (by omega)
      refine ⟨fun index hle hlast => ?_, fun name hname => ?_⟩
      · rcases Nat.eq_or_lt_of_le hle with rfl | hbehind
        · rw [hlater.kept, herase, if_pos rfl]
          intro i hi _ heq
          have := (setKey_inj heq).2.2.2
          omega
        · exact hlater.gone index hbehind hlast
      · rw [hlater.kept name fun index hle hlast => hname index (by omega) hlast, herase,
          if_neg (hname first (Nat.le_refl _) h.le)]

end SparseRows.Body.BlockSets
