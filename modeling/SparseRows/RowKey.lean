import Std.Data.ExtTreeMap

/-!
# Row keys

A row is addressed by a name space, a table and a key within the table. Row keys are ordered by these three in turn, each as
text; `eq_of_compare_eq` says that the order tells different keys apart.
-/

namespace SparseRows

open Std

/-- The address of a row. -/
structure RowKey where
  space : String
  table : String
  key : String
  deriving DecidableEq, Repr

namespace RowKey

/-- The key as text. Different keys can have the same text, for the parts may hold colons themselves. -/
def toText (k : RowKey) : String :=
  k.space ++ ":" ++ k.table ++ ":" ++ k.key

/-- The same place with another key in the table. -/
def withKey (k : RowKey) (key : String) : RowKey :=
  { k with key }

/-- Row keys are compared part by part. -/
instance : Ord RowKey where
  compare := compareLex (compareOn RowKey.space) (compareLex (compareOn RowKey.table) (compareOn RowKey.key))

instance : TransOrd RowKey :=
  inferInstanceAs
    (TransCmp (compareLex (compareOn RowKey.space) (compareLex (compareOn RowKey.table) (compareOn RowKey.key))))

/-- Keys that are neither before nor after each other are the same. -/
theorem eq_of_compare_eq {a b : RowKey} (h : compare a b = .eq) : a = b := by
  obtain ⟨s, t, k⟩ := a
  obtain ⟨s', t', k'⟩ := b
  have h : compareLex (compareOn RowKey.space) (compareLex (compareOn RowKey.table) (compareOn RowKey.key))
    (⟨s, t, k⟩ : RowKey) ⟨s', t', k'⟩ = .eq := h
  simpa [compareLex, compareOn, Ordering.then_eq_eq] using h

instance : LawfulEqOrd RowKey where
  eq_of_compare := eq_of_compare_eq

end RowKey

end SparseRows
