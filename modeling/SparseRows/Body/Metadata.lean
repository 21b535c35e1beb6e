import SparseRows.Row

/-!
# What a content row records of a body

A body is stored away from the content row that it belongs to. Storing it gives these columns, which the content row is to
record, and reading it back goes by them alone.
-/

namespace SparseRows.Body

/-- The column with the id that the body is stored under. -/
def blockIdColumn : String := "blockId"

/-- The column with the number of block sets of the body. -/
def setCountColumn : String := "nblocks"

/-- The column with the number of bytes in a block. -/
def blockSizeColumn : String := "blocksize"

/-- The column with the number of bytes in the body. -/
def lengthColumn : String := "length"

/-- The column with the time at which the body was stored, in milliseconds of the epoch. -/
def modifiedColumn : String := "bodyLastModified"

/-- The column with the place of the file that holds the body. -/
def locationColumn : String := "bodyLocation"

/-- The count in a column, which is zero unless the column holds or spells a positive integer. -/
def countIn (row : Row) (column : String) : Nat :=
  ((row[column]?.bind Value.asInteger?).getD 0).toInt.toNat

end SparseRows.Body
