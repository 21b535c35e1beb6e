import SparseRows.Text.Blank

/-!
# Database products

What a connection says of the database behind it, and the places where resources for such a database may be found, from the one
that fits it best to the one that fits any.
-/

namespace SparseRows

/-- A database product and its version. -/
structure Product where
  name : String
  major : UInt32
  minor : UInt32
  deriving DecidableEq, Repr

/-- The places of resources for a product: for its minor version, its major version, any version and any product. Blanks in the
name of the product are left out. -/
def Product.candidates (product : Product) : List String :=
  let base := "client"
  let named := base ++ "." ++ String.ofList (product.name.toList.filter (!Text.isBlank ·))
  let major := named ++ "." ++ product.major.toNat.repr
  [major ++ "." ++ product.minor.toNat.repr, major, named, base]

end SparseRows
