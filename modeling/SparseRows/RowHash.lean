import SparseRows.Digest.Sha2
import SparseRows.RowKey
import SparseRows.Text.Base64Url
import SparseRows.Text.Blank

/-!
# Row hashes

A table whose key column has a fixed width addresses a row by its hash: the URL-safe text of a digest of the row key. The name
space and the table go into the digest after their lengths, so a separator inside a part cannot make two keys look alike. The
hash cannot be turned back into the key, so only exact look-up is possible.
-/

namespace SparseRows

/-- The digests that row hashes can be made with. -/
inductive HashAlgorithm where
  | sha224
  | sha256
  | sha384
  | sha512
  deriving DecidableEq, Repr

namespace HashAlgorithm

/-- Every algorithm. -/
def all : List HashAlgorithm := [sha224, sha256, sha384, sha512]

/-- The name of an algorithm. -/
def name : HashAlgorithm → String
  | sha224 => "SHA-224"
  | sha256 => "SHA-256"
  | sha384 => "SHA-384"
  | sha512 => "SHA-512"

/-- The name of an algorithm in a description. -/
def label : HashAlgorithm → String
  | sha224 => "Sha224"
  | sha256 => "Sha256"
  | sha384 => "Sha384"
  | sha512 => "Sha512"

/-- Bytes in a digest. -/
def digestLength : HashAlgorithm → Nat
  | sha224 => 28
  | sha256 => 32
  | sha384 => 48
  | sha512 => 64

/-- Characters in a row hash. -/
def hashLength (a : HashAlgorithm) : Nat :=
  (a.digestLength * 4 + 2) / 3

/-- The digest of some bytes. -/
def digest : HashAlgorithm → List UInt8 → List UInt8
  | sha224 => Digest.sha224
  | sha256 => Digest.sha256
  | sha384 => Digest.sha384
  | sha512 => Digest.sha512

/-- The algorithm that a text names in any spelling: case, blanks around the name, and hyphens and low lines in it, do not
matter. -/
def read (s : String) : Option HashAlgorithm :=
  match String.ofList (((Text.trim s.toList).filter fun c => c != '-' && c != '_').map Char.toUpper) with
  | "SHA224" => some sha224
  | "SHA256" => some sha256
  | "SHA384" => some sha384
  | "SHA512" => some sha512
  | _ => none

/-- The algorithm with exactly this name. -/
def ofName (s : String) : Option HashAlgorithm :=
  all.find? (·.name == s)

/-- An algorithm is found by its name. -/
theorem ofName_name (a : HashAlgorithm) : ofName a.name = some a := by
  cases a <;> rfl

/-- Each algorithm has digests of one length. -/
theorem length_digest (a : HashAlgorithm) (message : List UInt8) : (a.digest message).length = a.digestLength := by
  cases a <;>
    simp [digest, digestLength, Digest.sha224, Digest.sha256, Digest.sha384, Digest.sha512, Digest.family32, Digest.family64]

end HashAlgorithm

namespace RowKey

/-- A text as bytes, after the number of its bytes and a colon. -/
def measured (s : String) : List UInt8 :=
  s.utf8ByteSize.repr.toUTF8.data.toList ++ [0x3a] ++ s.toUTF8.data.toList

/-- What is digested for a row. -/
def hashInput (k : RowKey) : List UInt8 :=
  measured k.space ++ measured k.table ++ [0x3a] ++ k.key.toUTF8.data.toList

/-- The hash of a row. -/
def hash (k : RowKey) (a : HashAlgorithm) : String :=
  String.ofList (Text.base64Url (a.digest k.hashInput))

/-- All hashes of one algorithm have the same length. -/
theorem length_hash (k : RowKey) (a : HashAlgorithm) : (k.hash a).length = a.hashLength := by
  simp [hash, Text.length_base64Url, HashAlgorithm.length_digest, HashAlgorithm.hashLength]

end RowKey

end SparseRows
