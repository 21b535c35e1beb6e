import SparseRows.Error
import SparseRows.Json.Parser
import SparseRows.Json.Printer
import SparseRows.Log.Logger
import SparseRows.RowHash

/-!
# Configuration

The settings that a store is made with. They are read from a JSON object whose members may be missing, in which case a default
holds, or from an array of the members' values in their order, of which the last ones may be missing. Members of other names are
passed over, a member given twice is refused, and so is a layout without room for a byte.
-/

namespace SparseRows

/-- The settings of a store. -/
structure Config where
  /-- Bytes in a body block. -/
  blockSize : UInt64 := 1048576
  /-- Body blocks in a row. -/
  blocksPerSet : UInt64 := 64
  /-- The directory below which bodies are kept as files. -/
  bodyDirectory : String := "store"
  /-- The algorithm of row hashes, in place of the one that the dialect names. -/
  rowHash : Option HashAlgorithm := none
  /-- The least grave severity that is logged. -/
  logLevel : Severity := .info
  deriving DecidableEq, Repr

namespace Config

/-- Refuses a layout in which no byte fits. -/
def validate (c : Config) : Except StorageError Unit :=
  if c.blockSize = 0 then .error (.of .zeroBlockSize)
  else if c.blocksPerSet = 0 then .error (.of .zeroBlocksPerSet)
  else .ok ()

/-- The algorithm that a text names in any spelling. -/
def readAlgorithm (name : String) : Except StorageError HashAlgorithm :=
  match HashAlgorithm.read name with
  | some algorithm => .ok algorithm
  | none => .error (.of (.unknownHash name))

/-- The handle that a store with these settings logs through. -/
def logger (c : Config) (component : String) : Logger :=
  (Logger.standard component).withThreshold c.logLevel

/-- The JSON of the settings. -/
def toJson (c : Config) : Json :=
  .object
    [(Json.piecesOf "block_size", .ofInt c.blockSize.toNat),
     (Json.piecesOf "max_chunks_per_block_set", .ofInt c.blocksPerSet.toNat),
     (Json.piecesOf "body_store_dir", .ofText c.bodyDirectory),
     (Json.piecesOf "rowid_hash", (c.rowHash.map fun a => Json.ofText a.name).getD .null),
     (Json.piecesOf "log_level", .ofText c.logLevel.text)]

/-- The size that a number stands for. -/
def readSize (v : Json) : Option UInt64 :=
  v.integer?.bind fun i => if 0 ≤ i ∧ i < UInt64.size then some (UInt64.ofNat i.toNat) else none

/-- The choice that a name stands for, written as a string or as the only member of an object, with the value null. -/
def readChoice {α : Type} (ofName : String → Option α) : Json → Option α
  | .string name => (Json.textOf name).bind ofName
  | .object [(name, .null)] => (Json.textOf name).bind ofName
  | _ => none

/-- The algorithm that a value names, or none where it is null. -/
def readHash : Json → Option (Option HashAlgorithm)
  | .null => some none
  | v => (readChoice HashAlgorithm.ofName v).map some

/-- A setting from the values given for it: at most one, and without one the default. -/
def setting {α : Type} (read : Json → Option α) (default : α) : List Json → Option α
  | [] => some default
  | [v] => read v
  | _ => none

/-- The settings from the values given for each in turn. -/
def ofSettings (blockSize blocksPerSet bodyDirectory rowHash logLevel : List Json) : Option Config := do
  let default : Config := {}
  return {
    blockSize := ← setting readSize default.blockSize blockSize
    blocksPerSet := ← setting readSize default.blocksPerSet blocksPerSet
    bodyDirectory := ← setting Json.text? default.bodyDirectory bodyDirectory
    rowHash := ← setting readHash default.rowHash rowHash
    logLevel := ← setting (readChoice Severity.ofText) default.logLevel logLevel }

/-- The settings that JSON stands for. -/
def ofJson : Json → Option Config
  | .object members => do
    let named ← members.mapM fun (name, v) => (Json.textOf name).map (·, v)
    let values (name : String) := (named.filter (·.1 == name)).map (·.2)
    ofSettings (values "block_size") (values "max_chunks_per_block_set") (values "body_store_dir") (values "rowid_hash")
      (values "log_level")
  | .array items =>
    let value (place : Nat) := (items[place]?).toList
    if items.length ≤ 5 then ofSettings (value 0) (value 1) (value 2) (value 3) (value 4) else none
  | _ => none

/-- The settings that a JSON text stands for, if they make sense. -/
def read (s : String) : Except StorageError Config :=
  match (Json.parse s).bind ofJson with
  | none => .error (.of .configUnreadable)
  | some c => c.validate.map fun _ => c

end Config

end SparseRows
