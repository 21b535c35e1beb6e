import SparseRows.Action
import SparseRows.Body.Metadata
import SparseRows.Body.Source
import SparseRows.Files.Tree

/-!
# Bodies in files

Each body is a file of its own below one directory, at a place made of the name space, the table, the month and a unique
name. The content row records the place as text, which suits stores that keep no bytes; storing a body again makes another
file.
-/

namespace SparseRows.Body

/-- The layout of bodies in files. -/
structure FileBodies where
  /-- The directory that the files are below. -/
  root : String
  logger : Logger

/-- When a body is stored and under which name. -/
structure Stamp where
  /-- Milliseconds of the epoch. -/
  now : Int64
  year : Nat
  month : Nat
  /-- A name that no other body has. -/
  name : String
  deriving Repr

namespace FileBodies

/-- A number in decimal with leading zeros up to a width. -/
def padded (width n : Nat) : String :=
  String.ofList ((Nat.toDigits 10 n).leftpad width '0')

/-- The directory of a body, from the root down. -/
def directoryOf (content : RowKey) (stamp : Stamp) : String :=
  "/".intercalate [Files.nameOf content.space, Files.nameOf content.table, padded 4 stamp.year, padded 2 stamp.month]

/-- The place of a body, from the root down. -/
def locationOf (content : RowKey) (stamp : Stamp) : String :=
  directoryOf content stamp ++ "/" ++ stamp.name

variable (layout : FileBodies)

/-- Makes the directories for a body. -/
def makeDirectory (path : String) : Action FileTree StorageError Unit := do
  let (tree, failure) := (← currentState).makeDirectories path
  setState tree
  if let some e := failure then
    throw (.ofIo (.notCreated path) e)

/-- Stores a body and gives the columns that its content row is to record. Of a body that cannot be read to its end the file
keeps what was read. -/
def write (content : RowKey) (blockId : String) (source : Source) (stamp : Stamp) : Action FileTree StorageError Row := do
  let location := locationOf content stamp
  let path := Files.below layout.root location
  makeDirectory (Files.below layout.root (directoryOf content stamp))
  let (bytes, failure) := source.contents
  match (← currentState).writeFile path bytes with
  | .error e => throw (.ofIo (.notCreated path) e)
  | .ok tree => setState tree
  if let some text := failure then
    throw (.ofIo (.notWritten path) (.stream text))
  log layout.logger .trace .bodyWritten
    [("block_id", blockId), ("content_id", content.key), ("length", bytes.length.repr), ("location", location)]
  return Row.ofList
    [(blockIdColumn, .text blockId), (lengthColumn, .integer (Int64.ofNat bytes.length)), (locationColumn, .text location),
     (modifiedColumn, .integer stamp.now)]

/-- Opens the body that a content row records; what comes out is what reading it gives. A place that may lie outside the root is
refused before anything is opened. -/
def read (blockId : String) (record : Row) : Action FileTree StorageError (Except IoError Bytes) := do
  match record[locationColumn]?.bind Value.asText? with
  | none => throw (.ofIo (.noBody blockId) (.noColumn locationColumn))
  | some location =>
    if !Files.descends location then
      throw (.of (.outsideStore location))
    let path := Files.below layout.root location
    match (← currentState).lookUp path with
    | .error e => throw (.ofIo (.notOpened path) e)
    | .ok node =>
      log layout.logger .trace .bodyRead [("block_id", blockId), ("location", location)]
      return node.read

end FileBodies

end SparseRows.Body
