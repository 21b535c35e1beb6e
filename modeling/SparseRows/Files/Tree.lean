import Std.Data.ExtTreeMap
import SparseRows.Error
import SparseRows.Files.Path
import SparseRows.Sql.Medium
import SparseRows.Value

/-!
# File trees

The directories and files below one top, without links, permissions or limits on space. A path
is followed name by name, and the first thing in the way is the failure: the path as a whole is looked at first, then each name
once the directory it is looked up in is known to be one.
-/

namespace SparseRows

open Std

/-- What is at a place. -/
inductive FileNode where
  | directory
  | file (content : ByteArray)
  /-- The log of a database, which connections use. -/
  | log (log : Sql.Log)
  deriving DecidableEq

/-- What a file holds. -/
def FileNode.content? : FileNode → Option ByteArray
  | .directory => none
  | .file content => some content
  | .log inUse => some inUse.content

/-- The bytes of a file. -/
def FileNode.bytes? (node : FileNode) : Option Bytes :=
  node.content?.map (·.data.toList)

/-- A file with these bytes. -/
def FileNode.ofBytes (bytes : Bytes) : FileNode :=
  file ⟨bytes.toArray⟩

/-- A file holds the bytes that it was made with. -/
@[simp] theorem FileNode.bytes?_ofBytes (bytes : Bytes) : (ofBytes bytes).bytes? = some bytes := by
  simp [ofBytes, bytes?, content?]

/-- The bytes that reading gives. A directory can be opened and not read. -/
def FileNode.read (node : FileNode) : Except IoError Bytes :=
  match node.bytes? with
  | some bytes => .ok bytes
  | none => .error .isDirectory

/-- A tree of directories and files. A place is the names on the way to it from the top, which is always a directory. -/
structure FileTree where
  nodes : ExtTreeMap (List String) FileNode := ∅

namespace FileTree

/-- What is at a place, if anything. -/
def node? (tree : FileTree) (place : List String) : Option FileNode :=
  if place = [] then some .directory else tree.nodes[place]?

/-- The tree without what is at a place. -/
def erase (tree : FileTree) (place : List String) : FileTree :=
  ⟨tree.nodes.erase place⟩

/-- The tree with something else at a place. -/
def put (tree : FileTree) (place : List String) (node : FileNode) : FileTree :=
  ⟨tree.nodes.insert place node⟩

/-- The longest path that is followed, in bytes. -/
def pathLimit : Nat := 4095

/-- The longest name, in bytes. -/
def nameLimit : Nat := 255

/-- The segments of a path that may be followed at all. -/
def readPath (path : String) : Except IoError (List String) :=
  if path.toList.contains '\x00' then .error .nulInName
  else if path.isEmpty then .error .notFound
  else if pathLimit < path.utf8ByteSize then .error .nameTooLong
  else .ok ((Files.segments path.toList).map String.ofList)

/-- The place one segment further. -/
def step (tree : FileTree) (place : List String) (segment : String) : Except IoError (List String) :=
  match tree.node? place with
  | none => .error .notFound
  | some (.file _) | some (.log _) => .error .notDirectory
  | some .directory =>
    if segment = "" ∨ segment = "." then .ok place
    else if segment = ".." then .ok place.dropLast
    else if nameLimit < segment.utf8ByteSize then .error .nameTooLong
    else .ok (place ++ [segment])

/-- The place that a path leads to. All but the last name on the way are directories; there need be nothing at the place. -/
def resolve (tree : FileTree) (path : String) : Except IoError (List String) := do
  (← readPath path).foldlM tree.step []

/-- What is found at a path. -/
def lookUp (tree : FileTree) (path : String) : Except IoError FileNode := do
  match tree.node? (← tree.resolve path) with
  | some node => return node
  | none => throw .notFound

/-- The tree with a file at a path, in place of an earlier one. -/
def writeFile (tree : FileTree) (path : String) (bytes : Bytes) : Except IoError FileTree := do
  let place ← tree.resolve path
  if tree.node? place = some .directory then throw .isDirectory
  return tree.put place (.ofBytes bytes)

/-- Whether there is a directory at the end of a way. -/
def isDirectory (tree : FileTree) (way : List String) : Bool :=
  match way.foldlM tree.step [] with
  | .ok place => tree.node? place == some .directory
  | .error _ => false

/-- Makes one directory, at the end of a way along which there are directories. -/
def makeDirectory (tree : FileTree) (way : List String) : Except IoError FileTree := do
  let above ← way.dropLast.foldlM tree.step []
  let place ← match way.getLast? with
    | some segment => tree.step above segment
    | none => pure above
  if (tree.node? place).isSome then throw .alreadyExists
  return tree.put place .directory

/-- Makes a directory at the end of a way, or finds that one is there. -/
def ensureDirectory (tree : FileTree) (way : List String) : Except IoError FileTree :=
  match tree.makeDirectory way with
  | .error .alreadyExists => if tree.isDirectory way then .ok tree else .error .alreadyExists
  | result => result

/-- Makes a directory at the end of the first of some ways, which lead less and less far. Where something on the way to it is
missing, the directory at the end of the next way is made before it. What was made before a failure stays. -/
def makeAlong (tree : FileTree) : List (List String) → FileTree × Option IoError
  | [] => (tree, none)
  | way :: shorter =>
    match tree.ensureDirectory way with
    | .ok made => (made, none)
    | .error .notFound =>
      match makeAlong tree shorter with
      | (made, some e) => (made, some e)
      | (made, none) =>
        match made.ensureDirectory way with
        | .ok all => (all, none)
        | .error e => (made, some e)
    | .error e => (tree, some e)

/-- Makes a directory and those on the way to it, where they are missing. -/
def makeDirectories (tree : FileTree) (path : String) : FileTree × Option IoError :=
  match readPath path with
  | .error e => (tree, some e)
  | .ok segments =>
    let way := segments.filter fun segment => segment != "" && segment != "."
    tree.makeAlong ((List.range way.length).map fun left => way.take (way.length - left))

/-- The files below a place, by the names on the way from there. -/
def filesBelow (tree : FileTree) (place : List String) : List (List String × Bytes) :=
  tree.nodes.toList.filterMap fun (path, node) =>
    if place.isPrefixOf path then node.bytes?.map (path.drop place.length, ·) else none

end FileTree

end SparseRows
