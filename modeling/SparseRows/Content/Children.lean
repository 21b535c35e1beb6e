import SparseRows.Content.Basic

/-!
# Children

The children of a content item are named by the columns of its structure row. A traversal finds them one at a time and no
earlier than asked: a child that is missing or that may not be seen is passed over, and a failure of the store ends the
traversal.
-/

namespace SparseRows

/-- The path of a child. -/
def childPath (parent name : String) : String :=
  let name := String.ofList (name.toList.dropWhile (· == '/'))
  if parent.toList.getLast? == some '/' then parent ++ name else parent ++ "/" ++ name

/-- The names of the children, in order. -/
def Content.childNames (content : Content) : List String :=
  match content.structureRow with
  | some row => row.keys.filter fun name => name.toList.head? != some Field.metadataMark
  | none => []

/-- What finds the content at a path, if there is any. -/
abbrev Resolver (σ : Type) := String → Action σ ContentError (Option Content)

/-- A traversal of the children of an item. -/
structure Children where
  parent : String
  logger : Logger
  /-- The names of the children not yet looked for. -/
  names : List String
  /-- The failure that ended the traversal. -/
  error : Option ContentError := none

namespace Children

/-- The traversal of an item that has not begun. -/
def start (content : Content) : Children :=
  { parent := content.path, logger := content.logger, names := content.childNames }

variable {σ : Type} (resolve : Resolver σ)

/-- The first child of some names that is found, and the traversal behind it. -/
def seek (children : Children) : List String → Step σ (Option Content × Children)
  | [] => return (none, { children with names := [] })
  | name :: rest => do
    let path := childPath children.parent name
    match ← (resolve path).attempt with
    | .ok (some content) => return (some content, { children with names := rest })
    | .ok none =>
      log children.logger .trace .childSkipped [("path", path), ("reason", "missing")]
      seek children rest
    | .error (.accessDenied _) =>
      log children.logger .trace .childSkipped [("path", path), ("reason", "access denied")]
      seek children rest
    | .error e =>
      log children.logger .warn .childTraversalAborted [("path", path), ("reason", e.text)]
      return (none, { children with names := rest, error := some e })

/-- The next child, and the traversal behind it. After a failure there is none. -/
def next (children : Children) : Step σ (Option Content × Children) :=
  if children.error.isSome then return (none, children) else children.seek resolve children.names

/-- The next children, at most so many, and the traversal behind them. -/
def take (children : Children) : Nat → Step σ (List Content × Children)
  | 0 => return ([], children)
  | count + 1 => do
    match ← children.next resolve with
    | (none, rest) => return ([], rest)
    | (some content, rest) =>
      let (contents, rest) ← rest.take count
      return (content :: contents, rest)

/-- All children that are left to find, and the traversal behind them. -/
def all (children : Children) : Step σ (List Content × Children) :=
  children.take resolve (children.names.length + 1)

end Children

end SparseRows
