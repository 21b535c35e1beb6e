import SparseRows.Content.Basic

/-!
# Stored content

Content is stored in two tables of a name space: one leads from a path to an id, by the structure row of the path, and the other
holds the content row of the id.
-/

namespace SparseRows.Content

/-- The table of structure rows, by path. -/
def structureTable : String := "structure"

/-- The table of content rows, by id. -/
def contentTable : String := "content"

/-- The content stored at a path, if the structure row there leads to any. -/
def load {σ : Type} (rows : RowAccess σ) (space path : String) : Action σ ContentError (Option Content) := do
  let get (table key : String) : Action σ ContentError Row :=
    ExceptT.adapt .storage (rows.get ⟨space, table, key⟩)
  let structureRow ← get structureTable path
  match structureRow[Field.contentId]?.bind Value.asText? with
  | none => return none
  | some contentId => return some (ofStored path (← get contentTable contentId) structureRow false .discard)

end SparseRows.Content
