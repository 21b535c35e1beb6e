import SparseRows.Action
import SparseRows.Content.Fields

/-!
# Content

A content item is a row as it is stored, the baseline, under an overlay of changes that are not stored yet. A property is
looked up in the overlay first. A change to what the baseline has anyway is not kept, so an item that is changed back has
nothing to store. While an item is read-only nothing changes it but binding it anew.
-/

namespace SparseRows

/-- A content item. -/
structure Content where
  path : String
  /-- The properties as they are stored, or of an item that is new, as it was made. -/
  baseline : Row
  /-- What is to become of some properties. -/
  overlay : Changes := .empty
  /-- The structure row that leads to the item, once it is stored. -/
  structureRow : Option Row := none
  /-- Whether the item has yet to be stored. -/
  isNew : Bool := true
  readOnly : Bool := false
  logger : Logger

namespace Content

/-- An item that is not stored yet. -/
def make (path : String) (properties : Row) (logger : Logger) : Content :=
  { path, baseline := properties, logger }

/-- Binds the item to the structure row that leads to it. Changes that are not stored yet remain. -/
def internalize (content : Content) (structureRow : Row) (readOnly : Bool) : Content :=
  { content with structureRow := some structureRow, isNew := false, readOnly }

/-- An item that is stored. -/
def ofStored (path : String) (stored structureRow : Row) (readOnly : Bool) (logger : Logger) : Content :=
  (make path stored logger).internalize structureRow readOnly

/-- Whether there is something to store. -/
def isUpdated (content : Content) : Bool :=
  !content.readOnly && (content.isNew || !content.overlay.isEmpty)

/-- The value of a property. -/
def property? (content : Content) (name : String) : Option Value :=
  match content.overlay.get? name with
  | some change => change.value?
  | none => content.baseline[name]?

/-- Whether there is a property of this name. -/
def hasProperty (content : Content) (name : String) : Bool :=
  (content.property? name).isSome

/-- The overlay with a change, which is left out if it makes no difference to the baseline. -/
def stage (content : Content) (name : String) (change : Change) : Content :=
  if content.baseline[name]? = change.value? then { content with overlay := content.overlay.forget name }
  else { content with overlay := content.overlay.insert name change }

/-- The item after a change to it, if it can be changed. -/
def edit (content : Content) (change : Content → Content) : Content :=
  if content.readOnly then content else change content

/-- Gives a property a value. -/
def set (content : Content) (name : String) (v : Value) : Content :=
  content.edit (·.stage name (.put v))

/-- Removes a property. -/
def unset (content : Content) (name : String) : Content :=
  content.edit (·.stage name .remove)

/-- The properties that there are. -/
def properties (content : Content) : Row :=
  content.overlay.applyTo content.baseline

/-- The properties that there are are those that can be looked up. -/
@[simp] theorem getElem?_properties (content : Content) (name : String) :
    content.properties[name]? = content.property? name := by
  rw [properties, Changes.getElem?_applyTo, property?]
  cases content.overlay.get? name <;> rfl

/-- The properties to hand over where the item is to be saved: all that there are. -/
def propertiesForUpdate (content : Content) : Row :=
  content.properties

/-- The changes that make the stored row the properties. An item that is new stores all of them. -/
def changes (content : Content) : Changes :=
  if content.isNew then
    content.overlay.toList.foldl (fun acc (name, change) => acc.insert name change) (.ofRow content.properties)
  else content.overlay

/-- Notes who changed the item and when, and of an item that is new, who made it. -/
def touch (content : Content) (actor : String) (now : Int64) : Content :=
  let made :=
    if content.isNew then (content.set Field.created (.integer now)).set Field.createdBy (.text actor) else content
  (made.set Field.modified (.integer now)).set Field.modifiedBy (.text actor)

/-- The path that the item links to. -/
def linkTarget? (content : Content) : Option String :=
  (content.structureRow.bind (·[Field.link]?)).bind Value.asText?

/-- Replaces the baseline by a row as it is stored now and drops all changes. -/
def reset {σ : Type} (content : Content) (baseline : Row) : Step σ Content := do
  if content.readOnly then return content
  log content.logger .trace .contentReset [("path", content.path)]
  return { content with baseline, overlay := .empty, isNew := false }

end Content

end SparseRows
