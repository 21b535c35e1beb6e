import SparseRows.Body.Metadata

/-!
# Names of content properties

The columns of content rows and structure rows that have a meaning of their own. Any other column belongs to the users of the
store. The columns that describe a body are in `SparseRows.Body`.
-/

namespace SparseRows.Field

/-- The character that starts the columns of a structure row that name no child. -/
def metadataMark : Char := ':'

/-- The id of the content. -/
def id : String := "id"

/-- The path of the content. -/
def path : String := "path"

/-- The id of the content that a structure row leads to. -/
def contentId : String := ":cid"

/-- The path that a structure row links to. -/
def link : String := ":link"

/-- The id of the version before. -/
def previousVersion : String := "previousVersion"

/-- The id of the body of the version before. -/
def previousBlockId : String := "previousBlockId"

/-- The id of the version after. -/
def nextVersion : String := "nextVersion"

/-- The id of the history of versions. -/
def versionHistory : String := "versionHistoryId"

/-- The number of the version. -/
def versionNumber : String := "versionNumber"

/-- Who saved the version. -/
def versionSavedBy : String := "versionSavedBy"

/-- Whether the content cannot be changed. -/
def readOnly : String := "readOnly"

/-- Whether the content is deleted. -/
def deleted : String := "deleted"

/-- What a column holds that says yes. -/
def yes : String := "Y"

/-- Who changed the body last. -/
def bodyModifiedBy : String := "bodyLastModifiedBy"

/-- When the body was made. -/
def bodyCreated : String := "bodyCreated"

/-- Who made the body. -/
def bodyCreatedBy : String := "bodyCreatedBy"

/-- The media type of the body. -/
def mimeType : String := "mimeType"

/-- The character encoding of the body. -/
def encoding : String := "encoding"

/-- When the content was made. -/
def created : String := "created"

/-- Who made the content. -/
def createdBy : String := "createdBy"

/-- When the content was changed last. -/
def modified : String := "lastModified"

/-- Who changed the content last. -/
def modifiedBy : String := "lastModifiedBy"

/-- The path that the content was copied from. -/
def copiedFromPath : String := "copiedFrom"

/-- The id of the content that it was copied from. -/
def copiedFromId : String := "copiedFromId"

/-- Whether the children were copied too. -/
def copiedDeep : String := "copiedDeep"

end SparseRows.Field
