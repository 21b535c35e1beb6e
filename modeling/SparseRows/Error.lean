import SparseRows.Log.Severity
import SparseRows.RowKey
import SparseRows.Text.Utf8

/-!
# Errors

What can go wrong, as data: each error says why it arose, which row it concerns and which lower failure caused it. The
wording is in the `message` functions alone, and the code and the severity follow from the reason.
-/

namespace SparseRows

/-- A failure of the file system, of a stream, or of what was found in one. -/
inductive IoError where
  | notFound
  | notDirectory
  | isDirectory
  | alreadyExists
  | nameTooLong
  /-- A file name holds U+0000. -/
  | nulInName
  | badBlockSet
  | truncatedBody
  /-- A column that should say where something is has no such text. -/
  | noColumn (column : String)
  /-- A stream failed with this text. -/
  | stream (text : String)
  deriving DecidableEq, Repr

/-- The text of the failure. -/
def IoError.message : IoError → String
  | notFound => "No such file or directory (os error 2)"
  | notDirectory => "Not a directory (os error 20)"
  | isDirectory => "Is a directory (os error 21)"
  | alreadyExists => "File exists (os error 17)"
  | nameTooLong => "File name too long (os error 36)"
  | nulInName => "file name contained an unexpected NUL byte"
  | badBlockSet => "bad block set"
  | truncatedBody => "truncated body"
  | noColumn column => column
  | stream text => text

/-- A place in a statement: the statement and the number of bytes before the place. -/
structure SqlPlace where
  sql : String
  offset : Nat
  deriving DecidableEq, Repr

/-- The text of a place behind the error that arose there. -/
def SqlPlace.text (place : SqlPlace) : String :=
  " in " ++ place.sql ++ " at offset " ++ place.offset.repr

/-- The kinds of what a query gives. -/
inductive DatumKind where
  | null
  | integer
  | real
  | text
  | blob
  deriving DecidableEq, Repr

/-- The name of a kind. -/
def DatumKind.name : DatumKind → String
  | null => "Null"
  | integer => "Integer"
  | real => "Real"
  | text => "Text"
  | blob => "Blob"

/-- A failure of the SQLite engine or of the library that it comes with. -/
inductive EngineError where
  | noSuchTable (table : String)
  | noSuchColumn (column : String)
  /-- The place is known where the statement is looked at for the first time. -/
  | tableExists (table : String) (place : Option SqlPlace)
  | indexExists (index : String)
  | notUnique (table : String) (columns : List String)
  /-- The statement is wrong from the token at a place on. -/
  | badToken (token : String) (place : SqlPlace)
  /-- No token starts with the character at a place. -/
  | noToken (spelling : String) (place : SqlPlace)
  /-- The statement ends too early. -/
  | incomplete
  /-- There is no statement to run. -/
  | nothingToRun
  | cannotOpen (path : String)
  /-- The path of a database holds U+0000 after so many bytes. -/
  | nulInPath (offset : Nat)
  | notDatabase
  /-- The start of a file is that of a database, and the rest is not. -/
  | malformed
  /-- The tables do not stay as they are for long enough to run a statement. -/
  | changedMeanwhile
  /-- A file that belongs to the database cannot be opened. -/
  | cannotOpenBeside
  /-- The file system refused to read or to remove something. -/
  | ioFailed
  /-- Others use the file. -/
  | locked
  /-- The head of the file forbids to write it. -/
  | readOnly
  /-- What the definition of something says cannot be. -/
  | malformedDefinition (name : String) (reason : Option String)
  /-- The format of rows is a later one. -/
  | laterFormat
  | missingValue (table column : String)
  | wrongParameterCount (given wanted : Nat)
  /-- A statement that was to change rows gave some. -/
  | returnedRows
  /-- A row has something else than text in the column at a place. -/
  | wrongKind (kind : DatumKind) (index : Nat) (column : String)
  /-- A row has bytes that are no text in the column at a place. -/
  | notUtf8 (index : Nat) (fault : Text.Utf8Fault)
  | noColumnAt (index : Nat)
  /-- Anything else that a library may fail with, in its own words. -/
  | other (text : String)
  deriving DecidableEq, Repr

/-- What has gone wrong. -/
def EngineError.reason : EngineError → String
  | noSuchTable table => "no such table: " ++ table
  | noSuchColumn column => "no such column: " ++ column
  | tableExists table _ => "table " ++ table ++ " already exists"
  | indexExists index => "index " ++ index ++ " already exists"
  | notUnique table columns =>
    "UNIQUE constraint failed: " ++ ", ".intercalate (columns.map fun column => table ++ "." ++ column)
  | badToken token _ => "near \"" ++ token ++ "\": syntax error"
  | noToken spelling _ => "unrecognized token: \"" ++ spelling ++ "\""
  | incomplete => "incomplete input"
  | nothingToRun => "not an error"
  | cannotOpen path => "unable to open database file: " ++ path
  | nulInPath offset => "nul byte found in provided data at position: " ++ offset.repr
  | notDatabase => "file is not a database"
  | malformed => "database disk image is malformed"
  | changedMeanwhile => "database schema has changed"
  | cannotOpenBeside => "unable to open database file"
  | ioFailed => "disk I/O error"
  | locked => "database is locked"
  | readOnly => "attempt to write a readonly database"
  | malformedDefinition name reason =>
    "malformed database schema (" ++ name ++ ")" ++ (reason.map (" - " ++ ·)).getD ""
  | laterFormat => "unsupported file format"
  | missingValue table column => "NOT NULL constraint failed: " ++ table ++ "." ++ column
  | wrongParameterCount given wanted =>
    "Wrong number of parameters passed to query. Got " ++ given.repr ++ ", needed " ++ wanted.repr
  | returnedRows => "Execute returned results - did you mean to call query?"
  | wrongKind kind index column =>
    "Invalid column type " ++ kind.name ++ " at index: " ++ index.repr ++ ", name: " ++ column
  | notUtf8 index fault => "Conversion error from type Text at index: " ++ index.repr ++ ", " ++ fault.message
  | noColumnAt index => "Invalid column index: " ++ index.repr
  | other text => text

/-- The place of what is wrong in a statement, if it is known. -/
def EngineError.place? : EngineError → Option SqlPlace
  | tableExists _ place => place
  | badToken _ place | noToken _ place => some place
  | _ => none

/-- The text of the failure. -/
def EngineError.message (e : EngineError) : String :=
  e.reason ++ (e.place?.map SqlPlace.text).getD ""

/-- A failure reported by a connection. -/
inductive DriverError where
  | engine (e : EngineError)
  /-- The handle of a statement that is not prepared. -/
  | unknownStatement (handle : Nat)
  | other (text : String)
  deriving DecidableEq, Repr

/-- The text of the failure. -/
def DriverError.message : DriverError → String
  | engine e => "sqlite: " ++ e.message
  | unknownStatement handle => "unknown statement handle " ++ handle.repr
  | other text => text

/-- The lower failure that caused an error. -/
inductive Cause where
  | io (e : IoError)
  | driver (e : DriverError)
  | other (text : String)
  deriving DecidableEq, Repr

/-- The text of the cause. -/
def Cause.message : Cause → String
  | io e => e.message
  | driver e => e.message
  | other text => text

/-- The kinds of storage errors. -/
inductive ErrorCode where
  /-- A file or stream failed. -/
  | io
  /-- A connection failed. -/
  | driver
  /-- A value cannot be stored this way. -/
  | invalidValue
  /-- The store lacks the capability. -/
  | unsupported
  /-- The store is not open for operations yet, or no more. -/
  | notReady
  /-- The store cannot be set up like this. -/
  | config
  deriving DecidableEq, Repr

namespace ErrorCode

/-- The text of a code. -/
def text : ErrorCode → String
  | io => "SPARSE_STORAGE_IO_ERROR"
  | driver => "SPARSE_STORAGE_DRIVER_ERROR"
  | invalidValue => "SPARSE_STORAGE_INVALID_VALUE"
  | unsupported => "SPARSE_STORAGE_UNSUPPORTED"
  | notReady => "SPARSE_STORAGE_NOT_READY"
  | config => "SPARSE_STORAGE_CONFIG_ERROR"

/-- Only a store that cannot be set up is beyond use. -/
def severity : ErrorCode → Severity
  | config => .fatal
  | _ => .error

end ErrorCode

/-- Why a storage error arose. -/
inductive Fault where
  /-- A body could not be read to its end. -/
  | bodyUnreadable
  /-- The block set at a place, of a number of sets, is missing or does not fit. -/
  | blockSetMalformed (index count : Nat)
  | blockMissing (index : Nat) (set : String)
  | notCreated (path : String)
  | notWritten (path : String)
  | notOpened (path : String)
  | noBody (blockId : String)
  | outsideStore (location : String)
  | binaryColumn (column : String)
  | columnNotSaved (column : String)
  /-- A connection failed during a row operation. -/
  | operationFailed (operation : String)
  /-- A connection failed outside a row operation. -/
  | driverFailed (e : DriverError)
  | databaseNotOpened (path : String)
  | schemaUnchecked
  | connectionClosed
  | unsupported (operation : String)
  | unknownHash (name : String)
  | noDialect (tried : List String)
  | noStatement (dialect statement : String)
  | zeroBlockSize
  | zeroBlocksPerSet
  | configUnreadable
  /-- An error that a caller words itself. -/
  | custom (code : ErrorCode) (message : String)
  deriving DecidableEq, Repr

namespace Fault

/-- The kind of error that a fault makes. -/
def code : Fault → ErrorCode
  | bodyUnreadable | blockSetMalformed _ _ | blockMissing _ _ | notCreated _ | notWritten _ | notOpened _ | noBody _ => .io
  | columnNotSaved _ | operationFailed _ | driverFailed _ | databaseNotOpened _ => .driver
  | outsideStore _ | binaryColumn _ => .invalidValue
  | unsupported _ => .unsupported
  | schemaUnchecked | connectionClosed => .notReady
  | unknownHash _ | noDialect _ | noStatement _ _ | zeroBlockSize | zeroBlocksPerSet | configUnreadable => .config
  | custom code _ => code

/-- The wording of a fault. -/
def message : Fault → String
  | bodyUnreadable => "failed to read body"
  | blockSetMalformed index count => "block set " ++ index.repr ++ " of " ++ count.repr ++ " is missing or malformed"
  | blockMissing index set => "missing block " ++ index.repr ++ " in block set " ++ set
  | notCreated path => "failed to create " ++ path
  | notWritten path => "failed to write " ++ path
  | notOpened path => "failed to open " ++ path
  | noBody blockId => "no body stored for block " ++ blockId
  | outsideStore location => "body location " ++ location ++ " is outside the body store"
  | binaryColumn column => "binary value in column " ++ column ++ ", stream it through the body path instead"
  | columnNotSaved column => "failed to save column " ++ column
  | operationFailed operation => "failed to perform " ++ operation ++ " operation"
  | driverFailed e => e.message
  | databaseNotOpened path => "failed to open " ++ path
  | schemaUnchecked => "schema has not been checked"
  | connectionClosed => "connection is closed"
  | unsupported operation => "operation not supported by this backend: " ++ operation
  | unknownHash name => "unsupported row hash algorithm: " ++ name
  | noDialect tried => "no SQL configuration for client, tried [" ++ ", ".intercalate tried ++ "]"
  | noStatement dialect statement => "dialect " ++ dialect ++ " has no statement " ++ statement
  | zeroBlockSize => "block_size must be greater than zero"
  | zeroBlocksPerSet => "max_chunks_per_block_set must be greater than zero"
  | configUnreadable => "invalid store config:"
  | custom _ message => message

end Fault

/-- The cause at the end of an error's text, if there is one. -/
def causeText (cause : Option Cause) : String :=
  match cause with
  | some c => " (caused by: " ++ c.message ++ ")"
  | none => ""

/-- A storage error. -/
structure StorageError where
  fault : Fault
  /-- The row it concerns. -/
  row : Option RowKey := none
  cause : Option Cause := none
  deriving DecidableEq, Repr

namespace StorageError

/-- The error of a fault without a cause. -/
def of (fault : Fault) : StorageError :=
  { fault }

/-- The error of a fault that a file or stream caused. -/
def ofIo (fault : Fault) (e : IoError) : StorageError :=
  { fault, cause := some (.io e) }

/-- The error of a fault that a connection caused. -/
def ofDriver (fault : Fault) (e : DriverError) : StorageError :=
  { fault, cause := some (.driver e) }

/-- The error that a failing connection makes where nothing more is known. -/
def driver (e : DriverError) : StorageError :=
  ofDriver (.driverFailed e) e

/-- The error as one that concerns a row. -/
def forRow (e : StorageError) (row : RowKey) : StorageError :=
  { e with row := some row }

/-- The kind of an error. -/
def code (e : StorageError) : ErrorCode := e.fault.code

/-- How grave an error is. -/
def severity (e : StorageError) : Severity := e.code.severity

/-- Whether the store cannot be used after the error. -/
def isFatal (e : StorageError) : Bool := e.severity == .fatal

/-- Whether the error says that the store lacks a capability. -/
def isUnsupported (e : StorageError) : Bool := e.code == .unsupported

/-- What the error says about its row. -/
def details (e : StorageError) : Option String :=
  e.row.map fun row => "row: " ++ row.toText

/-- The whole text of an error. -/
def text (e : StorageError) : String :=
  "[" ++ e.severity.text ++ "] " ++ e.code.text ++ ": " ++ e.fault.message ++
    (match e.details with | some details => " (" ++ details ++ ")" | none => "") ++ causeText e.cause

end StorageError

/-- Why a connection that a pool holds has no usable schema. -/
inductive PoolFault where
  | connectionClosed
  /-- None of these places has a schema script. -/
  | noScript (tried : List String)
  /-- An error that a caller words itself. -/
  | custom (message : String)
  deriving DecidableEq, Repr

/-- The wording of the fault. -/
def PoolFault.message : PoolFault → String
  | connectionClosed => "connection is closed"
  | noScript tried => "failed to create schema, no DDL found in [" ++ ", ".intercalate tried ++ "]"
  | custom message => message

/-- The failure to set up a schema. It is always fatal: the connection is of no use to its pool. -/
structure PoolError where
  fault : PoolFault
  cause : Option Cause := none
  deriving DecidableEq, Repr

namespace PoolError

/-- The code of the error. -/
def codeText : String := "SPARSE_POOL_SCHEMA_FAILED"

/-- How grave the error is. -/
def severity : Severity := .fatal

/-- The whole text of the error. -/
def text (e : PoolError) : String :=
  "[" ++ severity.text ++ "] " ++ codeText ++ ": " ++ e.fault.message ++ causeText e.cause

end PoolError

/-- An error of the content layer. -/
inductive ContentError where
  /-- Access to the path is denied. -/
  | accessDenied (path : String)
  | storage (e : StorageError)
  deriving DecidableEq, Repr

namespace ContentError

/-- Whether access was denied. -/
def isAccessDenied : ContentError → Bool
  | accessDenied _ => true
  | storage _ => false

/-- The whole text of the error. -/
def text : ContentError → String
  | accessDenied path => "Access denied: " ++ path
  | storage e => e.text

/-- The lower failure behind the error. -/
def cause? : ContentError → Option Cause
  | accessDenied _ => none
  | storage e => e.cause

end ContentError

end SparseRows
