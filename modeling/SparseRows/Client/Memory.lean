import SparseRows.Body.BlockSets
import SparseRows.Config

/-!
# Rows in memory

A store in memory is a map from row keys to rows that several clients share. Asking for a row makes it, empty, so that
looking is not without effect on the store; what is asked for never fails. Bodies are kept in block sets in the same rows.
-/

namespace SparseRows

/-- The rows of a store, with the empty ones that came to be because they were asked for. -/
abbrev MemoryStore := Std.ExtTreeMap RowKey Row

/-- A client of a store in memory. -/
structure MemoryClient where
  bodies : Body.BlockSets
  logger : Logger

namespace MemoryClient

/-- A client with these settings. -/
def ofConfig (config : Config) (logger : Logger) : MemoryClient where
  bodies := .ofSizes config.blockSize.toNat config.blocksPerSet.toNat (logger.child "body")
  logger

variable (client : MemoryClient)

/-- The row of a key, which is made if there is none. -/
def rowAt (key : RowKey) : Step MemoryStore Row := do
  let store ← currentState
  match store[key]? with
  | some row => return row
  | none =>
    setState (store.insert key ∅)
    log client.logger .trace .rowCreated [("row", key.toText)]
    return ∅

/-- The row of a key, empty if nothing was written to it. -/
def get (key : RowKey) : Step MemoryStore Row := do
  let row ← client.rowAt key
  log client.logger .trace .rowRead [("columns", row.size.repr), ("row", key.toText)]
  return row

/-- Makes changes to the columns of a row. -/
def insert (key : RowKey) (changes : Changes) : Step MemoryStore Unit := do
  let row ← client.rowAt key
  setState ((← currentState).insert key (changes.applyTo row))
  log client.logger .trace .rowUpdated [("changes", changes.size.repr), ("row", key.toText)]

/-- Removes a row, whether it was there or not. -/
def remove (key : RowKey) : Step MemoryStore Unit := do
  let store ← currentState
  if key ∈ store then
    setState (store.erase key)
    log client.logger .trace .rowRemoved [("row", key.toText)]

/-- The store as rows. -/
def access : RowAccess MemoryStore where
  get key := client.get key
  insert key changes := client.insert key changes
  remove key := client.remove key
  mostRows store := store.size

/-- The rows with certain columns: a store in memory cannot look for them. -/
def find (_space _table : String) (_criteria : Row) : Except StorageError (List Row) :=
  .error (.of (.unsupported "find"))

end MemoryClient

end SparseRows
