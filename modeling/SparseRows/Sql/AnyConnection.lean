import SparseRows.Sql.Engine
import SparseRows.Sql.Recorded
import SparseRows.Sql.TripleTable

/-!
# Connections of several kinds

A connection to a bare table of triples, to an embedded database or to a database in a file. The first two keep a record of
their calls. The files of the third one are not its own, so it holds the place where they are and what they were when last
looked at.
-/

namespace SparseRows

/-- A connection of one of the kinds that there are. -/
inductive AnyConnection where
  | triples (connection : Recorded TripleTable)
  | embedded (connection : Recorded Sql.EngineConnection)
  | file (place : List String) (connection : Sql.EngineConnection)

namespace AnyConnection

/-- Makes a call, whatever the kind. -/
def dispatch {α : Type} (request : {κ : Type} → [SqlConnection κ] → Call κ α) : Call AnyConnection α := fun connection =>
  match connection with
  | triples inner =>
    let (result, after) := (request : Call (Recorded TripleTable) α).run inner
    (result, triples after)
  | embedded inner =>
    let (result, after) := (request : Call (Recorded Sql.EngineConnection) α).run inner
    (result, embedded after)
  | file place inner =>
    let (result, after) := (request : Call Sql.EngineConnection α).run inner
    (result, file place after)

instance : SqlConnection AnyConnection where
  product := dispatch SqlConnection.product
  execute sql := dispatch (SqlConnection.execute sql)
  prepare sql := dispatch (SqlConnection.prepare sql)
  query handle params := dispatch (SqlConnection.query handle params)
  update handle params := dispatch (SqlConnection.update handle params)
  release := dispatch SqlConnection.release
  close := dispatch SqlConnection.close

/-- The calls on record. -/
def calls : AnyConnection → List SqlCall
  | triples connection => connection.calls
  | embedded connection => connection.calls
  | file _ _ => []

end AnyConnection

end SparseRows
