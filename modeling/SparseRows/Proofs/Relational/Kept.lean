import SparseRows.Proofs.Memory.Runs
import SparseRows.Proofs.Relational.Simulation

/-!
# Columns that are read back from a database

What is inserted through one client of a database is read through any other, in the form of texts, as long as nothing that
is done in between overwrites it (`Move.row_of_insert`).
-/

namespace SparseRows

/-- A row that has every column of another one has them in any form. -/
theorem Row.Includes.mapValues {row columns : Row} (h : row.Includes columns) (form : Value → Value) :
    (row.mapValues form).Includes (columns.mapValues form) := by
  intro column v hcolumn
  rw [Row.getElem?_mapValues, Option.map_eq_some_iff] at hcolumn ⊢
  obtain ⟨w, hw, rfl⟩ := hcolumn
  exact ⟨w, h column w hw, rfl⟩

namespace Move

variable {ι : Type}

/-- Whether a move changes one of these columns of a row, or removes the row. -/
def Overwrites (name : RowKey) (columns : Row) : Move ι → Prop
  | row _ op => op.key = name ∧ op.Overwrites columns
  | activate _ | passivate _ => False

/-- Columns that a move does not overwrite stay in their row. -/
theorem includes_effect {name : RowKey} {columns : Row} {move : Move ι} {rows : Rows} (h : ¬move.Overwrites name columns)
    (hrow : (rows name).Includes columns) : (move.effect id rows name).Includes columns := by
  cases move with
  | row i op =>
    by_cases hkey : op.key = name
    · subst hkey
      exact RowOp.includes_effect (fun hover => h ⟨rfl, hover⟩) hrow
    · rw [effect, (RowOp.spares_of_ne (Ne.symm hkey)).effect_eq]
      exact hrow
  | activate i | passivate i => exact hrow

/-- Columns that no move of some overwrites stay in their row. -/
theorem includes_effects {name : RowKey} {columns : Row} {moves : List (Move ι)} {rows : Rows}
    (h : ∀ move ∈ moves, ¬move.Overwrites name columns) (hrow : (rows name).Includes columns) :
    (effects id rows moves name).Includes columns := by
  induction moves generalizing rows with
  | nil => exact hrow
  | cons move moves ih =>
    rw [List.forall_mem_cons] at h
    exact ih h.2 (includes_effect h.1 hrow)

/-- The last move of some gives what the rows say after the others. -/
theorem replies_concat (form : Value → Value) (rows : Rows) (moves : List (Move ι)) (last : Move ι) :
    replies form rows (moves ++ [last]) = replies form rows moves ++ [last.reply (effects form rows moves)] := by
  induction moves generalizing rows with
  | nil => rfl
  | cons move moves ih => simp only [List.cons_append, replies, ih, effects, List.foldl_cons]

variable {κ δ : Type} [DecidableEq ι] [SqlConnection κ] {driver : Driver κ δ} {clients : ι → RelationalClient}
  {a : HashAlgorithm}

/-- Columns that are inserted into a row through one client are there, as their texts, when the row is asked for through any
client, if nothing that is done in between overwrites them. -/
theorem row_of_insert (hdriver : ∀ i, driver.Faithful (clients i).dialect) (halgorithm : ∀ i, (clients i).algorithm = a)
    {fleet : Fleet ι κ δ} (hready : ∀ i, (fleet.sessions i).Ready driver) (hkeyed : (driver.triples fleet.database).Keyed)
    (i j : ι) {key : RowKey} {columns : Row} (hcolumns : (Changes.ofRow columns).PutsOnly Value.Textual)
    {between : List (Move ι)} (hbetween : ∀ move ∈ between, ¬move.Overwrites key columns ∧ move.PutsOnly Value.Textual)
    (hseparated : RowKey.Separated a fun name => name = key ∨ ∃ move ∈ between, move.key? = some name) (journal : Journal) :
    let moves : List (Move ι) := .row i (.insert key (.ofRow columns)) :: between ++ [.row j (.get key)]
    ∃ row : Row, ((Move.runAll (Move.run driver clients) moves).run ⟨fleet, journal⟩).1.getLast? = some (.ok (some row)) ∧
      row.Includes (columns.mapValues Value.textForm) := by
  intro moves
  obtain ⟨row, hrow⟩ := hkeyed.exists_shows (key.hash a)
  have hrows : ∃ rows : Rows,
      fleet.Shows driver a (fun name => name = key ∨ ∃ move ∈ between, move.key? = some name) rows ∧ rows key = row :=
    Fleet.exists_shows hready hkeyed hrow
  obtain ⟨rows, hview, -⟩ := hrows
  have htexts : fleet.Shows driver a (fun name => name = key ∨ ∃ move ∈ between, move.key? = some name)
      fun name => (rows name).mapValues Value.textForm := by
    refine ⟨hview.ready, hview.keyed, fun {name} hname => ?_⟩
    rw [(hview.shows hname).mapValues_textForm]
    exact hview.shows hname
  have hmoves : ∀ move ∈ moves,
      (∀ name, move.key? = some name → name = key ∨ ∃ move ∈ between, move.key? = some name) ∧ move.PutsOnly Value.Textual := by
    intro move hmove
    simp only [moves, List.cons_append, List.mem_cons, List.mem_append, List.not_mem_nil, or_false] at hmove
    rcases hmove with rfl | hmove | rfl
    · exact ⟨fun name hname => .inl (Option.some.inj hname).symm, hcolumns⟩
    · exact ⟨fun name hname => .inr ⟨move, hmove, hname⟩, (hbetween move hmove).2⟩
    · exact ⟨fun name hname => .inl (Option.some.inj hname).symm, trivial⟩
  obtain ⟨fleet', hfleet, -⟩ := Move.runAll_gives
    (fun move hmove fleet rows hrows =>
      Move.run_gives hdriver halgorithm hseparated (hmoves move hmove).1 (hmoves move hmove).2 hrows)
    htexts
  rw [(hfleet.run_eq journal).1, Move.replies_mapValues Value.textForm_textForm, replies_concat]
  rw [List.map_append, List.map_append, List.map_singleton, List.map_singleton, List.getLast?_concat]
  refine ⟨_, rfl, Row.Includes.mapValues (includes_effects (fun move hmove => (hbetween move hmove).1) ?_) _⟩
  intro column v hcolumn
  have hput : (Changes.ofRow columns).get? column = some (.put v) := by
    rw [Changes.get?_ofRow, hcolumn]
    rfl
  rw [effect, RowOp.effect, Function.update_self, Row.mapValues_id, Changes.getElem?_applyTo, hput]
  rfl

end Move

end SparseRows
