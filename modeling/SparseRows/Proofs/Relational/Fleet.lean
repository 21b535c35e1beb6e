import SparseRows.Proofs.Relational.Client
import SparseRows.Proofs.RowHash

/-!
# Clients that share a database

Several relational clients work on one database, one operation at a time. Each has a session of its own; when it works, its
connection sees what the others have made of the database. Through any of the clients the database is a store of texts: its rows
are those that the bag of triples shows under their hashes (`Fleet.access_lawful`).
-/

namespace SparseRows

/-- A database and the sessions of those who share it. -/
structure Fleet (ι κ δ : Type) where
  database : δ
  sessions : ι → Session κ

namespace Fleet

variable {ι κ δ : Type} [DecidableEq ι]

/-- The session of a client, whose connection sees the database as it is now. -/
def checkOut (driver : Driver κ δ) (fleet : Fleet ι κ δ) (i : ι) : Session κ :=
  { fleet.sessions i with connection := driver.attach (fleet.sessions i).connection fleet.database }

/-- The fleet once a client has worked. -/
def checkIn (driver : Driver κ δ) (fleet : Fleet ι κ δ) (i : ι) (session : Session κ) : Fleet ι κ δ where
  database := driver.database session.connection
  sessions := Function.update fleet.sessions i session

/-- Work of one of the clients. -/
def onSession {α : Type} (driver : Driver κ δ) (i : ι) (step : Step (Session κ) α) : Step (Fleet ι κ δ) α := fun s =>
  let (a, after) := step.run ⟨s.state.checkOut driver i, s.journal⟩
  (a, ⟨s.state.checkIn driver i after.state, after.journal⟩)

/-- Work of one of the clients that may fail. -/
def onClient {ε α : Type} (driver : Driver κ δ) (i : ι) (action : Action (Session κ) ε α) : Action (Fleet ι κ δ) ε α :=
  ExceptT.mk (onSession driver i action.attempt)

variable {driver : Driver κ δ} {fleet : Fleet ι κ δ} {i : ι}

/-- What the work of a client gives, it gives in the fleet. -/
theorem onSession_gives {α : Type} {step : Step (Session κ) α} {r : α} {session : Session κ}
    (h : step.Gives (fleet.checkOut driver i) r session) :
    (onSession driver i step).Gives fleet r (fleet.checkIn driver i session) := by
  refine ⟨fun journal => ?_⟩
  obtain ⟨journal', hrun⟩ := h.run journal
  refine ⟨journal', ?_⟩
  simp only [onSession, StateT.run] at hrun ⊢
  rw [hrun]

/-- What one client of a fleet gives, the fleet gives, with that client put back. -/
theorem onClient_gives {ε α : Type} {action : Action (Session κ) ε α} {r : Except ε α} {session : Session κ}
    (h : action.Gives (fleet.checkOut driver i) r session) :
    (onClient driver i action).Gives fleet r (fleet.checkIn driver i session) :=
  onSession_gives h

/-- Every client can work, no row id and column id stand in the table twice, and the table shows these rows under their
hashes. -/
structure Shows (driver : Driver κ δ) (a : HashAlgorithm) (Known : RowKey → Prop) (fleet : Fleet ι κ δ) (rows : Rows) : Prop where
  ready (i : ι) : (fleet.sessions i).Ready driver
  keyed : (driver.triples fleet.database).Keyed
  shows {key : RowKey} (h : Known key) : (driver.triples fleet.database).Shows (key.hash a) (rows key)

variable {clients : ι → RelationalClient} {a : HashAlgorithm} {Known : RowKey → Prop} {rows : Rows}

omit [DecidableEq ι] in
/-- If no row id and column id stand in the table twice, it shows some rows, of which one can be given. -/
theorem exists_shows (hready : ∀ i, (fleet.sessions i).Ready driver) (hkeyed : (driver.triples fleet.database).Keyed)
    {key : RowKey} {row : Row} (hrow : (driver.triples fleet.database).Shows (key.hash a) row) :
    ∃ rows : Rows, fleet.Shows driver a Known rows ∧ rows key = row := by
  choose rows hrows using fun name : RowKey => hkeyed.exists_shows (name.hash a)
  exact ⟨rows, ⟨hready, hkeyed, fun _ => hrows _⟩, (hrows key).unique hrow⟩

/-- Once a client has worked and still can, the others still can too, and the database is as the client left it. -/
theorem Shows.checkIn (h : fleet.Shows driver a Known rows) {session : Session κ} {bag : Bag} (hsees : session.Sees driver bag)
    (hkeyed : bag.Keyed) {rows' : Rows} (hshows : ∀ key, Known key → bag.Shows (key.hash a) (rows' key)) :
    (fleet.checkIn driver i session).Shows driver a Known rows' := by
  have hbag : driver.triples (fleet.checkIn driver i session).database = bag := hsees.bag
  refine ⟨fun j => ?_, hbag ▸ hkeyed, fun hknown => hbag ▸ hshows _ hknown⟩
  have hsessions : (fleet.checkIn driver i session).sessions = Function.update fleet.sessions i session := rfl
  rw [hsessions]
  by_cases hj : j = i
  · subst hj
    rw [Function.update_self]
    exact hsees.ready
  · rw [Function.update_of_ne hj]
    exact h.ready j

variable [SqlConnection κ]

/-- The store as one of the clients reaches it. -/
def access (driver : Driver κ δ) (clients : ι → RelationalClient) (i : ι) : RowAccess (Fleet ι κ δ) where
  get key := onClient driver i ((clients i).get key)
  insert key changes := onClient driver i ((clients i).insert key changes)
  remove key := onClient driver i ((clients i).remove key)
  mostRows _ := UInt64.size

omit [DecidableEq ι] in
/-- A client that is to work sees the triples of the database. -/
theorem checkOut_sees {dialect : Dialect} (hdriver : driver.Faithful dialect) (h : (fleet.sessions i).Ready driver) :
    (fleet.checkOut driver i).Sees driver (driver.triples fleet.database) := by
  obtain ⟨hdatabase, hkeeps⟩ := hdriver.attach fleet.database h.usable
  exact ⟨h.keep hkeeps, congrArg driver.triples hdatabase⟩

/-- Through any of its clients a database is a store of texts, as far as the digest tells keys apart. -/
theorem access_lawful (hdriver : ∀ i, driver.Faithful (clients i).dialect) (halgorithm : ∀ i, (clients i).algorithm = a)
    (hseparated : RowKey.Separated a Known) (i : ι) :
    (access driver clients i).Lawful (Shows driver a Known) Known Value.Textual Value.textForm where
  get := by
    intro fleet rows key hview hknown
    have hrow : (driver.triples fleet.database).Shows ((clients i).rowId key) (rows key) := by
      rw [RelationalClient.rowId, halgorithm i]
      exact hview.shows hknown
    obtain ⟨session, hgives, hsees⟩ :=
      RelationalClient.get_gives (hdriver i) (checkOut_sees (hdriver i) (hview.ready i)) hview.keyed hrow
    exact ⟨_, onClient_gives hgives, hview.checkIn hsees hview.keyed fun _ hname => hview.shows hname⟩
  insert := by
    intro fleet rows key changes hview hknown htakes
    obtain ⟨texts, session, htexts, hgives, hsees⟩ :=
      RelationalClient.insert_gives (hdriver i) (checkOut_sees (hdriver i) (hview.ready i)) key htakes
    rw [RelationalClient.rowId, halgorithm i] at hsees
    refine ⟨_, onClient_gives hgives, hview.checkIn hsees (hview.keyed.saveAll _ texts) fun name hname => ?_⟩
    by_cases hkey : name = key
    · subst hkey
      have hrow := hview.shows hname
      have hsaved := hrow.saveAll htexts
      rw [← hrow.mapValues_textForm, Changes.applyList_textForm] at hsaved
      rw [RowOp.effect, Function.update_self]
      exact hsaved
    · rw [RowOp.effect, Function.update_of_ne hkey]
      exact (hview.shows hname).saveAll_of_ne (fun heq => hkey (hseparated.eq_of_hash_eq hname hknown heq)) texts
  remove := by
    intro fleet rows key hview hknown
    obtain ⟨session, hgives, hsees⟩ :=
      RelationalClient.remove_gives (hdriver i) (checkOut_sees (hdriver i) (hview.ready i)) key
    rw [RelationalClient.rowId, halgorithm i] at hsees
    refine ⟨_, onClient_gives hgives, hview.checkIn hsees (hview.keyed.filter _) fun name hname => ?_⟩
    by_cases hkey : name = key
    · subst hkey
      rw [RowOp.effect, Function.update_self]
      exact Bag.shows_dropRow _ _
    · rw [RowOp.effect, Function.update_of_ne hkey]
      exact (hview.shows hname).dropRow_of_ne fun heq => hkey (hseparated.eq_of_hash_eq hname hknown heq)

end Fleet

end SparseRows
