import SparseRows.Proofs.Decimal
import SparseRows.Proofs.Files.Growth
import SparseRows.Proofs.Relational.Kept

/-!
# Bodies in files stay

Bodies are stored one after the other, each in a file under a name of its own, and some are not read to their end. A body
that was stored is read back from then on, whatever is stored later and under whichever block id, and so it is by a record
that went through a database, which makes texts of the numbers in it (`read_of_stored`).
-/

namespace SparseRows

open Body Body.FileBodies Files FileTree

namespace Body.FileBodies

/-- A reader opens the place that a record tells below its root, if the place leads straight down. -/
theorem read_gives {reader : FileBodies} {record : Row} {location : String}
    (hrecord : record[locationColumn]? = some (.text location))
    (hdescends : descends location = true) (blockId : String) (tree : FileTree) :
    let path := below reader.root location
    (reader.read blockId record).Gives tree
      (((tree.lookUp path).mapError (StorageError.ofIo (.notOpened path))).map FileNode.read) tree := by
  intro path
  unfold FileBodies.read
  rw [hrecord, Option.bind_some, Value.asText?]
  dsimp only
  rw [hdescends, Bool.not_true, if_neg Bool.false_ne_true]
  refine .bind .currentState ?_
  cases tree.lookUp (below reader.root location) with
  | error e => exact .throw
  | ok node => exact .bind .log .pure

end Body.FileBodies

/-- The storing of a body in a file: in which layout, for which content, under which block id, from what source, and when
and under which name. -/
structure FileWrite where
  layout : FileBodies
  content : RowKey
  blockId : String
  source : Source
  stamp : Stamp

namespace FileWrite

/-- The work of storing the body. -/
def action (write : FileWrite) : Action FileTree StorageError Row :=
  write.layout.write write.content write.blockId write.source write.stamp

/-- What storing the body gives back, an error if it fails. -/
def reply (write : FileWrite) (s : Logged FileTree) : Except StorageError Row :=
  (write.action.attempt.run s).1

/-- The files and the journal after some bodies have been stored. -/
def after (s : Logged FileTree) (writes : List FileWrite) : Logged FileTree :=
  writes.foldl (fun s write => (write.action.attempt.run s).2) s

/-- The place of the file from the root down. -/
def location (write : FileWrite) : String :=
  locationOf write.content write.stamp

/-- The bytes of the body. -/
def bytes (write : FileWrite) : Bytes :=
  write.source.contents.1

/-- The columns that are to be recorded of the body. -/
def columns (write : FileWrite) : List (String × Value) :=
  [(blockIdColumn, .text write.blockId), (lengthColumn, .integer (Int64.ofNat write.bytes.length)),
   (locationColumn, .text write.location), (modifiedColumn, .integer write.stamp.now)]

/-- What is to be recorded of the body. -/
def record (write : FileWrite) : Row :=
  Row.ofList write.columns

/-- The path of the file. -/
def path (write : FileWrite) : String :=
  below write.layout.root write.location

/-- The path of the directory that the file is in. -/
def directory (write : FileWrite) : String :=
  below write.layout.root (directoryOf write.content write.stamp)

/-- The file of the body is there and holds it. -/
def Stored (write : FileWrite) (tree : FileTree) : Prop :=
  FileAt tree write.path write.stamp.name write.bytes

/-- No column is recorded twice. -/
theorem nodup_columns (write : FileWrite) : (write.columns.map (·.1)).Nodup := by
  have hnames : write.columns.map (·.1) = [blockIdColumn, lengthColumn, locationColumn, modifiedColumn] := rfl
  rw [hnames]
  decide

/-- A record holds texts and integers. -/
theorem putsOnly_record (write : FileWrite) : (Changes.ofRow write.record).PutsOnly Value.Textual := by
  intro column v hput
  rw [Changes.get?_ofRow, Option.map_eq_some_iff] at hput
  obtain ⟨w, hw, hput⟩ := hput
  have hmem := Row.mem_of_getElem?_ofList write.nodup_columns hw
  obtain rfl := Change.put.inj hput
  simp only [columns, List.mem_cons, Prod.mk.injEq, List.not_mem_nil, or_false] at hmem
  rcases hmem with ⟨-, rfl⟩ | ⟨-, rfl⟩ | ⟨-, rfl⟩ | ⟨-, rfl⟩ <;> rfl

/-- The path of a file is that of its directory with its own name behind. -/
theorem path_eq (write : FileWrite) : write.path = write.directory ++ "/" ++ write.stamp.name :=
  below_append ..

/-! ## One body -/

/-- Making the directories of a body comes to an end and leaves what making them leaves. -/
theorem makeDirectory_gives (path : String) (tree : FileTree) :
    ∃ r, (FileBodies.makeDirectory path).Gives tree r (tree.makeDirectories path).1 := by
  cases hmade : tree.makeDirectories path with
  | mk made failure =>
    cases failure with
    | none =>
      refine ⟨.ok (), .bind .currentState ?_⟩
      rw [hmade]
      exact .bind .setState .pure
    | some e =>
      refine ⟨.error (.ofIo (.notCreated path) e), .bind .currentState ?_⟩
      rw [hmade]
      exact .bind .setState .throw

/-- Writing the file of a body puts it there and leaves everything but files of its name. -/
theorem stored_of_writeFile {write : FileWrite} (hname : IsName write.stamp.name) {tree tree' : FileTree}
    (h : tree.writeFile write.path write.bytes = .ok tree') : write.Stored tree' ∧ KeepsBut write.stamp.name tree tree' := by
  rw [path_eq] at h
  rw [Stored, path_eq]
  exact fileAt_of_writeFile hname h

/-- Storing a body comes to an end and leaves everything but files of its name as it was. If it does not fail, the file is
there. -/
theorem action_gives {write : FileWrite} (hname : IsName write.stamp.name) (tree : FileTree) :
    ∃ r tree', write.action.Gives tree r tree' ∧ KeepsBut write.stamp.name tree tree' ∧
      ∀ record, r = .ok record → record = write.record ∧ write.Stored tree' := by
  obtain ⟨made, hmade⟩ := makeDirectory_gives write.directory tree
  have hkeeps := (extends_makeDirectories tree write.directory).keepsBut write.stamp.name
  generalize (tree.makeDirectories write.directory).1 = directories at hmade hkeeps
  cases made with
  | error e => exact ⟨.error e, directories, .bind_error hmade, hkeeps, fun _ h => nomatch h⟩
  | ok =>
    cases hwritten : directories.writeFile write.path write.bytes with
    | error e =>
      refine ⟨.error (.ofIo (.notCreated write.path) e), directories, .bind hmade (.bind .currentState ?_), hkeeps,
        fun _ h => nomatch h⟩
      unfold path location bytes at hwritten
      rw [hwritten]
      exact .bind_error .throw
    | ok tree' =>
      obtain ⟨hstored, hother⟩ := stored_of_writeFile hname hwritten
      unfold path location bytes at hwritten
      cases hfailure : write.source.contents.2 with
      | some text =>
        refine ⟨.error (.ofIo (.notWritten write.path) (.stream text)), tree', .bind hmade (.bind .currentState ?_),
          hkeeps.trans hother, fun _ h => nomatch h⟩
        rw [hwritten, hfailure]
        exact .bind .setState (.bind_error .throw)
      | none =>
        refine ⟨.ok write.record, tree', .bind hmade (.bind .currentState ?_), hkeeps.trans hother,
          fun record h => ⟨(Except.ok.inj h).symm, hstored⟩⟩
        rw [hwritten, hfailure]
        exact .bind .setState (.bind .log .pure)

/-! ## A run of bodies -/

/-- Writes are made one after the other. -/
theorem after_append (s : Logged FileTree) (writes writes' : List FileWrite) :
    after s (writes ++ writes') = after (after s writes) writes' :=
  List.foldl_append ..

theorem after_cons (s : Logged FileTree) (write : FileWrite) (writes : List FileWrite) :
    after s (write :: writes) = after (write.action.attempt.run s).2 writes := rfl

/-- The file of a body is there once the body has been stored. -/
theorem stored_of_reply {write : FileWrite} (hname : IsName write.stamp.name) {s : Logged FileTree} {record : Row}
    (h : write.reply s = .ok record) : record = write.record ∧ write.Stored (write.action.attempt.run s).2.state := by
  obtain ⟨r, tree', hgives, -, hok⟩ := action_gives hname s.state
  obtain ⟨hreply, hstate⟩ := hgives.run_eq s.journal
  rw [hstate]
  exact hok record (hreply.symm.trans h)

/-- The file of a body stays when bodies of other names are stored, whether that fails or not. -/
theorem Stored.after {write : FileWrite} {writes : List FileWrite} {s : Logged FileTree} (h : write.Stored s.state)
    (hnames : ∀ other ∈ writes, IsName other.stamp.name) (hothers : ∀ other ∈ writes, write.stamp.name ≠ other.stamp.name) :
    write.Stored (after s writes).state := by
  induction writes generalizing s with
  | nil => exact h
  | cons other writes ih =>
    rw [List.forall_mem_cons] at hnames hothers
    obtain ⟨r, tree', hgives, hkeeps, -⟩ := action_gives hnames.1 s.state
    have hstate : (other.action.attempt.run s).2.state = tree' := (hgives.run_eq s.journal).2
    rw [after_cons]
    refine ih ?_ hnames.2 hothers.2
    rw [hstate]
    exact FileAt.keep h hkeeps hothers.1

/-! ## Reading -/

/-- A record leads a reader to some bytes and tells how many they are. No file has more bytes than an integer tells. -/
structure ReadsBack (reader : FileBodies) (s : Logged FileTree) (record : Row) (bytes : Bytes) : Prop where
  read (blockId : String) : ((reader.read blockId record).attempt.run s).1 = .ok (.ok bytes)
  length (h : bytes.length < 2 ^ 63) :
    (record[lengthColumn]?.bind Value.asInteger?).map Int64.toInt = some (bytes.length : Int)

/-- A reader of the same root gets a body by its place. -/
theorem Stored.read_gives {write : FileWrite} {tree : FileTree} (h : write.Stored tree) (hname : IsName write.stamp.name)
    {reader : FileBodies} (hroot : reader.root = write.layout.root) {record : Row}
    (hrecord : record[locationColumn]? = some (.text write.location)) (blockId : String) :
    (reader.read blockId record).Gives tree (.ok (.ok write.bytes)) tree := by
  have hlookUp : tree.lookUp (below reader.root write.location) = .ok (.ofBytes write.bytes) := hroot ▸ FileAt.lookUp_eq h
  have hread : (FileNode.ofBytes write.bytes).read = .ok write.bytes := by
    rw [FileNode.read, FileNode.bytes?_ofBytes]
  have hgives : (reader.read blockId record).Gives tree _ tree :=
    FileBodies.read_gives hrecord (descends_locationOf write.content hname) blockId tree
  rw [hlookUp, Except.mapError, Except.map, hread] at hgives
  exact hgives

/-- The place and the length of a body are in its record. -/
theorem includes_record {write : FileWrite} {record : Row}
    (h : record.Includes write.record ∨ record.Includes (write.record.mapValues Value.textForm)) :
    record[locationColumn]? = some (.text write.location) ∧
      record[lengthColumn]?.bind Value.asInteger? = some (Int64.ofNat write.bytes.length) := by
  have hplace : write.record[locationColumn]? = some (.text write.location) :=
    Row.getElem?_ofList_of_mem write.nodup_columns (by simp [columns])
  have hlength : write.record[lengthColumn]? = some (.integer (Int64.ofNat write.bytes.length)) :=
    Row.getElem?_ofList_of_mem write.nodup_columns (by simp [columns])
  rcases h with h | h
  · rw [h _ _ hplace, h _ _ hlength]
    exact ⟨rfl, rfl⟩
  · rw [h locationColumn (.text write.location) (by rw [Row.getElem?_mapValues, hplace]; rfl),
      h lengthColumn (.text (Text.writeWord (Int64.ofNat write.bytes.length))) (by rw [Row.getElem?_mapValues, hlength]; rfl)]
    exact ⟨rfl, Text.readWord_writeWord _⟩

/-- A body that is there is read back by what is recorded of it, be it in the form of texts. -/
theorem Stored.readsBack {write : FileWrite} {s : Logged FileTree} (h : write.Stored s.state) (hname : IsName write.stamp.name)
    {reader : FileBodies} (hroot : reader.root = write.layout.root) {record : Row}
    (hrecord : record.Includes write.record ∨ record.Includes (write.record.mapValues Value.textForm)) :
    ReadsBack reader s record write.bytes := by
  obtain ⟨hplace, hlength⟩ := includes_record hrecord
  refine ⟨fun blockId => ((h.read_gives hname hroot hplace blockId).run_eq s.journal).1, fun hbytes => ?_⟩
  rw [hlength, Option.map_some, Int64.toInt_ofNat_of_lt hbytes]

/-! ## Reading back -/

/-- A body that was stored in a file is read back by its record ever after, whatever bodies are stored before and after it,
under whichever block ids, and whether storing them fails or not, if every file is given a name of its own. So it is by the
row that the record is inserted into through a client of a database, once the row is asked for through any client and
nothing done in between has overwritten the record. Of the database it is assumed that the driver is faithful, that no
column of a row stands in the table twice, and that the digest does not take different keys among those used to the same
bytes. -/
theorem read_of_stored (s : Logged FileTree) (earlier : List FileWrite) (write : FileWrite) (later : List FileWrite)
    (record : Row) (hnames : ∀ other ∈ earlier ++ write :: later, IsName other.stamp.name)
    (hdistinct : ((earlier ++ write :: later).map (·.stamp.name)).Nodup) (hstored : write.reply (after s earlier) = .ok record)
    (reader : FileBodies) (hroot : reader.root = write.layout.root) :
    let done := after s (earlier ++ write :: later)
    ReadsBack reader done record write.bytes ∧
      ∀ {ι κ δ : Type} [DecidableEq ι] [SqlConnection κ] {driver : Driver κ δ} (clients : ι → RelationalClient)
          {a : HashAlgorithm} (fleet : Fleet ι κ δ) (i j : ι) (key : RowKey) (between : List (Move ι)) (journal : Journal),
        (∀ i, driver.Faithful (clients i).dialect) →
        (∀ i, (clients i).algorithm = a) →
        (∀ i, (fleet.sessions i).Ready driver) →
        (driver.triples fleet.database).Keyed →
        (∀ move ∈ between, ¬move.Overwrites key record ∧ move.PutsOnly Value.Textual) →
        RowKey.Separated a (fun name => name = key ∨ ∃ move ∈ between, move.key? = some name) →
        let moves : List (Move ι) := .row i (.insert key (.ofRow record)) :: between ++ [.row j (.get key)]
        ∃ row : Row, ((Move.runAll (Move.run driver clients) moves).run ⟨fleet, journal⟩).1.getLast? = some (.ok (some row)) ∧
          ReadsBack reader done row write.bytes := by
  intro done
  have hname : IsName write.stamp.name := hnames write (by simp)
  obtain ⟨rfl, hafter⟩ := stored_of_reply hname hstored
  have hdone : write.Stored done.state := by
    rw [List.map_append, List.nodup_append, List.map_cons, List.nodup_cons] at hdistinct
    rw [show done = after _ later from (after_append ..).trans (after_cons ..)]
    refine hafter.after (fun other hother => hnames other (by simp [hother])) fun other hother heq => ?_
    exact hdistinct.2.1.1 (heq ▸ List.mem_map_of_mem hother)
  refine ⟨hdone.readsBack hname hroot (.inl fun _ _ h => h), ?_⟩
  intro ι κ δ _ _ driver clients a fleet i j key between journal hdriver halgorithm hready hkeyed hbetween hseparated moves
  obtain ⟨row, hlast, hrow⟩ :=
    Move.row_of_insert hdriver halgorithm hready hkeyed i j write.putsOnly_record hbetween hseparated journal
  exact ⟨row, hlast, hdone.readsBack hname hroot (.inr hrow)⟩

/-- One block id is stored under three times, for two name spaces that are made one name: first without success, then a
body, then another one. The body is read back, and so it is by the row that a client of a database made of its record before
it went to rest. -/
theorem read_of_stored_of_sameId :
    let layout : FileBodies := ⟨"bodies", .discard⟩
    let key : RowKey := ⟨"a_b", "tab", "doc"⟩
    let broken : FileWrite :=
      ⟨layout, ⟨"a/b", "tab", "doc"⟩, "id", [.bytes [9], .failed "gone"], ⟨4, 2024, 3, "6f9619ff-8b86-4d01-b42d-00cf4fc964f0"⟩⟩
    let write : FileWrite :=
      ⟨layout, ⟨"a/b", "tab", "doc"⟩, "id", [.bytes [1, 2], .interrupted, .bytes [3]],
        ⟨5, 2024, 3, "6f9619ff-8b86-4d01-b42d-00cf4fc964f1"⟩⟩
    let again : FileWrite := ⟨layout, key, "id", [.bytes [7]], ⟨6, 2024, 3, "6f9619ff-8b86-4d01-b42d-00cf4fc964f2"⟩⟩
    let done := after ⟨{}, {}⟩ [broken, write, again]
    let fleet : Fleet Bool TripleTable (List Triple) := ⟨[], fun _ => ⟨{}, .schemaChecked⟩⟩
    let moves : List (Move Bool) :=
      [.row true (.insert key (.ofRow write.record)), .passivate true, .row false (.get key)]
    ReadsBack layout done write.record [1, 2, 3] ∧
      ∃ row : Row, ((Move.runAll (Move.run TripleTable.driver fun _ => TripleTable.client) moves).run ⟨fleet, {}⟩).1.getLast? =
        some (.ok (some row)) ∧ ReadsBack layout done row [1, 2, 3] := by
  intro layout key broken write again done fleet moves
  have hnames : ∀ other ∈ [broken] ++ write :: [again], IsName other.stamp.name := by
    intro other hother
    simp only [List.cons_append, List.nil_append, List.mem_cons, List.not_mem_nil, or_false] at hother
    rcases hother with rfl | rfl | rfl <;> exact ⟨by decide, by decide, by decide, by decide⟩
  obtain ⟨hread, hdatabase⟩ :=
    read_of_stored ⟨{}, {}⟩ [broken] write [again] write.record hnames (by decide) (by decide +kernel) layout rfl
  refine ⟨hread, ?_⟩
  refine hdatabase (fun _ => TripleTable.client) fleet true false key [.passivate true] {}
    (fun _ => TripleTable.driver_faithful TripleTable.dialect_speaks) (fun _ => rfl) (fun _ => ⟨rfl, rfl, fun heq => nomatch heq⟩)
    Bag.keyed_zero (by simp [Move.Overwrites, Move.PutsOnly]) ?_
  have hkey : ∀ name, (name = key ∨ ∃ move ∈ [Move.passivate true], move.key? = some name) → name = key := by
    simp [Move.key?]
  intro k k' hk hk' _
  rw [hkey k hk, hkey k' hk']

end FileWrite

end SparseRows
