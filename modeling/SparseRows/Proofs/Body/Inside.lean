import SparseRows.Proofs.Body.InFiles
import SparseRows.Proofs.Files.Below
import SparseRows.Text.Hex

/-!
# Bodies stay inside the root

What keeps a body inside is done twice: a writer makes names of the texts that it is given, and a reader takes the path that
it finds in a record apart. Whatever the record says, nothing is opened but what lies below the root by some names, and the
places that writers make are accepted by readers (`stays_inside`).
-/

namespace SparseRows

open Body Body.FileBodies Files FileTree

/-- The usual form of a universally unique name: hexadecimal digits in groups of 8, 4, 4, 4 and 12 with hyphens between them. -/
def IsUuid (s : String) : Prop :=
  s.toList.map (fun c => if (Text.readHexDigit c).isSome then '0' else c) = "00000000-0000-0000-0000-000000000000".toList

instance (s : String) : Decidable (IsUuid s) :=
  inferInstanceAs (Decidable (_ = _))

/-- A universally unique name is a name. -/
theorem IsUuid.isName {s : String} (h : IsUuid s) : IsName s := by
  have hform : ∀ c ∈ s.toList, Text.readHexDigit c = none → c ∈ "00000000-0000-0000-0000-000000000000".toList := by
    intro c hc hnone
    rw [← show _ = _ from h]
    exact List.mem_map.mpr ⟨c, hc, if_neg (by simp [hnone])⟩
  refine isName_of_notMem ?_ (fun hdot => ?_) (fun hslash => ?_)
  · rintro rfl
    exact absurd h (by decide)
  · exact absurd (hform '.' hdot rfl) (by decide)
  · exact absurd (hform '/' hslash rfl) (by decide)

namespace Body.FileBodies

variable {record : Row} {location : String}

/-- A place that may lie outside the root is refused, whatever is there, and nothing is done. -/
theorem read_of_strays (hrecord : record[locationColumn]? = some (.text location)) (hstrays : Strays location) (reader : FileBodies)
    (blockId : String) (s : Logged FileTree) :
    (reader.read blockId record).attempt.run s = (.error (.of (.outsideStore location)), s) := by
  unfold FileBodies.read
  rw [hrecord, Option.bind_some, Value.asText?]
  dsimp only
  rw [(descends_eq_false_iff location).mpr hstrays]
  rfl

/-- What is read lies below the place of the root by the names that the path leads down by. -/
theorem exists_node?_of_lookUp {tree : FileTree} {root : String} (hstrays : ¬Strays location) {node : FileNode}
    (h : tree.lookUp (below root location) = .ok node) :
    ∃ base, tree.start root = .ok base ∧ tree.node? (base ++ namesIn location) = some node := by
  obtain ⟨place, hplace, hnode⟩ := bind_eq_ok_iff.mp h
  obtain ⟨base, hbase, rfl⟩ := resolve_below hstrays hplace
  refine ⟨base, hbase, ?_⟩
  split at hnode
  · rename_i found hfound
    cases hnode
    exact hfound
  · cases hnode

/-- The place of a body leads down by the five names that are made for it. -/
theorem namesIn_locationOf (content : RowKey) {stamp : Stamp} (hname : IsName stamp.name) :
    namesIn (locationOf content stamp) = namesOf content stamp := by
  rw [locationOf_eq]
  exact namesIn_intercalate (isName_of_mem_namesOf hname) (List.cons_ne_nil _ _)

/-- The place of a body does not stray. -/
theorem not_strays_locationOf (content : RowKey) {stamp : Stamp} (hname : IsName stamp.name) :
    ¬Strays (locationOf content stamp) := by
  rw [← descends_eq_false_iff, descends_locationOf content hname]
  exact Bool.noConfusion

/-- Reading by the place in a record, which is a path from the root down, opens nothing outside the root. -/
structure ReadsInside (reader : FileBodies) (blockId : String) (record : Row) (location : String) (s : Logged FileTree) : Prop where
  /-- A place that strays is refused with nothing done, whatever files there are. -/
  refused (h : Strays location) : ∃ e : StorageError, e.code = .invalidValue ∧ e.fault = .outsideStore location ∧
    (reader.read blockId record).attempt.run s = (.error e, s)
  /-- Every other place is looked up below the root, and it makes no difference to the files. -/
  opened (h : ¬Strays location) :
    let path := below reader.root location
    let (result, after) := (reader.read blockId record).attempt.run s
    result = ((s.state.lookUp path).mapError (.ofIo (.notOpened path))).map FileNode.read ∧ after.state = s.state
  /-- The path that is opened is that of the root with names behind it, and doubled slashes and inner dots are none. -/
  path (h : ¬Strays location) :
    components (below reader.root location).toList =
        components reader.root.toList ++ (namesIn location).map (fun name => .name name.toList) ∧
      ∀ name ∈ namesIn location, IsName name
  /-- What is found there lies below the place of the root by these names. -/
  place (h : ¬Strays location) {node : FileNode} (hnode : s.state.lookUp (below reader.root location) = .ok node) :
    ∃ base, s.state.start reader.root = .ok base ∧ s.state.node? (base ++ namesIn location) = some node

/-- Storing a body makes no file but one that is five names below the root, and readers accept its place. -/
structure WritesInside (write : FileWrite) (s : Logged FileTree) : Prop where
  accepted : ¬Strays write.location
  /-- The names are those that are made of the name space and of the table, the year, the month and the name of the file. -/
  path : components write.location.toList = (namesOf write.content write.stamp).map fun name => .name name.toList
  five : (namesOf write.content write.stamp).length = 5
  names : ∀ name ∈ namesOf write.content write.stamp, IsName name
  /-- The place is recorded, and the file is there. -/
  place {columns : Row} (h : write.reply s = .ok columns) :
    let tree := (write.action.attempt.run s).2.state
    columns[locationColumn]? = some (.text write.location) ∧
      ∃ base, tree.start write.layout.root = .ok base ∧
        tree.node? (base ++ namesOf write.content write.stamp) = some (.ofBytes write.bytes)

/-- Bodies stay inside the root. A reader refuses exactly the places that start at the top or at a dot or go up anywhere,
and leaves everything as it is; of every other place it opens what lies below the root by names. The place that a writer
makes leads down by just five names, whatever the name space and the table are called, and no reader refuses it. Of the name
of the file it is assumed that it has the usual form of one that is universally unique. -/
theorem stays_inside (reader : FileBodies) (blockId : String) (hrecord : record[locationColumn]? = some (.text location))
    (write : FileWrite) (hname : IsUuid write.stamp.name) (s : Logged FileTree) :
    ReadsInside reader blockId record location s ∧ WritesInside write s := by
  constructor
  · refine ⟨fun hstrays => ?_, fun hstrays => ?_, fun hstrays => ?_, fun hstrays _ hnode => exists_node?_of_lookUp hstrays hnode⟩
    · exact ⟨_, rfl, rfl, read_of_strays hrecord hstrays reader blockId s⟩
    · have hdescends : descends location = true := by
        rw [← Bool.not_eq_false, descends_eq_false_iff]
        exact hstrays
      exact (read_gives hrecord hdescends blockId s.state).run_eq s.journal
    · exact ⟨components_below reader.root hstrays, isName_of_mem_namesIn hstrays⟩
  · have hstamp := hname.isName
    have hinside : ¬Strays write.location := not_strays_locationOf write.content hstamp
    refine ⟨hinside, components_locationOf write.content hstamp, rfl, isName_of_mem_namesOf hstamp, fun hreply => ?_⟩
    obtain ⟨rfl, hstored⟩ := FileWrite.stored_of_reply hstamp hreply
    obtain ⟨base, hbase, hnode⟩ := exists_node?_of_lookUp hinside (FileAt.lookUp_eq hstored)
    rw [FileWrite.location, namesIn_locationOf write.content hstamp] at hnode
    exact ⟨(FileWrite.includes_record (.inl fun _ _ h => h)).1, base, hbase, hnode⟩

/-- A place that goes up is refused, and one with a doubled slash and a dot inside leads down by two names. A name space and
a table of dots and slashes are one name each, on the way to a file that is found five names below the root. -/
theorem stays_inside_of_dots :
    let s : Logged FileTree := ⟨{}, {}⟩
    let layout : FileBodies := ⟨"bodies/", .discard⟩
    let record : String → Row := fun location => .ofList [(locationColumn, .text location)]
    let write : FileWrite :=
      ⟨layout, ⟨"..", "a/b", "doc"⟩, "id", [.bytes [1, 2]], ⟨4, 2024, 3, "6f9619ff-8b86-4d01-b42d-00cf4fc964f0"⟩⟩
    let names := ["_..", "a_b", "2024", "03", "6f9619ff-8b86-4d01-b42d-00cf4fc964f0"]
    (∃ e : StorageError, e.code = .invalidValue ∧ (layout.read "id" (record "tab/../../doc")).attempt.run s = (.error e, s)) ∧
      components (below "bodies/" "tab//./doc").toList = ["bodies", "tab", "doc"].map (fun name => .name name.toList) ∧
      components write.location.toList = names.map (fun name => .name name.toList) ∧
      (write.action.attempt.run s).2.state.node? ("bodies" :: names) = some (.ofBytes [1, 2]) := by
  intro s layout record write names
  have hrecord : ∀ location, (record location)[locationColumn]? = some (.text location) := fun location =>
    Row.getElem?_ofList_of_mem (by simp) List.mem_cons_self
  have hup := stays_inside layout "id" (hrecord "tab/../../doc") write (by decide +kernel) s
  have hdown := stays_inside layout "id" (hrecord "tab//./doc") write (by decide +kernel) s
  obtain ⟨e, hcode, -, hrun⟩ := hup.1.refused (by decide)
  have hnames : namesOf write.content write.stamp = names := by decide +kernel
  have hstored : write.reply s = .ok write.record := by decide +kernel
  have hstart : (write.action.attempt.run s).2.state.start "bodies/" = .ok ["bodies"] := by decide +kernel
  obtain ⟨-, base, hbase, hnode⟩ := hup.2.place hstored
  obtain rfl : ["bodies"] = base := Except.ok.inj (hstart.symm.trans hbase)
  exact ⟨⟨e, hcode, hrun⟩, (hdown.1.path (by decide)).1.trans (by decide), hnames ▸ hup.2.path, hnames ▸ hnode⟩

end Body.FileBodies

end SparseRows
