import SparseRows.Proofs.Files.Growth

/-!
# Paths below a directory

A path that neither starts at the top or at a dot nor goes up anywhere leads straight down, by the names between its
slashes. Below a directory it leads through what the directory's path leads through and then through these names
(`components_below`), and so it ends by these names below the place of the directory (`resolve_below`).
-/

namespace SparseRows

namespace Files

/-- Whether a path may lead elsewhere than down from where it starts: it starts at the top or at the place itself, or it
goes up. -/
def Strays (path : String) : Prop :=
  path.toList.head? = some '/' ∨ (segments path.toList).head? = some ['.'] ∨ ['.', '.'] ∈ segments path.toList

instance (path : String) : Decidable (Strays path) :=
  inferInstanceAs (Decidable (_ ∨ _ ∨ _))

/-- Whether a segment is more than a doubled slash or a dot inside a path. -/
def leads (segment : List Char) : Bool :=
  segment ≠ [] ∧ segment ≠ ['.']

/-- The names that a path leads down by, if it does not stray. -/
def namesIn (path : String) : List String :=
  ((segments path.toList).filter leads).map String.ofList

/-- Segments none of which goes up stand for the names among them. -/
theorem filterMap_ofSegment {parts : List (List Char)} (h : ['.', '.'] ∉ parts) :
    parts.filterMap Component.ofSegment = (parts.filter leads).map Component.name := by
  induction parts with
  | nil => rfl
  | cons part parts ih =>
    rw [List.mem_cons, not_or] at h
    have hrest := ih h.2
    by_cases hleads : leads part
    · have hpart : Component.ofSegment part = some (.name part) := by
        have hplain : ¬(part = [] ∨ part = ['.']) := by simpa [leads] using hleads
        rw [Component.ofSegment, if_neg hplain, if_neg (Ne.symm h.1)]
      rw [List.filterMap_cons_some hpart, List.filter_cons_of_pos hleads, List.map_cons, hrest]
    · have hpart : Component.ofSegment part = none := by
        refine if_pos ?_
        by_contra hplain
        exact hleads (by simpa [leads] using hplain)
      rw [List.filterMap_cons_none hpart, List.filter_cons_of_neg hleads, hrest]

/-- The names in a path are the components that its segments mean. -/
theorem map_name_namesIn (path : String) :
    (namesIn path).map (fun name => Component.name name.toList) = ((segments path.toList).filter leads).map Component.name := by
  rw [namesIn, List.map_map]
  exact List.map_congr_left fun part _ => congrArg Component.name String.toList_ofList

/-- A path that does not stray has only names for parts. -/
theorem components_of_not_strays {path : String} (h : ¬Strays path) :
    components path.toList = (namesIn path).map fun name => .name name.toList := by
  obtain ⟨htop, hhere, hup⟩ := not_or.mp h |>.imp_right not_or.mp
  rw [map_name_namesIn, ← filterMap_ofSegment hup, components, if_neg htop, if_neg hhere]

/-- The paths that lead straight down are those that do not stray. -/
theorem descends_eq_false_iff (path : String) : descends path = false ↔ Strays path := by
  constructor
  · intro hdescends
    by_contra hstrays
    have hall : descends path = true := by
      rw [descends, components_of_not_strays hstrays, List.all_map, List.all_eq_true]
      exact fun _ _ => rfl
    rw [hdescends] at hall
    cases hall
  · intro hstrays
    have hpart : ∃ part ∈ components path.toList, part.isName = false := by
      rcases hstrays with htop | hhere | hup
      · exact ⟨.top, by simp [components, htop], rfl⟩
      · by_cases htop : path.toList.head? = some '/'
        · exact ⟨.top, by simp [components, htop], rfl⟩
        · exact ⟨.here, by simp [components, htop, hhere], rfl⟩
      · have hinner : Component.up ∈ (segments path.toList).filterMap Component.ofSegment :=
          List.mem_filterMap.mpr ⟨['.', '.'], hup, rfl⟩
        refine ⟨.up, ?_, rfl⟩
        unfold components
        dsimp only
        split
        · exact List.mem_cons_of_mem _ hinner
        · split
          · exact List.mem_cons_of_mem _ hinner
          · exact hinner
    obtain ⟨part, hmem, hname⟩ := hpart
    exact List.all_eq_false.mpr ⟨part, hmem, by rw [hname]; exact Bool.false_ne_true⟩

/-- What a path that does not stray leads down by are names. -/
theorem isName_of_mem_namesIn {path : String} (h : ¬Strays path) : ∀ name ∈ namesIn path, IsName name := by
  intro name hname
  obtain ⟨part, hpart, rfl⟩ := List.mem_map.mp hname
  obtain ⟨hmem, hleads⟩ := List.mem_filter.mp hpart
  have hplain : part ≠ [] ∧ part ≠ ['.'] := by simpa [leads] using hleads
  have hof : ∀ other : String, part ≠ other.toList → String.ofList part ≠ other := fun other hother heq =>
    hother (heq ▸ String.toList_ofList.symm)
  refine ⟨hof "" hplain.1, hof "." hplain.2, hof ".." ?_, ?_⟩
  · rintro rfl
    exact h (.inr (.inr hmem))
  · rw [String.toList_ofList]
    exact slash_notMem_of_mem_segments hmem

/-- Names with slashes between them are the names that they lead down by. -/
theorem namesIn_intercalate {names : List String} (hnames : ∀ name ∈ names, IsName name) (hsome : names ≠ []) :
    namesIn ("/".intercalate names) = names := by
  have hleads : ∀ part ∈ names.map String.toList, leads part = true := by
    intro part hpart
    obtain ⟨name, hname, rfl⟩ := List.mem_map.mp hpart
    have hempty : name.toList ≠ "".toList := fun heq => (hnames name hname).notEmpty (String.toList_inj.mp heq)
    have hdot : name.toList ≠ ".".toList := fun heq => (hnames name hname).notHere (String.toList_inj.mp heq)
    exact decide_eq_true ⟨hempty, hdot⟩
  rw [namesIn, segments_intercalate hnames hsome, List.filter_eq_self.mpr hleads, List.map_map]
  exact (List.map_congr_left fun name _ => String.ofList_toList).trans (List.map_id names)

/-! ## Below a directory -/

/-- The segments of a path below a directory are those on the way to the directory and those of the path. The way to a
directory is its path but for a slash at the end. -/
theorem exists_segments_below {root : String} (hroot : root ≠ "") (path : String) :
    ∃ way, way ≠ [] ∧ segments (below root path).toList = way ++ segments path.toList ∧
      (segments root.toList = way ∨ segments root.toList = way ++ [[]]) := by
  have hslash : "/".toList = ['/'] := rfl
  have hempty : root.isEmpty = false := by simpa using hroot
  by_cases hlast : root.toList.getLast? = some '/'
  · obtain ⟨above, habove⟩ := List.getLast?_eq_some_iff.mp hlast
    refine ⟨segments above, segments_ne_nil _, ?_, .inr ?_⟩
    · rw [below, if_pos (by simp [hlast]), String.toList_append, habove, List.append_assoc, List.singleton_append, segments_append]
    · rw [habove, segments_append]
      rfl
  · refine ⟨segments root.toList, segments_ne_nil _, ?_, .inl rfl⟩
    rw [below, if_neg (by simp [hempty, hlast]), String.toList_append, String.toList_append, hslash, List.append_assoc,
      List.singleton_append, segments_append]

/-- Below nowhere a path leads to where it leads itself. -/
theorem below_empty (path : String) : below "" path = path := by
  rw [below, if_pos (by simp), String.empty_append]

/-- A path below a directory starts as the path of the directory does. -/
theorem head?_below {root : String} (hroot : root ≠ "") (path : String) :
    (below root path).toList.head? = root.toList.head? := by
  have hsome : root.toList ≠ [] := fun heq => hroot (String.toList_inj.mp heq)
  unfold below
  split
  · rw [String.toList_append, List.head?_append_of_ne_nil _ hsome]
  · rw [String.toList_append, String.toList_append, List.append_assoc, List.head?_append_of_ne_nil _ hsome]

/-- A path that does not stray leads, below a directory, through the parts of the directory's path and then through its
names. -/
theorem components_below (root : String) {path : String} (h : ¬Strays path) :
    components (below root path).toList = components root.toList ++ (namesIn path).map fun name => .name name.toList := by
  by_cases hroot : root = ""
  · subst hroot
    rw [below_empty, components_of_not_strays h]
    rfl
  obtain ⟨-, -, hup⟩ := not_or.mp h |>.imp_right not_or.mp
  obtain ⟨way, hway, hpath, hdirectory⟩ := exists_segments_below hroot path
  have hinner : (segments root.toList).filterMap Component.ofSegment = way.filterMap Component.ofSegment := by
    rcases hdirectory with hdirectory | hdirectory
    · rw [hdirectory]
    · rw [hdirectory, List.filterMap_append]
      exact List.append_nil _
  have hfirst : (segments (below root path).toList).head? = (segments root.toList).head? := by
    rw [hpath, List.head?_append_of_ne_nil _ hway]
    rcases hdirectory with hdirectory | hdirectory
    · rw [hdirectory]
    · rw [hdirectory, List.head?_append_of_ne_nil _ hway]
  rw [map_name_namesIn, ← filterMap_ofSegment hup, components, components, head?_below hroot, hfirst, hinner, hpath,
    List.filterMap_append]
  split
  · rfl
  · split <;> rfl

end Files

namespace FileTree

open Files

/-- The place where a path that starts in a directory sets out. The empty path is that of the place where one is. -/
def start (tree : FileTree) (directory : String) : Except IoError (List String) :=
  if directory = "" then .ok [] else tree.resolve directory

/-- Only from a directory there is a step. -/
theorem node?_of_step {tree : FileTree} {place next : List String} {segment : String} (h : tree.step place segment = .ok next) :
    tree.node? place = some .directory := by
  unfold step at h
  split at h
  · cases h
  · cases h
  · cases h
  · assumption

/-- Segments none of which goes up lead to a place further down by the names among them. -/
theorem eq_append_of_foldlM_step {tree : FileTree} {parts : List (List Char)} (hup : ['.', '.'] ∉ parts) {base place : List String}
    (h : (parts.map String.ofList).foldlM tree.step base = .ok place) :
    place = base ++ (parts.filter leads).map String.ofList := by
  induction parts generalizing base with
  | nil =>
    cases h
    exact (List.append_nil place).symm
  | cons part parts ih =>
    rw [List.mem_cons, not_or] at hup
    rw [List.map_cons, List.foldlM_cons] at h
    obtain ⟨next, hstep, hrest⟩ := bind_eq_ok_iff.mp h
    have hplace := ih hup.2 hrest
    rw [step, node?_of_step hstep] at hstep
    have hof : ∀ other : String, String.ofList part = other ↔ part = other.toList := fun other => by
      rw [← String.toList_inj, String.toList_ofList]
    have hparent : String.ofList part ≠ ".." := fun heq => hup.1 ((hof "..").mp heq).symm
    by_cases hleads : leads part
    · have hplain : part ≠ [] ∧ part ≠ ['.'] := by simpa [leads] using hleads
      have hname : ¬(String.ofList part = "" ∨ String.ofList part = ".") := by
        rw [hof "", hof "."]
        exact not_or.mpr hplain
      dsimp only at hstep
      rw [if_neg hname, if_neg hparent] at hstep
      split at hstep
      · cases hstep
      · cases hstep
        rw [hplace, List.filter_cons_of_pos hleads, List.map_cons, List.append_assoc, List.singleton_append]
    · have hname : String.ofList part = "" ∨ String.ofList part = "." := by
        rw [hof "", hof "."]
        by_contra hplain
        exact hleads (by simpa [leads] using hplain)
      dsimp only at hstep
      rw [if_pos hname] at hstep
      cases hstep
      rw [hplace, List.filter_cons_of_neg hleads]

/-- What can be read of a path below a directory, can be read of the path of the directory. -/
theorem readPath_of_below {root path : String} (hroot : root ≠ "") {parts : List String}
    (h : readPath (below root path) = .ok parts) : readPath root = .ok ((segments root.toList).map String.ofList) := by
  obtain ⟨hnul, -, hlength, -⟩ := readPath_eq_ok_iff.mp h
  have hprefix : ∃ more, below root path = root ++ more := by
    unfold below
    split
    · exact ⟨path, rfl⟩
    · exact ⟨"/" ++ path, String.append_assoc⟩
  obtain ⟨more, hmore⟩ := hprefix
  rw [hmore, String.toList_append, List.mem_append, not_or] at hnul
  rw [hmore, String.utf8ByteSize_append] at hlength
  exact readPath_eq_ok_iff.mpr ⟨hnul.1, hroot, by omega, rfl⟩

/-- A path that does not stray leads, below a directory, to a place that lies below the place of the directory by its names. -/
theorem resolve_below {tree : FileTree} {root path : String} (h : ¬Strays path) {place : List String}
    (hplace : tree.resolve (below root path) = .ok place) : ∃ base, tree.start root = .ok base ∧ place = base ++ namesIn path := by
  obtain ⟨-, -, hup⟩ := not_or.mp h |>.imp_right not_or.mp
  obtain ⟨parts, hparts, hway⟩ := bind_eq_ok_iff.mp hplace
  have hread := (readPath_eq_ok_iff.mp hparts).2.2.2
  by_cases hroot : root = ""
  · subst hroot
    rw [hread, below_empty] at hway
    exact ⟨[], rfl, eq_append_of_foldlM_step hup hway⟩
  obtain ⟨way, -, hpath, hdirectory⟩ := exists_segments_below hroot path
  rw [hread, hpath, List.map_append, List.foldlM_append] at hway
  obtain ⟨base, hbase, hrest⟩ := bind_eq_ok_iff.mp hway
  refine ⟨base, ?_, eq_append_of_foldlM_step hup hrest⟩
  rw [start, if_neg hroot]
  refine bind_eq_ok_iff.mpr ⟨_, readPath_of_below hroot hparts, ?_⟩
  rcases hdirectory with hdirectory | hdirectory
  · rw [hdirectory]
    exact hbase
  · -- The slash at the end of the directory's path asks for a directory, as the first step from there has done.
    obtain ⟨first, more, hsegments⟩ := List.exists_cons_of_ne_nil (segments_ne_nil path.toList)
    rw [hsegments, List.map_cons, List.foldlM_cons] at hrest
    obtain ⟨next, hstep, -⟩ := bind_eq_ok_iff.mp hrest
    rw [hdirectory, List.map_append, List.foldlM_append]
    refine bind_eq_ok_iff.mpr ⟨base, hbase, ?_⟩
    rw [List.map_singleton, List.foldlM_cons]
    refine bind_eq_ok_iff.mpr ⟨base, ?_, rfl⟩
    rw [step, node?_of_step hstep]
    rfl

end FileTree

end SparseRows
