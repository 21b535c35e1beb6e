import SparseRows.Proofs.Files.Names

/-!
# What becomes of a file tree

A tree only grows but for the files that are written anew. Making directories leaves everything where it is (`Extends`), and
writing a file leaves everything but files of its name (`KeepsBut`). A path leads where it led as long as the directories on the
way are there, so a file of a name that no later file has is found again as it was (`FileAt.keep`).
-/

namespace SparseRows.FileTree

open Files

/-- Everything in a tree is in another one too. -/
def Extends (tree tree' : FileTree) : Prop :=
  ∀ place node, tree.node? place = some node → tree'.node? place = some node

/-- Everything in a tree but for files of a name is in another one too. -/
def KeepsBut (name : String) (tree tree' : FileTree) : Prop :=
  ∀ place node, node = .directory ∨ place.getLast? ≠ some name → tree.node? place = some node → tree'.node? place = some node

/-- A path leads to a file of a name, which holds some bytes. -/
def FileAt (tree : FileTree) (path name : String) (bytes : Bytes) : Prop :=
  ∃ place, tree.resolve path = .ok place ∧ place.getLast? = some name ∧ tree.node? place = some (.ofBytes bytes)

/-- Work that goes on where a result is one succeeds if it is and the rest succeeds. -/
theorem bind_eq_ok_iff {ε α β : Type} {result : Except ε α} {f : α → Except ε β} {b : β} :
    (result >>= f) = .ok b ↔ ∃ a, result = .ok a ∧ f a = .ok b := by
  cases result with
  | error e =>
    constructor
    · intro h
      cases h
    · rintro ⟨a, ha, -⟩
      cases ha
  | ok a => exact ⟨fun h => ⟨a, rfl, h⟩, fun ⟨_, ha, h⟩ => Except.ok.inj ha ▸ h⟩

theorem Extends.refl (tree : FileTree) : Extends tree tree :=
  fun _ _ h => h

theorem Extends.trans {a b c : FileTree} (h : Extends a b) (h' : Extends b c) : Extends a c :=
  fun place node hnode => h' place node (h place node hnode)

/-- A tree that has all of another one keeps it but for any name. -/
theorem Extends.keepsBut {tree tree' : FileTree} (h : Extends tree tree') (name : String) : KeepsBut name tree tree' :=
  fun place node _ hnode => h place node hnode

theorem KeepsBut.trans {name : String} {a b c : FileTree} (h : KeepsBut name a b) (h' : KeepsBut name b c) : KeepsBut name a c :=
  fun place node hkept hnode => h' place node hkept (h place node hkept hnode)

/-- A node is found where it was put, and the others where they were. The top is always a directory. -/
theorem node?_put (tree : FileTree) (place other : List String) (node : FileNode) :
    (tree.put place node).node? other =
      if other = [] then some .directory else if place = other then some node else tree.node? other := by
  simp only [node?, put, Std.ExtTreeMap.getElem?_insert, Std.LawfulEqOrd.compare_eq_iff_eq]
  split <;> rfl

/-! ## Making directories -/

/-- Putting something where nothing is takes nothing away. -/
theorem extends_put {tree : FileTree} {place : List String} (h : tree.node? place = none) (node : FileNode) :
    Extends tree (tree.put place node) := by
  intro other found hfound
  rw [node?_put]
  split
  · rename_i hother
    rw [hother, node?, if_pos rfl] at hfound
    exact hfound
  · rw [if_neg]
    · exact hfound
    · rintro rfl
      rw [h] at hfound
      cases hfound

/-- Making a directory removes nothing. -/
theorem extends_makeDirectory {tree tree' : FileTree} {way : List String} (h : tree.makeDirectory way = .ok tree') :
    Extends tree tree' := by
  have hput : ∀ place, (if (tree.node? place).isSome then throw .alreadyExists else pure (tree.put place .directory)) =
      (.ok tree' : Except IoError FileTree) → Extends tree tree' := by
    intro place hplace
    split at hplace
    · cases hplace
    · rename_i hnone
      cases hplace
      exact extends_put (by simpa using hnone) .directory
  obtain ⟨above, -, hmade⟩ := bind_eq_ok_iff.mp h
  dsimp only at hmade
  split at hmade
  · obtain ⟨place, -, hmade⟩ := bind_eq_ok_iff.mp hmade
    exact hput place hmade
  · obtain ⟨place, -, hmade⟩ := bind_eq_ok_iff.mp hmade
    exact hput place hmade

/-- Nor does making sure that there is one. -/
theorem extends_ensureDirectory {tree tree' : FileTree} {way : List String} (h : tree.ensureDirectory way = .ok tree') :
    Extends tree tree' := by
  unfold ensureDirectory at h
  split at h
  · split at h
    · cases h
      exact .refl tree
    · cases h
  · exact extends_makeDirectory h

/-- Nor does making directories along a way, even one that fails half-way. -/
theorem extends_makeAlong (tree : FileTree) (ways : List (List String)) : Extends tree (tree.makeAlong ways).1 := by
  induction ways with
  | nil => exact .refl tree
  | cons way ways ih =>
    unfold makeAlong
    split
    · rename_i hmade
      exact extends_ensureDirectory hmade
    · split
      · rename_i hfailed
        rw [hfailed] at ih
        exact ih
      · rename_i hmade
        rw [hmade] at ih
        split
        · rename_i hall
          exact ih.trans (extends_ensureDirectory hall)
        · exact ih
    · exact .refl tree

/-- Making directories takes nothing away, whether it fails or not. -/
theorem extends_makeDirectories (tree : FileTree) (path : String) : Extends tree (tree.makeDirectories path).1 := by
  unfold makeDirectories
  split
  · exact .refl tree
  · exact extends_makeAlong tree _

/-! ## Following paths -/

/-- A step to a name leads one name further. -/
theorem getLast?_of_step {tree : FileTree} {name : String} (hname : IsName name) {place next : List String}
    (hstep : tree.step place name = .ok next) : next.getLast? = some name := by
  unfold step at hstep
  split at hstep
  · cases hstep
  · cases hstep
  · cases hstep
  · rw [if_neg (not_or.mpr ⟨hname.notEmpty, hname.notHere⟩), if_neg hname.notUp] at hstep
    split at hstep
    · cases hstep
    · cases hstep
      exact List.getLast?_concat

/-- A step leads where it led while the directories are there. -/
theorem KeepsBut.step_eq {name : String} {tree tree' : FileTree} (h : KeepsBut name tree tree') {place next : List String}
    {segment : String} (hstep : tree.step place segment = .ok next) : tree'.step place segment = .ok next := by
  unfold step at hstep ⊢
  split at hstep
  · cases hstep
  · cases hstep
  · cases hstep
  · rename_i hdirectory
    rw [h place _ (.inl rfl) hdirectory]
    exact hstep

/-- A way that leads somewhere leads there still when the tree keeps what it had. -/
theorem KeepsBut.foldlM_step_eq {name : String} {tree tree' : FileTree} (h : KeepsBut name tree tree') {segments : List String}
    {place last : List String} (hway : segments.foldlM tree.step place = .ok last) :
    segments.foldlM tree'.step place = .ok last := by
  induction segments generalizing place with
  | nil => exact hway
  | cons segment segments ih =>
    rw [List.foldlM_cons] at hway ⊢
    obtain ⟨next, hstep, hrest⟩ := bind_eq_ok_iff.mp hway
    exact bind_eq_ok_iff.mpr ⟨next, h.step_eq hstep, ih hrest⟩

/-- A path leads where it led while the directories are there. -/
theorem KeepsBut.resolve_eq {name : String} {tree tree' : FileTree} (h : KeepsBut name tree tree') {path : String}
    {place : List String} (hpath : tree.resolve path = .ok place) : tree'.resolve path = .ok place := by
  obtain ⟨segments, hsegments, hway⟩ := bind_eq_ok_iff.mp hpath
  exact bind_eq_ok_iff.mpr ⟨segments, hsegments, h.foldlM_step_eq hway⟩

/-- Which paths may be followed, and by which segments. -/
theorem readPath_eq_ok_iff {path : String} {parts : List String} :
    readPath path = .ok parts ↔
      '\x00' ∉ path.toList ∧ path ≠ "" ∧ path.utf8ByteSize ≤ pathLimit ∧
        parts = (Files.segments path.toList).map String.ofList := by
  constructor
  · intro h
    unfold readPath at h
    split at h
    · cases h
    rename_i hnul
    split at h
    · cases h
    rename_i hsome
    split at h
    · cases h
    rename_i hlength
    cases h
    exact ⟨by simpa using hnul, by simpa using hsome, Nat.le_of_not_lt hlength, rfl⟩
  · rintro ⟨hnul, hsome, hlength, rfl⟩
    rw [readPath, if_neg (by simpa using hnul), if_neg (by simpa using hsome), if_neg (Nat.not_lt.mpr hlength)]

/-- A path that ends in a name leads to a place of this name. -/
theorem getLast?_of_resolve {tree : FileTree} {above name : String} (hname : IsName name) {place : List String}
    (hpath : tree.resolve (above ++ "/" ++ name) = .ok place) : place.getLast? = some name := by
  obtain ⟨segments, hsegments, hway⟩ := bind_eq_ok_iff.mp hpath
  have hlast : segments = (Files.segments above.toList).map String.ofList ++ [name] := by
    have hslash : "/".toList = ['/'] := rfl
    rw [(readPath_eq_ok_iff.mp hsegments).2.2.2, String.toList_append, String.toList_append, hslash, List.append_assoc,
      List.singleton_append, segments_append, segments_of_notMem hname.noSlash, List.map_append, List.map_singleton,
      String.ofList_toList]
  rw [hlast, List.foldlM_append] at hway
  obtain ⟨directory, -, hstep⟩ := bind_eq_ok_iff.mp hway
  obtain ⟨last, hstep, hdone⟩ := bind_eq_ok_iff.mp hstep
  cases hdone
  exact getLast?_of_step hname hstep

/-- A file of a name that is not written stays. -/
theorem FileAt.keep {tree tree' : FileTree} {path name other : String} {bytes : Bytes} (h : FileAt tree path name bytes)
    (hkeeps : KeepsBut other tree tree') (hother : name ≠ other) : FileAt tree' path name bytes := by
  obtain ⟨place, hpath, hlast, hnode⟩ := h
  refine ⟨place, hkeeps.resolve_eq hpath, hlast, hkeeps place _ (.inr ?_) hnode⟩
  rw [hlast, Ne, Option.some.injEq]
  exact hother

/-- A file can be looked up. -/
theorem FileAt.lookUp_eq {tree : FileTree} {path name : String} {bytes : Bytes} (h : FileAt tree path name bytes) :
    tree.lookUp path = .ok (.ofBytes bytes) := by
  obtain ⟨place, hpath, -, hnode⟩ := h
  refine bind_eq_ok_iff.mpr ⟨place, hpath, ?_⟩
  rw [hnode]
  rfl

/-- Writing a file puts it there and leaves everything but files of its name. -/
theorem fileAt_of_writeFile {tree tree' : FileTree} {above name : String} {bytes : Bytes} (hname : IsName name)
    (h : tree.writeFile (above ++ "/" ++ name) bytes = .ok tree') :
    FileAt tree' (above ++ "/" ++ name) name bytes ∧ KeepsBut name tree tree' := by
  obtain ⟨place, hpath, h⟩ := bind_eq_ok_iff.mp h
  split at h
  · cases h
  rename_i hdirectory
  cases h
  have hlast := getLast?_of_resolve hname hpath
  have hsome : place ≠ [] := by
    rintro rfl
    cases hlast
  have hkeeps : KeepsBut name tree (tree.put place (.ofBytes bytes)) := by
    intro other node hkept hnode
    rw [node?_put]
    split
    · rename_i hother
      rw [hother, node?, if_pos rfl] at hnode
      exact hnode
    · split
      · rename_i hplace
        subst hplace
        rcases hkept with rfl | hkept
        · exact absurd hnode hdirectory
        · exact absurd hlast hkept
      · exact hnode
  refine ⟨⟨place, hkeeps.resolve_eq hpath, hlast, ?_⟩, hkeeps⟩
  rw [node?_put, if_neg hsome, if_pos rfl]

end SparseRows.FileTree
