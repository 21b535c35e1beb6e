import Mathlib.Data.List.Basic
import SparseRows.Body.Files

/-!
# Names and places

A name is a text that stands for one place in a directory. Whatever the name space and the table of a body are called, they
are made names, so the place of the body is five names down from the root (`components_locationOf`) and is accepted by the
reader (`descends_locationOf`).
-/

namespace SparseRows

namespace Files

/-- Whether a text stands for one place in a directory. -/
structure IsName (s : String) : Prop where
  notEmpty : s ≠ ""
  notHere : s ≠ "."
  notUp : s ≠ ".."
  noSlash : '/' ∉ s.toList

/-- A text that has no dot and no slash is a name unless it is empty. -/
theorem isName_of_notMem {s : String} (hempty : s ≠ "") (hdot : '.' ∉ s.toList) (hslash : '/' ∉ s.toList) : IsName s where
  notEmpty := hempty
  notHere := by
    rintro rfl
    exact hdot (by decide)
  notUp := by
    rintro rfl
    exact hdot (by decide)
  noSlash := hslash

/-- Every text is made a name. -/
theorem isName_nameOf (s : String) : IsName (nameOf s) := by
  have hslash : '/' ∉ s.toList.map fun c => if c = '/' ∨ c = '\\' then '_' else c := by
    intro hmem
    obtain ⟨c, -, hc⟩ := List.mem_map.mp hmem
    split at hc
    · exact absurd hc (by decide)
    · rename_i hother
      exact hother (.inl hc)
  unfold nameOf
  dsimp only
  split
  · rename_i hspecial
    rcases hspecial with h | h | h <;> rw [h] <;> exact ⟨by decide, by decide, by decide, by decide⟩
  · rename_i hplain
    simp only [not_or] at hplain
    exact ⟨hplain.1, hplain.2.1, hplain.2.2, by rwa [String.toList_ofList]⟩

/-! ## Segments -/

/-- A text without a slash is one segment. -/
theorem segments_of_notMem {cs : List Char} (h : '/' ∉ cs) : segments cs = [cs] := by
  induction cs with
  | nil => rfl
  | cons c cs ih =>
    rw [List.mem_cons, not_or] at h
    rw [segments, if_neg (Ne.symm h.1), ih h.2]

/-- A slash parts the segments before it from those behind it. -/
theorem segments_append (cs cs' : List Char) : segments (cs ++ '/' :: cs') = segments cs ++ segments cs' := by
  induction cs with
  | nil => exact if_pos rfl
  | cons c cs ih =>
    rw [List.cons_append, segments, segments, ih]
    split
    · rfl
    · cases h : segments cs with
      | nil => exact absurd h (segments_ne_nil cs)
      | cons segment more => rfl

/-- A path from the top has an empty segment first. -/
theorem head?_segments_of_slash {cs : List Char} (h : cs.head? = some '/') : (segments cs).head? = some [] := by
  obtain ⟨rest, rfl⟩ := List.head?_eq_some_iff.mp h
  rw [segments, if_pos rfl, List.head?_cons]

/-- The segments of names with slashes between them. -/
theorem segments_intercalate {names : List String} (hnames : ∀ name ∈ names, IsName name) (hsome : names ≠ []) :
    segments ("/".intercalate names).toList = names.map String.toList := by
  rw [String.toList_intercalate]
  induction names with
  | nil => exact absurd rfl hsome
  | cons name names ih =>
    have hname := segments_of_notMem (hnames name List.mem_cons_self).noSlash
    cases names with
    | nil => simpa using hname
    | cons next names =>
      have hslash : "/".toList = ['/'] := rfl
      have hrest := ih (fun other hother => hnames other (List.mem_cons_of_mem _ hother)) (List.cons_ne_nil _ _)
      rw [hslash] at hrest ⊢
      rw [List.map_cons, List.map_cons, List.intercalate_cons_cons, List.append_assoc, List.singleton_append, segments_append,
        hname, ← List.map_cons, hrest]
      rfl

/-- The part that a name stands for is the name. -/
theorem IsName.ofSegment {name : String} (h : IsName name) : Component.ofSegment name.toList = some (.name name.toList) := by
  have hne : ∀ other : String, name ≠ other → name.toList ≠ other.toList := fun other hother heq =>
    hother (String.toList_inj.mp heq)
  have hempty : name.toList ≠ [] := hne "" h.notEmpty
  have hhere : name.toList ≠ ['.'] := hne "." h.notHere
  have hup : name.toList ≠ ['.', '.'] := hne ".." h.notUp
  rw [Component.ofSegment, if_neg (not_or.mpr ⟨hempty, hhere⟩), if_neg hup]

/-- The parts of names with slashes between them are the names. -/
theorem components_intercalate {names : List String} (hnames : ∀ name ∈ names, IsName name) (hsome : names ≠ []) :
    components ("/".intercalate names).toList = names.map fun name => .name name.toList := by
  have hsegments := segments_intercalate hnames hsome
  have hinner : (names.map String.toList).filterMap Component.ofSegment = names.map fun name => .name name.toList := by
    rw [List.filterMap_map, ← List.filterMap_eq_map]
    exact List.filterMap_congr fun name hname => (hnames name hname).ofSegment
  obtain ⟨first, names, rfl⟩ := List.exists_cons_of_ne_nil hsome
  have hfirst := (hnames first List.mem_cons_self).ofSegment
  -- The first name neither is empty, as it would be behind a leading slash, nor is it a leading dot.
  have htop : ("/".intercalate (first :: names)).toList.head? ≠ some '/' := by
    intro hhead
    have hempty := head?_segments_of_slash hhead
    rw [hsegments, List.map_cons, List.head?_cons, Option.some.injEq] at hempty
    rw [hempty] at hfirst
    cases hfirst
  have hhere : (segments ("/".intercalate (first :: names)).toList).head? ≠ some ['.'] := by
    rw [hsegments, List.map_cons, List.head?_cons, Ne, Option.some.injEq]
    intro hdot
    rw [hdot] at hfirst
    cases hfirst
  rw [components, hsegments, hinner, if_neg htop, if_neg (hsegments ▸ hhere)]

/-- What is further down a path is further down below a directory too. -/
theorem below_append (directory path name : String) :
    below directory (path ++ "/" ++ name) = below directory path ++ "/" ++ name := by
  unfold below
  split <;> simp only [String.append_assoc]

end Files

namespace Body.FileBodies

open Files

/-- A number with leading zeros is a name. -/
theorem isName_padded (width n : Nat) : IsName (padded width n) := by
  have hdigit : ∀ c ∈ (padded width n).toList, c.isDigit := by
    intro c hc
    rw [padded, String.toList_ofList, List.leftpad, List.mem_append] at hc
    rcases hc with hc | hc
    · rw [List.eq_of_mem_replicate hc]
      rfl
    · exact Nat.isDigit_of_mem_toDigits (by decide) (by decide) hc
  have hsome : padded width n ≠ "" := by
    intro hempty
    have hnil : (Nat.toDigits 10 n).leftpad width '0' = [] := String.ofList_eq_empty_iff.mp hempty
    exact Nat.toDigits_ne_nil (List.append_eq_nil_iff.mp hnil).2
  exact isName_of_notMem hsome (fun hdot => absurd (hdigit '.' hdot) (by decide))
    fun hslash => absurd (hdigit '/' hslash) (by decide)

/-- The names on the way to a body, from the root down. -/
def namesOf (content : RowKey) (stamp : Stamp) : List String :=
  [nameOf content.space, nameOf content.table, padded 4 stamp.year, padded 2 stamp.month, stamp.name]

/-- The place of a body is made of five names with slashes between them. -/
theorem locationOf_eq (content : RowKey) (stamp : Stamp) : locationOf content stamp = "/".intercalate (namesOf content stamp) :=
  rfl

/-- The names on the way to a body are names. -/
theorem isName_of_mem_namesOf {content : RowKey} {stamp : Stamp} (hname : IsName stamp.name) :
    ∀ name ∈ namesOf content stamp, IsName name := by
  simp [namesOf, isName_nameOf, isName_padded, hname]

/-- The place of a body leads down by five names. -/
theorem components_locationOf (content : RowKey) {stamp : Stamp} (hname : IsName stamp.name) :
    components (locationOf content stamp).toList = (namesOf content stamp).map fun name => .name name.toList := by
  rw [locationOf_eq]
  exact components_intercalate (isName_of_mem_namesOf hname) (List.cons_ne_nil _ _)

/-- The reader accepts the place of a body. -/
theorem descends_locationOf (content : RowKey) {stamp : Stamp} (hname : IsName stamp.name) :
    descends (locationOf content stamp) = true := by
  rw [descends, components_locationOf content hname, List.all_map, List.all_eq_true]
  exact fun _ _ => rfl

end Body.FileBodies

end SparseRows
