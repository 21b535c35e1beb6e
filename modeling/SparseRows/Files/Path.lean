/-!
# Paths

A path is a text of names between slashes. `segments` gives what stands between the slashes; `components` gives what the
segments mean: slashes next to each other and a dot inside a path mean nothing, while a leading slash, a leading dot and two
dots do.
-/

namespace SparseRows.Files

/-- What stands between the slashes of a path, in order. -/
def segments : List Char → List (List Char)
  | [] => [[]]
  | c :: rest =>
    if c = '/' then [] :: segments rest
    else
      match segments rest with
      | [] => [[c]]
      | segment :: more => (c :: segment) :: more

/-- A part of a path. -/
inductive Component where
  /-- The top of the tree. -/
  | top
  /-- The place itself. -/
  | here
  /-- The directory above. -/
  | up
  | name (cs : List Char)
  deriving DecidableEq, Repr

/-- The part that a segment stands for behind another one, if any. -/
def Component.ofSegment (segment : List Char) : Option Component :=
  if segment = [] ∨ segment = ['.'] then none
  else if segment = ['.', '.'] then some .up
  else some (.name segment)

/-- The parts of a path. -/
def components (path : List Char) : List Component :=
  let inner := (segments path).filterMap Component.ofSegment
  if path.head? = some '/' then .top :: inner
  else if (segments path).head? = some ['.'] then .here :: inner
  else inner

/-- Whether a part is a name. -/
def Component.isName : Component → Bool
  | name _ => true
  | _ => false

/-- Whether a path leads straight down from where it starts. -/
def descends (path : String) : Bool :=
  (components path.toList).all Component.isName

/-- The path of a place that is given by a path from a directory down. -/
def below (directory path : String) : String :=
  if directory.isEmpty || directory.toList.getLast? == some '/' then directory ++ path else directory ++ "/" ++ path

/-- A text as a name of one place: slashes of both kinds make no levels, and the name is not empty and neither of the two that
stand for other places. -/
def nameOf (s : String) : String :=
  let cleaned := String.ofList (s.toList.map fun c => if c = '/' ∨ c = '\\' then '_' else c)
  if cleaned = "" ∨ cleaned = "." ∨ cleaned = ".." then "_" ++ cleaned else cleaned

/-- A path has at least one segment. -/
theorem segments_ne_nil (path : List Char) : segments path ≠ [] := by
  cases path with
  | nil => simp [segments]
  | cons c rest =>
    simp only [segments]
    split
    · simp
    · split <;> simp

/-- No segment holds a slash. -/
theorem slash_notMem_of_mem_segments {path segment : List Char} (h : segment ∈ segments path) : '/' ∉ segment := by
  induction path generalizing segment with
  | nil => simp_all [segments]
  | cons c rest ih =>
    simp only [segments] at h
    split at h
    · rcases List.mem_cons.mp h with rfl | h
      · simp
      · exact ih h
    · rename_i hc
      split at h
      · simp_all [Ne.symm hc]
      · rename_i first more heq
        rcases List.mem_cons.mp h with rfl | h
        · have : '/' ∉ first := ih (by simp [heq])
          simp_all [Ne.symm hc]
        · exact ih (by simp [heq, h])

end SparseRows.Files
