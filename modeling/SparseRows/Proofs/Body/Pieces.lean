import SparseRows.Body.Source

/-!
# The pieces of a body

A list is cut into pieces of one size, of which only the last may be shorter. The sets that a source is read in are the
pieces of the pieces of what it delivers (`blockSets_of_ends`), however its reads cut or interrupt it.
-/

namespace SparseRows.Body

/-! ## Cutting a list -/

/-- The pieces of a list. A size of zero counts as one. -/
def pieces {α : Type} (size : Nat) : List α → List (List α)
  | [] => []
  | x :: xs => (x :: xs.take (size - 1)) :: pieces size (xs.drop (size - 1))
termination_by xs => xs.length
decreasing_by simp only [List.length_drop, List.length_cons]; omega

variable {α : Type} {size : Nat}

@[simp] theorem pieces_nil : pieces size ([] : List α) = [] := by
  rw [pieces]

/-- The first piece is as long as it can be. -/
theorem pieces_of_ne_nil (hsize : 0 < size) {xs : List α} (h : xs ≠ []) :
    pieces size xs = xs.take size :: pieces size (xs.drop size) := by
  obtain ⟨size, rfl⟩ : ∃ n, size = n + 1 := ⟨size - 1, by omega⟩
  cases xs with
  | nil => exact absurd rfl h
  | cons x xs => rw [pieces, Nat.add_sub_cancel, List.take_succ_cons, List.drop_succ_cons]

/-- What is not longer than a piece is one. -/
theorem pieces_of_le (hsize : 0 < size) {xs : List α} (h : xs ≠ []) (hle : xs.length ≤ size) : pieces size xs = [xs] := by
  rw [pieces_of_ne_nil hsize h, List.take_of_length_le hle, List.drop_of_length_le hle, pieces_nil]

/-- Nothing is lost and nothing moved. -/
theorem flatten_pieces (xs : List α) : (pieces size xs).flatten = xs := by
  induction xs using pieces.induct size with
  | case1 => rw [pieces_nil, List.flatten_nil]
  | case2 x xs ih => rw [pieces, List.flatten_cons, ih, List.cons_append, List.take_append_drop]

/-- A piece holds something, and at most as much as its size. -/
theorem length_of_mem_pieces (hsize : 0 < size) {xs piece : List α} (h : piece ∈ pieces size xs) :
    0 < piece.length ∧ piece.length ≤ size := by
  induction xs using pieces.induct size with
  | case1 => simp at h
  | case2 x xs ih =>
    rw [pieces, List.mem_cons] at h
    rcases h with rfl | h
    · rw [List.length_cons, List.length_take]
      omega
    · exact ih h

/-- A number of full pieces at the start are cut from the rest. -/
theorem pieces_take_append_drop (hsize : 0 < size) (n : Nat) {xs : List α} (h : n * size ≤ xs.length) :
    pieces size xs = pieces size (xs.take (n * size)) ++ pieces size (xs.drop (n * size)) := by
  induction n generalizing xs with
  | zero => simp
  | succ n ih =>
    have hexpand : (n + 1) * size = size + n * size := by rw [Nat.add_mul, Nat.one_mul, Nat.add_comm]
    rw [hexpand] at h ⊢
    have hne : xs ≠ [] := List.ne_nil_of_length_pos (by omega)
    have htake : xs.take (size + n * size) ≠ [] := List.ne_nil_of_length_pos (by rw [List.length_take]; omega)
    have hdrop : n * size ≤ (xs.drop size).length := by
      rw [List.length_drop]
      omega
    rw [pieces_of_ne_nil hsize hne, pieces_of_ne_nil hsize htake, ih hdrop, List.take_take, List.drop_take,
      List.drop_drop, Nat.min_eq_left (Nat.le_add_right _ _), Nat.add_sub_cancel_left, List.cons_append]

/-- The number of pieces, which is that of whole pieces and one more for what is left. -/
theorem length_pieces (hsize : 0 < size) (xs : List α) : (pieces size xs).length = (xs.length + size - 1) / size := by
  induction xs using pieces.induct size with
  | case1 =>
    rw [pieces_nil, List.length_nil, List.length_nil, Nat.zero_add, Nat.div_eq_of_lt (by omega)]
  | case2 x xs ih =>
    rw [pieces, List.length_cons, ih, List.length_drop, List.length_cons]
    by_cases hle : xs.length < size
    · have hrest : xs.length - (size - 1) = 0 := by omega
      have hsum : xs.length + 1 + size - 1 = xs.length + size := by omega
      rw [hrest, hsum, Nat.zero_add, Nat.div_eq_of_lt (by omega), Nat.add_div_right _ hsize, Nat.div_eq_of_lt hle]
    · have hrest : xs.length - (size - 1) + size - 1 = xs.length := by omega
      have hsum : xs.length + 1 + size - 1 = xs.length + size := by omega
      rw [hrest, hsum, Nat.add_div_right _ hsize]

/-- There are no more pieces than there is to cut. -/
theorem length_pieces_le (xs : List α) : (pieces size xs).length ≤ xs.length := by
  induction xs using pieces.induct size with
  | case1 => simp
  | case2 x xs ih =>
    rw [pieces, List.length_cons, List.length_cons]
    rw [List.length_drop] at ih
    omega

/-- A piece is no longer than what it is cut from. -/
theorem length_le_of_mem_pieces {xs piece : List α} (h : piece ∈ pieces size xs) : piece.length ≤ xs.length := by
  have hsub := (List.sublist_flatten_of_mem h).length_le
  rwa [flatten_pieces] at hsub

/-- The piece of a number is the stretch of the list behind so many whole pieces, if there is anything. -/
theorem getElem?_pieces (hsize : 0 < size) (xs : List α) (index : Nat) :
    (pieces size xs)[index]? = if index * size < xs.length then some ((xs.drop (index * size)).take size) else none := by
  induction index generalizing xs with
  | zero =>
    by_cases hnil : xs = []
    · simp [hnil]
    · rw [pieces_of_ne_nil hsize hnil, List.getElem?_cons_zero, Nat.zero_mul, if_pos (List.length_pos_iff.mpr hnil), List.drop_zero]
  | succ index ih =>
    by_cases hnil : xs = []
    · simp [hnil]
    · have hexpand : (index + 1) * size = size + index * size := by rw [Nat.add_mul, Nat.one_mul, Nat.add_comm]
      have hrest : index * size < xs.length - size ↔ size + index * size < xs.length := by omega
      rw [pieces_of_ne_nil hsize hnil, List.getElem?_cons_succ, ih, List.length_drop, List.drop_drop, hexpand]
      simp only [hrest]

/-- Every piece but the last is full. -/
theorem length_of_getElem?_pieces (hsize : 0 < size) {xs piece : List α} {index : Nat} (h : (pieces size xs)[index]? = some piece)
    (hnext : index + 1 < (pieces size xs).length) : piece.length = size := by
  have hlater : (index + 1) * size < xs.length := by
    have hsome := List.getElem?_eq_getElem hnext
    rw [getElem?_pieces hsize] at hsome
    split at hsome
    · assumption
    · cases hsome
  rw [Nat.add_mul, Nat.one_mul] at hlater
  rw [getElem?_pieces hsize, if_pos (by omega), Option.some.injEq] at h
  rw [← h, List.length_take, List.length_drop]
  omega

/-- The number of pieces of pieces, which is that of whole pieces of pieces and one more for what is left. -/
theorem length_pieces_pieces {count : Nat} (hsize : 0 < size) (hcount : 0 < count) (xs : List α) :
    (pieces count (pieces size xs)).length = (xs.length + size * count - 1) / (size * count) := by
  have hsum : (xs.length + size - 1) / size + count - 1 = (xs.length + size * count - 1) / size := by
    obtain ⟨count, rfl⟩ : ∃ n, count = n + 1 := ⟨count - 1, by omega⟩
    have hexpand : xs.length + size * (count + 1) - 1 = xs.length + size - 1 + size * count := by
      rw [Nat.mul_succ]
      omega
    rw [hexpand, Nat.add_mul_div_left _ _ hsize]
    rfl
  rw [length_pieces hcount, length_pieces hsize, hsum, Nat.div_div_eq_div_mul]

/-! ## What a source is read in -/

namespace Source

variable {count : Nat}

/-- A set is full if the source delivers enough for it. The rest is what is left. -/
theorem blockSet_of_le (hsize : 0 < size) {source : Source} (h : count * size ≤ source.contents.1.length) :
    ∃ left, source.blockSet size count = .ok (pieces size (source.contents.1.take (count * size)), some left) ∧
      left.contents = (source.contents.1.drop (count * size), source.contents.2) := by
  induction count generalizing source with
  | zero => exact ⟨source, by simp [blockSet], by simp⟩
  | succ count ih =>
    have hexpand : (count + 1) * size = size + count * size := by rw [Nat.add_mul, Nat.one_mul, Nat.add_comm]
    rw [hexpand] at h ⊢
    have hfirst : size ≤ source.contents.1.length := by omega
    obtain ⟨rest, hfill, hrest⟩ := fill_of_le hfirst
    have hlength : (source.contents.1.take size).length = size := by
      rw [List.length_take]
      omega
    have hle : count * size ≤ rest.contents.1.length := by
      rw [hrest, List.length_drop]
      omega
    obtain ⟨left, hset, hleft⟩ := ih hle
    have htake : source.contents.1.take (size + count * size) ≠ [] :=
      List.ne_nil_of_length_pos (by rw [List.length_take]; omega)
    refine ⟨left, ?_, ?_⟩
    · rw [pieces_of_ne_nil hsize htake, List.take_take, Nat.min_eq_left (Nat.le_add_right _ _), List.drop_take,
        Nat.add_sub_cancel_left]
      rw [hrest] at hset
      simp [blockSet, hfill, hset, bind, Except.bind, hlength, pure, Except.pure]
    · rw [hleft, hrest, List.drop_drop]

/-- A source that delivers too little for a set gives all that it delivers as the last set, or fails in it. -/
theorem blockSet_of_lt (hsize : 0 < size) {source : Source} (h : source.contents.1.length < count * size) :
    source.blockSet size count =
      match source.contents.2 with
      | none => .ok (pieces size source.contents.1, none)
      | some text => .error text := by
  induction count generalizing source with
  | zero => simp at h
  | succ count ih =>
    rw [Nat.add_mul, Nat.one_mul, Nat.add_comm] at h
    by_cases hle : size ≤ source.contents.1.length
    · obtain ⟨rest, hfill, hrest⟩ := fill_of_le hle
      have hlength : (source.contents.1.take size).length = size := by
        rw [List.length_take]
        omega
      have hshort : rest.contents.1.length < count * size := by
        rw [hrest, List.length_drop]
        omega
      have hset := ih hshort
      rw [hrest] at hset
      rw [pieces_of_ne_nil hsize (List.ne_nil_of_length_pos (by omega))]
      cases hend : source.contents.2 <;> rw [hend] at hset <;>
        simp [blockSet, hfill, hset, bind, Except.bind, hlength, pure, Except.pure]
    · have hlt : source.contents.1.length < size := by omega
      have hfill := fill_of_lt hlt
      cases hend : source.contents.2 with
      | some text =>
        rw [hend] at hfill
        simp [blockSet, hfill, bind, Except.bind]
      | none =>
        rw [hend] at hfill
        obtain ⟨left, hfill⟩ := hfill
        by_cases hnil : source.contents.1 = []
        · simp [blockSet, hfill, bind, Except.bind, hnil, hsize, pure, Except.pure]
        · rw [pieces_of_le hsize hnil (by omega)]
          simp [blockSet, hfill, bind, Except.bind, hlt, hnil, pure, Except.pure]

/-- The sets of a source, from what its first set is. -/
theorem blockSets_eq (hsize : 0 < size) (source : Source) :
    source.blockSets hsize count =
      match source.blockSet size count with
      | .error text => ([], some text)
      | .ok ([], _) => ([], none)
      | .ok (block :: blocks, none) => ([block :: blocks], none)
      | .ok (block :: blocks, some left) =>
        ((block :: blocks) :: (left.blockSets hsize count).1, (left.blockSets hsize count).2) := by
  rw [blockSets]
  split
  · rename_i h
    rw [h]
  · rename_i h
    rw [h]
  · rename_i blocks hne h
    rw [h]
    cases blocks with
    | nil => exact absurd rfl hne
    | cons block blocks => rfl
  · rename_i block blocks left h
    simp only [h]

/-- If a source delivers enough for a set, this is the first, and the others are those of what is left. -/
theorem blockSets_of_le (hsize : 0 < size) (hcount : 0 < count) {source : Source}
    (h : count * size ≤ source.contents.1.length) :
    ∃ left : Source, left.contents = (source.contents.1.drop (count * size), source.contents.2) ∧
      source.blockSets hsize count =
        (pieces size (source.contents.1.take (count * size)) :: (left.blockSets hsize count).1,
          (left.blockSets hsize count).2) := by
  obtain ⟨left, hset, hleft⟩ := blockSet_of_le hsize h
  refine ⟨left, hleft, ?_⟩
  have hpos : 0 < count * size := Nat.mul_pos hcount hsize
  have hne : source.contents.1.take (count * size) ≠ [] := List.ne_nil_of_length_pos (by rw [List.length_take]; omega)
  rw [blockSets_eq, hset, pieces_of_ne_nil hsize hne]

/-- The pieces of the pieces of a list that is longer than a set: the first set, and those of the rest. -/
theorem pieces_pieces (hsize : 0 < size) (hcount : 0 < count) {xs : Bytes} (h : count * size ≤ xs.length) :
    pieces count (pieces size xs) =
      pieces size (xs.take (count * size)) :: pieces count (pieces size (xs.drop (count * size))) := by
  have hlength : (pieces size (xs.take (count * size))).length = count := by
    have hsum : count * size + size - 1 = (size - 1) + count * size := by omega
    rw [length_pieces hsize, List.length_take, Nat.min_eq_left h, hsum, Nat.add_mul_div_right _ _ hsize,
      Nat.div_eq_of_lt (by omega), Nat.zero_add]
  have hne : pieces size (xs.take (count * size)) ≠ [] := List.ne_nil_of_length_pos (by omega)
  rw [pieces_take_append_drop hsize count h, pieces_of_ne_nil hcount (List.append_ne_nil_of_left_ne_nil hne _),
    List.take_left' hlength, List.drop_left' hlength]

/-- The pieces of the pieces of a list, as far as they are full: each is cut from its own stretch of the list. -/
theorem getElem?_pieces_pieces (hsize : 0 < size) (hcount : 0 < count) {xs : Bytes} {index : Nat}
    (h : (index + 1) * (count * size) ≤ xs.length) :
    (pieces count (pieces size xs))[index]? = some (pieces size ((xs.drop (index * (count * size))).take (count * size))) := by
  induction index generalizing xs with
  | zero =>
    rw [Nat.zero_add, Nat.one_mul] at h
    rw [pieces_pieces hsize hcount h, List.getElem?_cons_zero, Nat.zero_mul, List.drop_zero]
  | succ index ih =>
    have hexpand : (index + 1) * (count * size) = count * size + index * (count * size) := by rw [Nat.succ_mul, Nat.add_comm]
    rw [Nat.succ_mul] at h
    have hrest : (index + 1) * (count * size) ≤ (xs.drop (count * size)).length := by
      rw [List.length_drop]
      omega
    rw [pieces_pieces hsize hcount (by omega), List.getElem?_cons_succ, ih hrest, List.drop_drop, hexpand]

/-- The sets of a source that ends are the pieces of the pieces of what it delivers. -/
theorem blockSets_of_ends (hsize : 0 < size) (hcount : 0 < count) {source : Source} (hends : source.contents.2 = none) :
    source.blockSets hsize count = (pieces count (pieces size source.contents.1), none) := by
  induction hn : source.contents.1.length using Nat.strongRecOn generalizing source with
  | ind n ih =>
    have hpos : 0 < count * size := Nat.mul_pos hcount hsize
    by_cases hle : count * size ≤ source.contents.1.length
    · obtain ⟨left, hleft, hsets⟩ := blockSets_of_le hsize hcount hle
      have hshorter : left.contents.1.length < n := by
        rw [hleft, List.length_drop]
        omega
      have hend : left.contents.2 = none := by rw [hleft]; exact hends
      have hlater := ih _ hshorter hend rfl
      rw [hsets, hlater, hleft, pieces_pieces hsize hcount hle]
    · have hset := blockSet_of_lt hsize (Nat.not_le.mp hle)
      rw [hends] at hset
      by_cases hnil : source.contents.1 = []
      · rw [blockSets_eq, hset, hnil, pieces_nil, pieces_nil]
      · have hlength : (pieces size source.contents.1).length ≤ count := by
          rw [length_pieces hsize]
          exact Nat.le_of_lt_succ (Nat.div_lt_of_lt_mul (by rw [Nat.mul_succ, Nat.mul_comm]; omega))
        rw [blockSets_eq, hset]
        rw [pieces_of_ne_nil hsize hnil] at hlength ⊢
        rw [pieces_of_le hcount (List.cons_ne_nil _ _) hlength]

/-- The sets of a source that fails are the full ones before the failure. -/
theorem blockSets_of_fails (hsize : 0 < size) (hcount : 0 < count) {source : Source} {text : String}
    (hfails : source.contents.2 = some text) :
    source.blockSets hsize count =
      (pieces count (pieces size
        (source.contents.1.take (source.contents.1.length / (count * size) * (count * size)))), some text) := by
  induction hn : source.contents.1.length using Nat.strongRecOn generalizing source with
  | ind n ih =>
    have hpos : 0 < count * size := Nat.mul_pos hcount hsize
    by_cases hle : count * size ≤ source.contents.1.length
    · obtain ⟨left, hleft, hsets⟩ := blockSets_of_le hsize hcount hle
      have hrest : left.contents.1.length = n - count * size := by rw [hleft, List.length_drop, hn]
      have hend : left.contents.2 = some text := by rw [hleft]; exact hfails
      have hlater := ih _ (by omega) hend hrest
      have hwhole : n / (count * size) * (count * size) = count * size + (n - count * size) / (count * size) * (count * size) := by
        rw [Nat.div_eq_sub_div hpos (by omega), Nat.add_mul, Nat.one_mul, Nat.add_comm]
      have hfull : count * size ≤ (source.contents.1.take (n / (count * size) * (count * size))).length := by
        have := Nat.div_mul_le_self n (count * size)
        rw [List.length_take]
        omega
      rw [pieces_pieces hsize hcount hfull, hwhole, List.take_take, Nat.min_eq_left (Nat.le_add_right _ _), List.drop_take,
        Nat.add_sub_cancel_left, hsets, hlater, hleft]
    · have hset := blockSet_of_lt hsize (Nat.not_le.mp hle)
      rw [hfails] at hset
      rw [blockSets_eq, hset, Nat.div_eq_of_lt (by omega), Nat.zero_mul, List.take_zero, pieces_nil, pieces_nil]

end Source

end SparseRows.Body
