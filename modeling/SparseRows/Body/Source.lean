import SparseRows.Value

/-!
# Sources of bytes

A source is read piece by piece. A read gives bytes of one chunk at most, it may be interrupted and tried again, and it may
fail. A read that gives nothing means to the reader that the source has ended. `contents` says what a source delivers in
all; `fill` and `blockSets` read it the way a body is stored, in blocks of one size and sets of so many blocks. `fill_of_le`
and `fill_of_lt` say that a buffer depends on what is delivered alone, not on how the reads cut or interrupt it.
-/

namespace SparseRows.Body

/-- What reads of a source meet. -/
inductive Chunk where
  /-- Bytes, taken by one read or by several; no bytes are one read that gives nothing. -/
  | bytes (bytes : Bytes)
  /-- A read that is interrupted and gives nothing, which does not mean the end. -/
  | interrupted
  /-- A read that fails. -/
  | failed (text : String)
  deriving DecidableEq, Repr

/-- What is still to be read. After the last chunk reads give nothing. -/
abbrev Source := List Chunk

namespace Source

/-- The bytes that a source delivers, and the failure that ends them unless they end by themselves. -/
def contents : Source → Bytes × Option String
  | [] => ([], none)
  | .bytes [] :: _ => ([], none)
  | .bytes (b :: bs) :: rest => (b :: bs ++ (contents rest).1, (contents rest).2)
  | .interrupted :: rest => contents rest
  | .failed text :: _ => ([], some text)

/-- Reads until a buffer is full or the source ends, and gives what was read and what is left. -/
def fill : Nat → Source → Except String (Bytes × Source)
  | _, [] => .ok ([], [])
  | room, chunk :: rest =>
    if room = 0 then .ok ([], chunk :: rest)
    else
      match chunk with
      | .bytes [] => .ok ([], rest)
      | .bytes bs =>
        if !(bs.drop room).isEmpty then .ok (bs.take room, .bytes (bs.drop room) :: rest)
        else (fill (room - bs.length) rest).map fun (more, left) => (bs ++ more, left)
      | .interrupted => fill room rest
      | .failed text => .error text

/-- Something remains of bytes exactly if there are more than are taken. -/
theorem isEmpty_drop {room : Nat} {bs : Bytes} : (!(bs.drop room).isEmpty) = decide (room < bs.length) := by
  rw [Bool.eq_iff_iff]
  simp

/-- The number of bytes in the chunks of a source. -/
def size : Source → Nat
  | [] => 0
  | .bytes bs :: rest => bs.length + size rest
  | _ :: rest => size rest

/-- What a buffer takes, its source no longer has: a read takes at least the bytes that it gives. -/
theorem size_fill {room : Nat} {source left : Source} {bytes : Bytes} (h : source.fill room = .ok (bytes, left)) :
    bytes.length + left.size ≤ source.size := by
  induction source generalizing room bytes left with
  | nil => simp_all [fill, size]
  | cons chunk rest ih =>
    simp only [fill] at h
    split at h
    · simp_all
    · cases chunk with
      | bytes bs =>
        cases bs with
        | nil =>
          simp only [Except.ok.injEq, Prod.mk.injEq] at h
          simp [← h.1, ← h.2, size]
        | cons b bs =>
          dsimp only at h
          split at h
          · simp only [Except.ok.injEq, Prod.mk.injEq] at h
            simp only [← h.1, ← h.2, size, List.length_take, List.length_drop]
            omega
          · cases hf : fill (room - (b :: bs).length) rest with
            | error text =>
              rw [hf] at h
              exact nomatch h
            | ok result =>
              obtain ⟨more, left'⟩ := result
              rw [hf] at h
              simp only [Except.map, Except.ok.injEq, Prod.mk.injEq] at h
              have := ih hf
              simp only [← h.1, ← h.2, size, List.length_append]
              omega
      | interrupted => simpa [size] using ih h
      | failed text => simp at h

/-- A set of blocks, and what is left unless the source has ended. The source ends with a block that is not full, which is
empty if the source ends where a block does. -/
def blockSet (blockSize : Nat) : Nat → Source → Except String (List Bytes × Option Source)
  | 0, source => .ok ([], some source)
  | count + 1, source => do
    let (block, left) ← source.fill blockSize
    if block.length < blockSize then return (if block.isEmpty then [] else [block], none)
    let (blocks, left) ← blockSet blockSize count left
    return (block :: blocks, left)

/-- Nor does a source still have what a set of full blocks has taken from it. -/
theorem size_blockSet {blockSize count : Nat} {source left : Source} {blocks : List Bytes}
    (h : source.blockSet blockSize count = .ok (blocks, some left)) :
    blocks.length * blockSize + left.size ≤ source.size := by
  induction count generalizing source blocks with
  | zero => simp_all [blockSet]
  | succ count ih =>
    simp only [blockSet, bind, Except.bind] at h
    split at h
    · exact nomatch h
    · rename_i hf
      have := size_fill hf
      split at h
      · simp [pure, Except.pure] at h
      · rename_i hfull
        split at h
        · exact nomatch h
        · rename_i result hs
          obtain ⟨more, left'⟩ := result
          simp only [pure, Except.pure, Except.ok.injEq, Prod.mk.injEq] at h
          obtain rfl := h.2
          have := ih hs
          simp only [← h.1, List.length_cons, Nat.add_mul]
          omega

/-- The sets of blocks in a source, and the failure that cut them short. What was read of a set when the failure came is
lost. -/
def blockSets {blockSize : Nat} (pos : 0 < blockSize) (count : Nat) (source : Source) : List (List Bytes) × Option String :=
  match h : source.blockSet blockSize count with
  | .error text => ([], some text)
  | .ok ([], _) => ([], none)
  | .ok (blocks, none) => ([blocks], none)
  | .ok (block :: blocks, some left) =>
    have : left.size < source.size := by
      have := size_blockSet h
      simp only [List.length_cons, Nat.add_mul] at this
      omega
    let (sets, failure) := left.blockSets pos count
    ((block :: blocks) :: sets, failure)
termination_by source.size

/-! ## What filling depends on -/

/-- A read delivers its bytes before those that come after it. -/
theorem contents_bytes {bytes : Bytes} (h : bytes ≠ []) (rest : Source) :
    contents (.bytes bytes :: rest) = (bytes ++ (contents rest).1, (contents rest).2) := by
  cases bytes with
  | nil => exact absurd rfl h
  | cons b bs => rfl

/-- A read fills the buffer, and what does not fit is read again; or there is room left for what comes after it. -/
theorem fill_bytes {room : Nat} {bytes : Bytes} (hroom : room ≠ 0) (h : bytes ≠ []) (rest : Source) :
    fill room (.bytes bytes :: rest) =
      if room < bytes.length then .ok (bytes.take room, .bytes (bytes.drop room) :: rest)
      else (fill (room - bytes.length) rest).map fun (more, left) => (bytes ++ more, left) := by
  cases bytes with
  | nil => exact absurd rfl h
  | cons b bs => simp [fill, hroom, isEmpty_drop]

/-- A read that is interrupted is tried again. -/
theorem fill_interrupted {room : Nat} (hroom : room ≠ 0) (rest : Source) :
    fill room (.interrupted :: rest) = fill room rest := by
  simp [fill, hroom]

/-- A buffer is filled with the first bytes that the source delivers, however its reads cut them, and what is left delivers the
others. -/
theorem fill_of_le {room : Nat} {source : Source} (h : room ≤ source.contents.1.length) :
    ∃ left, source.fill room = .ok (source.contents.1.take room, left) ∧
      left.contents = (source.contents.1.drop room, source.contents.2) := by
  induction source generalizing room with
  | nil => simp_all [contents, fill]
  | cons chunk rest ih =>
    by_cases hroom : room = 0
    · subst hroom
      exact ⟨chunk :: rest, by simp [fill], by simp⟩
    cases chunk with
    | bytes bs =>
      by_cases hbs : bs = []
      · simp_all [contents]
      rw [contents_bytes hbs] at h ⊢
      rw [fill_bytes hroom hbs]
      by_cases hlt : room < bs.length
      · have hdrop : bs.drop room ≠ [] := fun h0 => absurd (List.drop_eq_nil_iff.mp h0) (by omega)
        refine ⟨.bytes (bs.drop room) :: rest, ?_, ?_⟩
        · rw [if_pos hlt, List.take_append_of_le_length (Nat.le_of_lt hlt)]
        · rw [contents_bytes hdrop, List.drop_append_of_le_length (Nat.le_of_lt hlt)]
      · rw [List.length_append] at h
        have hle : room - bs.length ≤ (contents rest).1.length := by omega
        obtain ⟨left, hfill, hleft⟩ := ih hle
        refine ⟨left, ?_, ?_⟩
        · rw [if_neg hlt, hfill, List.take_append, List.take_of_length_le (Nat.not_lt.mp hlt)]
          rfl
        · rw [hleft, List.drop_append, List.drop_of_length_le (Nat.not_lt.mp hlt), List.nil_append]
    | interrupted =>
      rw [fill_interrupted hroom]
      exact ih h
    | failed text => simp_all [contents]

/-- A source that delivers too little for a buffer ends or fails before the buffer is full. -/
theorem fill_of_lt {room : Nat} {source : Source} (h : source.contents.1.length < room) :
    match source.contents.2 with
    | none => ∃ left, source.fill room = .ok (source.contents.1, left)
    | some text => source.fill room = .error text := by
  induction source generalizing room with
  | nil => simp [contents, fill]
  | cons chunk rest ih =>
    have hroom : room ≠ 0 := Nat.ne_of_gt (Nat.lt_of_le_of_lt (Nat.zero_le _) h)
    cases chunk with
    | bytes bs =>
      by_cases hbs : bs = []
      · simp [hbs, contents, fill, hroom]
      rw [contents_bytes hbs] at h ⊢
      rw [List.length_append] at h
      have hshort : (contents rest).1.length < room - bs.length := by omega
      have hih := ih hshort
      rw [fill_bytes hroom hbs, if_neg (by omega)]
      dsimp only
      cases hend : (contents rest).2 with
      | none =>
        simp only [hend] at hih ⊢
        obtain ⟨left, hfill⟩ := hih
        exact ⟨left, by rw [hfill]; rfl⟩
      | some text =>
        simp only [hend] at hih ⊢
        rw [hih]
        rfl
    | interrupted =>
      rw [fill_interrupted hroom]
      exact ih h
    | failed text => simp [contents, fill, hroom]

end Source

end SparseRows.Body
