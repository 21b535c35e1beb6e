import Mathlib.Data.Set.BooleanAlgebra
import Mathlib.Data.Set.Disjoint
import Mathlib.Order.CompletePartialOrder
import SparseRows.Proofs.Content.SaveCycle

/-!
# Editors of one row

Several items are made from one stored row and are edited and saved in any order, each by an editor of its own. Saving reads
the row back, so the baseline of an item comes to hold what others have saved, and what others save later makes it stale.
What carries the argument is `Owns`: an item changes properties of its own names only, and under these its baseline is what
is stored, for no one else stores there. So a save writes no column of another editor, and no edit drops out of an overlay
that is not stored already (`Progress`, kept by one move and from that by all). Once all have saved, the row has every last
edit (`merges_of_saved`).
-/

namespace SparseRows

/-- The property that an edit is of. -/
def Edit.name : Edit → String
  | set name _ | unset name => name

/-- The value that an edit leaves in its property. -/
def Edit.value? : Edit → Option Value
  | set _ v => some v
  | unset _ => none

/-- What an editor does. -/
inductive EditorAct where
  | edit (edit : Edit)
  | save

namespace EditorAct

variable {ι : Type}

/-- The last edit that an editor makes of a property, if it makes one. -/
def lastEdit? [DecidableEq ι] (i : ι) (name : String) : List (ι × EditorAct) → Option Edit
  | [] => none
  | (j, edit e) :: moves => (lastEdit? i name moves).or (if j = i ∧ e.name = name then some e else none)
  | (_, save) :: moves => lastEdit? i name moves

/-- Whether every edit of an editor is followed by a save of this editor. -/
def SavesLast (i : ι) : List (ι × EditorAct) → Prop
  | [] => True
  | (j, edit _) :: moves => (j = i → (i, save) ∈ moves) ∧ SavesLast i moves
  | (_, save) :: moves => SavesLast i moves

/-- A later edit of a name decides, and where there is none the first move does. -/
theorem lastEdit?_cons [DecidableEq ι] (i : ι) (name : String) (move : ι × EditorAct) (moves : List (ι × EditorAct)) :
    lastEdit? i name (move :: moves) = (lastEdit? i name moves).or (lastEdit? i name [move]) := by
  obtain ⟨j, e | _⟩ := move
  · simp [lastEdit?]
  · simp [lastEdit?]

/-- An editor whose edits are all saved in the end has those behind the first move saved, too. -/
theorem SavesLast.tail {i : ι} {move : ι × EditorAct} {moves : List (ι × EditorAct)} (h : SavesLast i (move :: moves)) :
    SavesLast i moves := by
  obtain ⟨j, e | _⟩ := move
  · exact h.2
  · exact h

/-- An editor who does not save later does not edit now. -/
theorem SavesLast.head {i : ι} {move : ι × EditorAct} {moves : List (ι × EditorAct)} (h : SavesLast i (move :: moves))
    (hlater : (i, save) ∉ moves) : SavesLast i [move] := by
  obtain ⟨j, e | _⟩ := move
  · exact ⟨fun hj => absurd (h.1 hj) hlater, trivial⟩
  · trivial

end EditorAct

namespace Content

variable {content : Content} {names : Set String} {row : Row}

/-- Whether an item changes properties of some names only, and has what is stored under these as its baseline. The item is
stored and can be changed. -/
structure Owns (names : Set String) (content : Content) (row : Row) : Prop where
  writable : content.readOnly = false
  notNew : content.isNew = false
  overlay {name : String} (h : name ∉ names) : content.overlay.get? name = none
  baseline {name : String} (h : name ∈ names) : content.baseline[name]? = row[name]?

/-- Whether the properties of some names are stored. -/
def Settled (names : Set String) (content : Content) (row : Row) : Prop :=
  ∀ name ∈ names, row[name]? = content.property? name

/-- An item that was just read from the row owns any names. -/
theorem owns_ofStored (names : Set String) (path : String) (row structureRow : Row) (logger : Logger) :
    Owns names (ofStored path row structureRow false logger) row :=
  ⟨rfl, rfl, fun {name} _ => Changes.get?_empty name, fun _ => rfl⟩

/-- What others store under other names makes no difference. -/
theorem Owns.congr (h : content.Owns names row) {row' : Row} (hsame : ∀ name ∈ names, row'[name]? = row[name]?) :
    content.Owns names row' :=
  ⟨h.writable, h.notNew, h.overlay, fun hname => (h.baseline hname).trans (hsame _ hname).symm⟩

/-- Whether an editor is settled hangs on the columns of his names alone. -/
theorem Settled.congr (h : content.Settled names row) {row' : Row} (hsame : ∀ name ∈ names, row'[name]? = row[name]?) :
    content.Settled names row' :=
  fun name hname => (hsame name hname).trans (h name hname)

/-- An edit leaves the overlay of other names alone. -/
theorem get?_overlay_stage_of_ne {name other : String} (h : name ≠ other) (change : Change) :
    (content.stage name change).overlay.get? other = content.overlay.get? other := by
  unfold stage
  split
  · rw [Changes.get?_forget, if_neg h]
  · rw [Changes.get?_insert, if_neg h]

/-- An edit stages one change, which leaves the value that the edit is for. -/
theorem applyEdit_eq_stage (hwritable : content.readOnly = false) (e : Edit) :
    ∃ change : Change, content.applyEdit e = content.stage e.name change ∧ change.value? = e.value? := by
  cases e with
  | set name v => exact ⟨.put v, by simp [applyEdit, set, edit, hwritable, Edit.name], rfl⟩
  | unset name => exact ⟨.remove, by simp [applyEdit, unset, edit, hwritable, Edit.name], rfl⟩

/-- An edit decides the property that it is of and no other. -/
theorem property?_applyEdit (hwritable : content.readOnly = false) (e : Edit) (name : String) :
    (content.applyEdit e).property? name = if e.name = name then e.value? else content.property? name := by
  obtain ⟨change, hstage, hvalue⟩ := applyEdit_eq_stage hwritable e
  rw [hstage, property?_stage, hvalue]

/-- An edit of a name of his own leaves an editor with changes to his own names only. -/
theorem Owns.applyEdit (h : content.Owns names row) {e : Edit} (hname : e.name ∈ names) :
    (content.applyEdit e).Owns names row := by
  have hsame : SameButOverlay content (content.applyEdit e) := sameButOverlay_applyEdit e
  refine ⟨hsame.readOnly.trans h.writable, hsame.isNew.trans h.notNew, fun {other} hother => ?_, fun {other} hother => ?_⟩
  · obtain ⟨change, hstage, -⟩ := applyEdit_eq_stage h.writable e
    have hne : e.name ≠ other := fun heq => hother (heq ▸ hname)
    rw [hstage, get?_overlay_stage_of_ne hne, h.overlay hother]
  · rw [hsame.baseline, h.baseline hother]

/-- What an item has to store makes the properties of its own names of what is stored there. -/
theorem Owns.getElem?_applyTo_changes (h : content.Owns names row) {name : String} (hname : name ∈ names) :
    (content.changes.applyTo row)[name]? = content.property? name := by
  rw [Changes.getElem?_applyTo, changes_of_not_isNew h.notNew, property?, h.baseline hname]
  cases content.overlay.get? name <;> rfl

/-- What an item has to store leaves all other columns alone. -/
theorem Owns.getElem?_applyTo_changes_of_notMem (h : content.Owns names row) {name : String} (hname : name ∉ names) :
    (content.changes.applyTo row)[name]? = row[name]? := by
  rw [Changes.getElem?_applyTo, changes_of_not_isNew h.notNew, h.overlay hname]
  rfl

/-- An item that takes a row for its baseline. -/
def rebased (content : Content) (row : Row) : Content :=
  { content with baseline := row, overlay := .empty, isNew := false }

/-- An item that is read anew reads as the row. -/
theorem property?_rebased (content : Content) (row : Row) (name : String) : (content.rebased row).property? name = row[name]? := by
  rw [rebased, property?, Changes.get?_empty]

/-- An editor who has read the row anew has no changes. -/
theorem owns_rebased (hwritable : content.readOnly = false) (names : Set String) (row : Row) :
    (content.rebased row).Owns names row :=
  ⟨hwritable, rfl, fun {name} _ => Changes.get?_empty name, fun _ => rfl⟩

/-- Saving an item that can be changed makes its changes to the row and takes the row as it is then for its baseline. -/
theorem save_gives_rebased (hwritable : content.readOnly = false) (client : MemoryClient) (key : RowKey) (store : MemoryStore) :
    ∃ store', (content.save client.access key).Gives store
      (.ok (content.rebased (content.changes.applyTo (store.row key)))) store' ∧
      store'.row key = content.changes.applyTo (store.row key) := by
  obtain ⟨store', hstore, hrow⟩ :=
    content.storeIn_gives client.access_lawful key (s := store) rfl trivial fun _ _ _ => trivial
  rw [Row.mapValues_id] at hstore
  refine ⟨store', .bind hstore ?_, ?_⟩
  · rw [reset, if_neg (Bool.eq_false_iff.mp hwritable)]
    exact .toAction (.bind .log .pure)
  · rw [hrow, RowOp.effect, Function.update_self, Row.mapValues_id]

end Content

namespace Editors

open EditorAct

variable {ι : Type} [DecidableEq ι]

/-- What an editor makes of its item. -/
def act (client : MemoryClient) (key : RowKey) (content : Content) : EditorAct → Action MemoryStore StorageError Content
  | .edit e => return content.applyEdit e
  | .save => content.save client.access key

/-- One of the editors does something, by its own client. -/
def move (clients : ι → MemoryClient) (key : RowKey) (items : ι → Content) (move : ι × EditorAct) :
    Action MemoryStore StorageError (ι → Content) := do
  let content ← act (clients move.1) key (items move.1) move.2
  return Function.update items move.1 content

/-- The editors do something, one after the other. -/
def moveAll (clients : ι → MemoryClient) (key : RowKey) (items : ι → Content) (moves : List (ι × EditorAct)) :
    Action MemoryStore StorageError (ι → Content) :=
  moves.foldlM (move clients key) items

/-- What moves have made of the items and the row. The properties of an editor are those of before with the last edits, and
they are stored if they were before or the editor has saved, and has done so after its last edit. -/
structure Progress (names : ι → Set String) (moves : List (ι × EditorAct)) (items : ι → Content) (row : Row) (items' : ι → Content)
    (row' : Row) : Prop where
  owns (i : ι) : (items' i).Owns (names i) row'
  property (i : ι) {name : String} (h : name ∈ names i) :
    (items' i).property? name = (lastEdit? i name moves).elim ((items i).property? name) Edit.value?
  settled (i : ι) (h : (items i).Settled (names i) row ∨ (i, .save) ∈ moves) (hsaved : SavesLast i moves) :
    (items' i).Settled (names i) row'
  others {name : String} (h : ∀ i, name ∉ names i) : row'[name]? = row[name]?

variable {names : ι → Set String} {items items₁ items₂ : ι → Content} {row row₁ row₂ : Row}

theorem Progress.refl (h : ∀ i, (items i).Owns (names i) row) : Progress names [] items row items row where
  owns := h
  property _ _ _ := rfl
  settled _ h _ := h.elim id fun hsave => nomatch hsave
  others _ := rfl

/-- What one move makes and what the others make of that. -/
theorem Progress.cons {move : ι × EditorAct} {moves : List (ι × EditorAct)} (h : Progress names [move] items row items₁ row₁)
    (h' : Progress names moves items₁ row₁ items₂ row₂) : Progress names (move :: moves) items row items₂ row₂ where
  owns := h'.owns
  property i name hname := by
    rw [h'.property i hname, h.property i hname, lastEdit?_cons i name move moves]
    cases lastEdit? i name moves <;> rfl
  settled i hsettled hsaved := by
    -- If the editor saves later, this settles it; if not, it has not edited in the first move.
    by_cases hlater : (i, .save) ∈ moves
    · exact h'.settled i (.inr hlater) hsaved.tail
    · refine h'.settled i (.inl (h.settled i (hsettled.imp_right fun hsave => ?_) (hsaved.head hlater))) hsaved.tail
      rcases List.mem_cons.mp hsave with heq | hmem
      · exact heq ▸ List.mem_cons_self
      · exact absurd hmem hlater
  others hname := (h'.others hname).trans (h.others hname)

/-- An edit of one's own property is progress. -/
theorem progress_edit (h : ∀ i, (items i).Owns (names i) row) (i : ι) {e : Edit} (hname : e.name ∈ names i) :
    Progress names [(i, .edit e)] items row (Function.update items i ((items i).applyEdit e)) row where
  owns j := by
    by_cases hj : j = i
    · subst hj
      rw [Function.update_self]
      exact (h j).applyEdit hname
    · rw [Function.update_of_ne hj]
      exact h j
  property j name hj := by
    by_cases hji : j = i
    · subst hji
      rw [Function.update_self, Content.property?_applyEdit (h j).writable]
      by_cases he : e.name = name <;> simp [lastEdit?, he]
    · rw [Function.update_of_ne hji]
      simp [lastEdit?, Ne.symm hji]
  settled j hsettled hsaved := by
    by_cases hji : j = i
    · exact absurd (hsaved.1 hji.symm) (by simp)
    · rw [Function.update_of_ne hji]
      exact hsettled.elim id fun hsave => absurd hsave (by simp)
  others _ := rfl

/-- A save is progress, for the columns that it writes are those of no other editor. -/
theorem progress_save (hdisjoint : ∀ i j, i ≠ j → Disjoint (names i) (names j)) (h : ∀ i, (items i).Owns (names i) row) (i : ι) :
    let row' := (items i).changes.applyTo row
    Progress names [(i, .save)] items row (Function.update items i ((items i).rebased row')) row' := by
  intro row'
  -- What keeps the others' baselines and saved properties good: their names are not written.
  have hother : ∀ j, j ≠ i → ∀ name ∈ names j, row'[name]? = row[name]? := fun j hj name hname =>
    (h i).getElem?_applyTo_changes_of_notMem fun hmem => Set.disjoint_left.mp (hdisjoint j i hj) hname hmem
  refine ⟨fun j => ?_, fun j name hname => ?_, fun j hsettled _ => ?_, fun hname => ?_⟩
  · by_cases hj : j = i
    · subst hj
      rw [Function.update_self]
      exact Content.owns_rebased (h j).writable (names j) row'
    · rw [Function.update_of_ne hj]
      exact (h j).congr (hother j hj)
  · by_cases hj : j = i
    · subst hj
      rw [Function.update_self, Content.property?_rebased, (h j).getElem?_applyTo_changes hname]
      rfl
    · rw [Function.update_of_ne hj]
      rfl
  · by_cases hj : j = i
    · subst hj
      rw [Function.update_self]
      exact fun name _ => (Content.property?_rebased _ _ name).symm
    · rw [Function.update_of_ne hj]
      refine Content.Settled.congr (hsettled.elim id fun hsave => ?_) (hother j hj)
      simp only [List.mem_singleton, Prod.mk.injEq, and_true] at hsave
      exact absurd hsave hj
  · exact (h i).getElem?_applyTo_changes_of_notMem (hname i)

/-- Moves in any order make progress, if every editor edits its own properties only. -/
theorem moveAll_gives (clients : ι → MemoryClient) (key : RowKey) (hdisjoint : ∀ i j, i ≠ j → Disjoint (names i) (names j))
    {moves : List (ι × EditorAct)} (hnames : ∀ i e, (i, .edit e) ∈ moves → e.name ∈ names i) {store : MemoryStore}
    (h : ∀ i, (items i).Owns (names i) (store.row key)) :
    ∃ items' store', (moveAll clients key items moves).Gives store (.ok items') store' ∧
      Progress names moves items (store.row key) items' (store'.row key) := by
  induction moves generalizing items store with
  | nil => exact ⟨items, store, .pure, .refl h⟩
  | cons first moves ih =>
    have hfirst : ∃ items₁ store₁, (move clients key items first).Gives store (.ok items₁) store₁ ∧
        Progress names [first] items (store.row key) items₁ (store₁.row key) := by
      obtain ⟨i, e | _⟩ := first
      · exact ⟨_, store, .bind .pure .pure, progress_edit h i (hnames i e List.mem_cons_self)⟩
      · obtain ⟨store₁, hsave, hrow⟩ := Content.save_gives_rebased (h i).writable (clients i) key store
        exact ⟨_, store₁, .bind hsave .pure, hrow ▸ progress_save hdisjoint h i⟩
    obtain ⟨items₁, store₁, hmove, hprogress⟩ := hfirst
    obtain ⟨items₂, store₂, hmoves, hlater⟩ :=
      ih (fun i e hmem => hnames i e (List.mem_cons_of_mem _ hmem)) hprogress.owns
    refine ⟨items₂, store₂, ?_, hprogress.cons hlater⟩
    rw [moveAll, List.foldlM_cons]
    exact .bind hmove hmoves

/-- Whether a row is another one with the last edit that every editor has made of each of its properties. -/
structure Merges (names : ι → Set String) (moves : List (ι × EditorAct)) (original row : Row) : Prop where
  edited (i : ι) {name : String} (h : name ∈ names i) :
    row[name]? = (lastEdit? i name moves).elim original[name]? Edit.value?
  others {name : String} (h : ∀ i, name ∉ names i) : row[name]? = original[name]?

/-- No edit is lost: editors whose items are made from one stored row, and who edit properties of different names, edit and
save in any order, and once each of them has saved its last edit, the row is the original with the last edits of all. -/
theorem merges_of_saved (clients : ι → MemoryClient) (key : RowKey) (names : ι → Set String)
    (hdisjoint : ∀ i j, i ≠ j → Disjoint (names i) (names j)) (items : ι → Content) (s : Logged MemoryStore)
    (hloaded : ∀ i, ∃ path structureRow logger, items i = .ofStored path (s.state.row key) structureRow false logger)
    (moves : List (ι × EditorAct)) (hnames : ∀ i e, (i, .edit e) ∈ moves → e.name ∈ names i) (hsaved : ∀ i, SavesLast i moves) :
    ∃ items' s', (moveAll clients key items moves).attempt.run s = (.ok items', s') ∧
      Merges names moves (s.state.row key) (s'.state.row key) := by
  have howns : ∀ i, (items i).Owns (names i) (s.state.row key) := by
    intro i
    obtain ⟨path, structureRow, logger, hitem⟩ := hloaded i
    rw [hitem]
    exact Content.owns_ofStored ..
  have hproperty : ∀ i name, (items i).property? name = (s.state.row key)[name]? := by
    intro i name
    obtain ⟨path, structureRow, logger, hitem⟩ := hloaded i
    rw [hitem, Content.property?]
    rfl
  obtain ⟨items', store', hgives, hprogress⟩ := moveAll_gives clients key hdisjoint hnames howns
  obtain ⟨journal', hrun⟩ := hgives.attempt.run s.journal
  refine ⟨items', _, hrun, fun i name hname => ?_, hprogress.others⟩
  have hsettled := hprogress.settled i (.inl fun name _ => (hproperty i name).symm) (hsaved i)
  rw [hsettled name hname, hprogress.property i hname, hproperty]

/-- Two editors of a draft, one of its title and one of its count, save in turn. The title is changed, saved, changed back
and saved again after the count has been saved in between; the note that neither edits stays. -/
theorem merges_of_titleAndCount :
    let client : MemoryClient := .ofConfig {} .discard
    let key : RowKey := ⟨"ns", "content", "draft"⟩
    let draft : Row := Row.ofList [("title", .text "a"), ("count", .integer 1), ("note", .text "n")]
    let names : Bool → Set String := fun isFirst => if isFirst then {"title"} else {"count"}
    let moves : List (Bool × EditorAct) :=
      [(true, .edit (.set "title" (.text "b"))), (false, .edit (.unset "count")), (true, .save), (false, .save),
       (true, .edit (.set "title" (.text "a"))), (true, .save)]
    ∃ items' s', (moveAll (fun _ => client) key (fun _ => .ofStored "/draft" draft ∅ false .discard) moves).attempt.run
        ⟨(∅ : MemoryStore).insert key draft, {}⟩ = (.ok items', s') ∧
      Merges names moves draft (s'.state.row key) ∧ (s'.state.row key)["title"]? = some (.text "a") ∧
      (s'.state.row key)["count"]? = none ∧ (s'.state.row key)["note"]? = draft["note"]? := by
  intro client key draft names moves
  have hdraft : MemoryStore.row ((∅ : MemoryStore).insert key draft) key = draft := by
    rw [MemoryStore.row_insert, if_pos rfl]
  have happly := merges_of_saved (fun _ => client) key names ?_ (fun _ => .ofStored "/draft" draft ∅ false .discard)
    ⟨(∅ : MemoryStore).insert key draft, {}⟩ (fun _ => ⟨_, _, _, by rw [hdraft]⟩) moves ?_ ?_
  · obtain ⟨items', s', hrun, hmerges⟩ := happly
    rw [hdraft] at hmerges
    refine ⟨items', s', hrun, hmerges, ?_, ?_, ?_⟩
    · rw [hmerges.edited true (by simp [names])]
      rfl
    · rw [hmerges.edited false (by simp [names])]
      rfl
    · exact hmerges.others fun isFirst => by cases isFirst <;> simp [names]
  · intro i j hne
    cases i <;> cases j <;> simp_all [names]
  · intro i e hmem
    simp only [moves, List.mem_cons, Prod.mk.injEq, List.not_mem_nil, or_false, EditorAct.edit.injEq, reduceCtorEq, and_false,
      false_or] at hmem
    rcases hmem with ⟨rfl, rfl⟩ | ⟨rfl, rfl⟩ | ⟨rfl, rfl⟩ <;> simp [names, Edit.name]
  · intro i
    cases i <;> simp [SavesLast, moves]

end Editors

end SparseRows
