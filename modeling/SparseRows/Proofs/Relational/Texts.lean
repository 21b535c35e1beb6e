import SparseRows.Client.Relational
import SparseRows.Proofs.Relational.Bag

/-!
# The texts of changes

What an insertion saves in the columns of a row: the texts that its changes leave there. They are there for all changes or
none. Changes that put bytes have none, for the first column that they put bytes in (`mapM_textOf_of_binary`); others have
one for each column that they name (`mapM_textOf`), and each is what the change says (`textsFor_of_mapM`).
-/

namespace SparseRows

variable {changes : Changes}

/-- Whether a change puts bytes. -/
def Change.putsBytes : Change → Bool
  | put v => v.isBinary
  | remove => false

namespace RelationalClient

/-- Changes that put no bytes leave a text in every column, or none. -/
theorem mapM_textOf {changes : List (String × Change)} (h : ∀ column v, (column, Change.put v) ∈ changes → v.Textual) :
    ∃ texts, changes.mapM textOf = .ok texts ∧ Bag.TextsOf changes texts := by
  induction changes with
  | nil => exact ⟨[], rfl, .nil⟩
  | cons head changes ih =>
    obtain ⟨texts, hmap, htexts⟩ := ih fun column v hmem => h column v (List.mem_cons_of_mem _ hmem)
    obtain ⟨column, change⟩ := head
    rw [List.mapM_cons, hmap]
    cases change with
    | remove => exact ⟨(column, none) :: texts, rfl, .cons ⟨rfl, rfl⟩ htexts⟩
    | put v =>
      obtain ⟨text, htext, hform⟩ := (h column v List.mem_cons_self).toText?
      refine ⟨(column, some text) :: texts, ?_, .cons ⟨rfl, congrArg some hform⟩ htexts⟩
      simp only [textOf, htext]
      rfl

/-! ## Bytes -/

/-- Texts are made of changes up to the first that puts bytes, which is refused. -/
theorem mapM_textOf_of_binary {earlier later : List (String × Change)} {column : String} {v : Value}
    (hearlier : ∀ name w, (name, Change.put w) ∈ earlier → w.Textual) (hbinary : v.isBinary = true) :
    (earlier ++ (column, .put v) :: later).mapM textOf = .error (.of (.binaryColumn column)) := by
  obtain ⟨texts, htexts, -⟩ := mapM_textOf hearlier
  have hrefused : textOf (column, .put v) = .error (.of (.binaryColumn column)) := by
    simp only [textOf, Value.toText?_eq_none_iff.mpr hbinary]
  rw [List.mapM_append, htexts, List.mapM_cons, hrefused]
  rfl

/-- Changes that put bytes put some in a column before which they put none. -/
theorem exists_first_binary (h : ¬changes.PutsOnly Value.Textual) :
    ∃ column v earlier later, changes.toList = earlier ++ (column, .put v) :: later ∧ v.isBinary = true ∧
      ∀ name w, (name, Change.put w) ∈ earlier → w.Textual := by
  have hsome : ∃ entry ∈ changes.toList, entry.2.putsBytes = true := by
    by_contra hnone
    refine h fun column v hget => ?_
    by_contra hbinary
    have hputs : (Change.put v).putsBytes = true := Bool.eq_true_of_not_eq_false hbinary
    exact hnone ⟨(column, .put v), Changes.mem_toList_iff.mpr hget, hputs⟩
  obtain ⟨⟨column, change⟩, hfind⟩ := Option.isSome_iff_exists.mp (List.find?_isSome.mpr hsome)
  obtain ⟨hputs, earlier, later, hlist, hearlier⟩ := List.find?_eq_some_iff_append.mp hfind
  cases change with
  | remove => cases hputs
  | put v =>
    refine ⟨column, v, earlier, later, hlist, hputs, fun name w hmem => ?_⟩
    exact (Bool.not_eq_true' _).mp (hearlier _ hmem)

/-! ## Texts for columns -/

/-- What is saved in columns is what the changes say, once for each column. -/
structure TextsFor (changes : Changes) (texts : List (String × Option String)) : Prop where
  remove : ∀ column, (column, none) ∈ texts → changes.get? column = some .remove
  put : ∀ column text, (column, some text) ∈ texts → ∃ v, changes.get? column = some (.put v) ∧ v.toText? = some text
  nodup : (texts.map (·.1)).Nodup

/-- What is saved in the other columns is so, too. -/
theorem TextsFor.tail {saved : String × Option String} {texts : List (String × Option String)}
    (h : TextsFor changes (saved :: texts)) :
    TextsFor changes texts where
  remove column hmem := h.remove column (List.mem_cons_of_mem _ hmem)
  put column text hmem := h.put column text (List.mem_cons_of_mem _ hmem)
  nodup := h.nodup.of_cons

/-- A change leaves its text in its column, and a removal none. -/
theorem textOf_eq_ok {entry : String × Change} {saved : String × Option String} (h : textOf entry = .ok saved) :
    saved.1 = entry.1 ∧
      match saved.2 with
      | none => entry.2 = .remove
      | some text => ∃ v, entry.2 = .put v ∧ v.toText? = some text := by
  obtain ⟨column, change⟩ := entry
  cases change with
  | remove =>
    cases h
    exact ⟨rfl, rfl⟩
  | put v =>
    cases htext : v.toText? with
    | none =>
      simp only [textOf, htext] at h
      cases h
    | some text =>
      simp only [textOf, htext, Except.ok.injEq] at h
      subst h
      exact ⟨rfl, v, rfl, htext⟩

/-- The texts of some changes stand in the columns that these name, and each is what a change leaves. -/
theorem mapM_textOf_eq_ok {changes : List (String × Change)} {texts : List (String × Option String)}
    (h : changes.mapM textOf = .ok texts) :
    texts.map (·.1) = changes.map (·.1) ∧ ∀ saved ∈ texts, ∃ entry ∈ changes, textOf entry = .ok saved := by
  induction changes generalizing texts with
  | nil =>
    obtain rfl : [] = texts := by simpa [pure, Except.pure] using h
    exact ⟨rfl, List.forall_mem_nil _⟩
  | cons entry changes ih =>
    rw [List.mapM_cons] at h
    cases hentry : textOf entry with
    | error e =>
      rw [hentry] at h
      cases h
    | ok saved =>
      cases hrest : changes.mapM textOf with
      | error e =>
        rw [hentry, hrest] at h
        cases h
      | ok rest =>
        rw [hentry, hrest] at h
        obtain rfl : saved :: rest = texts := Except.ok.inj h
        obtain ⟨hnames, hfrom⟩ := ih hrest
        refine ⟨by rw [List.map_cons, List.map_cons, hnames, (textOf_eq_ok hentry).1], ?_⟩
        rw [List.forall_mem_cons]
        refine ⟨⟨entry, List.mem_cons_self, hentry⟩, fun other hmem => ?_⟩
        obtain ⟨earlier, hin, heq⟩ := hfrom other hmem
        exact ⟨earlier, List.mem_cons_of_mem _ hin, heq⟩

/-- What an insertion saves is what its changes say, once for each column. -/
theorem textsFor_of_mapM {texts : List (String × Option String)} (h : changes.toList.mapM textOf = .ok texts) :
    TextsFor changes texts := by
  obtain ⟨hnames, hfrom⟩ := mapM_textOf_eq_ok h
  constructor
  · intro column hmem
    obtain ⟨⟨name, change⟩, hin, heq⟩ := hfrom _ hmem
    obtain ⟨rfl, rfl⟩ := textOf_eq_ok heq
    exact Changes.mem_toList_iff.mp hin
  · intro column text hmem
    obtain ⟨⟨name, change⟩, hin, heq⟩ := hfrom _ hmem
    obtain ⟨rfl, v, rfl, htext⟩ := textOf_eq_ok heq
    exact ⟨v, Changes.mem_toList_iff.mp hin, htext⟩
  · rw [hnames]
    exact changes.nodup_toList

end RelationalClient

end SparseRows
