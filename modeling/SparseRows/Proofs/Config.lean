import SparseRows.Config
import SparseRows.Proofs.Json.Compact

/-!
# Settings are read back

A configuration is known by the JSON object of its settings, however that object is written: the order of the members,
members of other names, settings left out because they are as by default, white space and escapes make no difference
(`read_of_tells`). What is read is never a layout without room for a byte.
-/

namespace SparseRows.Config

open Json

/-- The names of the settings. -/
def names : List String := ["block_size", "max_chunks_per_block_set", "body_store_dir", "rowid_hash", "log_level"]

/-- The settings as members of a JSON object. -/
def members (c : Config) : List (List Piece × Json) :=
  match c.toJson with
  | .object members => members
  | _ => []

/-- Members that tell the settings, in any order: those of the settings themselves that are kept, where a setting may be
missing only if it is as by default, and others of other names. -/
structure Tells (c : Config) (kept others members : List (List Piece × Json)) : Prop where
  perm : members.Perm (kept ++ others)
  sublist : kept.Sublist c.members
  omitted : ∀ member ∈ c.members, member ∉ kept → member ∈ Config.members {}
  foreign : ∀ member ∈ others, ∃ name, textOf member.1 = some name ∧ name ∉ names

/-- The values given for a setting. -/
def valuesOf (members : List (List Piece × Json)) (name : String) : List Json :=
  (members.filter fun member => textOf member.1 = some name).map (·.2)

/-! ## Members and their values -/

/-- Members that all have a text for a name are the settings that their values make. -/
theorem ofJson_object {members : List (List Piece × Json)} (h : ∀ member ∈ members, ∃ name, textOf member.1 = some name) :
    ofJson (.object members) =
      ofSettings (valuesOf members "block_size") (valuesOf members "max_chunks_per_block_set") (valuesOf members "body_store_dir")
        (valuesOf members "rowid_hash") (valuesOf members "log_level") := by
  have hnamed : ∃ named, members.mapM (fun member => (textOf member.1).map (·, member.2)) = some named ∧
      ∀ name, (named.filter (·.1 == name)).map (·.2) = valuesOf members name := by
    induction members with
    | nil => exact ⟨[], rfl, fun _ => rfl⟩
    | cons member members ih =>
      obtain ⟨text, htext⟩ := h _ List.mem_cons_self
      obtain ⟨named, hnamed, hvalues⟩ := ih fun member hmember => h member (List.mem_cons_of_mem _ hmember)
      refine ⟨(text, member.2) :: named, by simp [List.mapM_cons, htext, hnamed], fun name => ?_⟩
      by_cases hname : text = name <;> simpa [valuesOf, List.filter_cons, htext, hname] using hvalues name
  obtain ⟨named, hnamed, hvalues⟩ := hnamed
  change (members.mapM fun member => (textOf member.1).map (·, member.2)).bind _ = _
  simp only [hnamed, Option.bind_some, hvalues]

/-- The values of a name are those of the members whose keys spell it, with or without escapes. -/
theorem mem_valuesOf {members : List (List Piece × Json)} {name : String} {v : Json} :
    v ∈ valuesOf members name ↔ ∃ pieces, textOf pieces = some name ∧ (pieces, v) ∈ members := by
  simp [valuesOf, and_comm]

namespace Tells

variable {c : Config} {kept others members : List (List Piece × Json)}

/-- Other members say nothing about a setting. -/
theorem valuesOf_perm (h : c.Tells kept others members) {name : String} (hname : name ∈ names) :
    (valuesOf members name).Perm (valuesOf kept name) := by
  have hnone : valuesOf others name = [] := by
    rw [List.eq_nil_iff_forall_not_mem]
    intro v hv
    obtain ⟨pieces, htext, hmem⟩ := mem_valuesOf.mp hv
    obtain ⟨other, hother, hnot⟩ := h.foreign _ hmem
    rw [htext, Option.some.injEq] at hother
    exact hnot (hother ▸ hname)
  have hperm : (valuesOf members name).Perm (valuesOf (kept ++ others) name) := (h.perm.filter _).map _
  have happend : valuesOf (kept ++ others) name = valuesOf kept name ++ valuesOf others name := by
    simp [valuesOf]
  rwa [happend, hnone, List.append_nil] at hperm

/-- A setting is told by one value, or by none and then is as by default. -/
theorem setting_eq {α : Type} {read : Json → Option α} {field : Config → α} {value : Config → Json} {name : String}
    (h : c.Tells kept others members) (hname : name ∈ names) (hvalues : ∀ d : Config, valuesOf d.members name = [value d])
    (hread : ∀ d, read (value d) = some (field d)) : setting read (field {}) (valuesOf members name) = some (field c) := by
  have hperm := h.valuesOf_perm hname
  have hsublist : (valuesOf kept name).Sublist (valuesOf c.members name) := (h.sublist.filter _).map _
  rw [hvalues] at hsublist
  rcases List.sublist_singleton.mp hsublist with hnone | hone
  · -- The member is not kept, so it is one of the default settings.
    obtain ⟨pieces, htext, hmem⟩ := mem_valuesOf.mp (hvalues c ▸ List.mem_singleton_self (value c))
    have hdefault : (pieces, value c) ∈ Config.members {} := by
      refine h.omitted _ hmem fun hkept => ?_
      exact absurd (mem_valuesOf.mpr ⟨pieces, htext, hkept⟩) (hnone ▸ List.not_mem_nil)
    have hvalue : value c = value {} := by
      have hin := mem_valuesOf.mpr ⟨pieces, htext, hdefault⟩
      rwa [hvalues, List.mem_singleton] at hin
    rw [hnone, List.perm_nil] at hperm
    rw [hperm, setting, ← hread, ← hread, hvalue]
  · rw [hone, List.perm_singleton] at hperm
    rw [hperm, setting, hread]

end Tells

/-! ## The settings -/

/-- A configuration has one value for each setting. -/
theorem valuesOf_members (c : Config) :
    valuesOf c.members "block_size" = [.ofInt c.blockSize.toNat] ∧
    valuesOf c.members "max_chunks_per_block_set" = [.ofInt c.blocksPerSet.toNat] ∧
    valuesOf c.members "body_store_dir" = [.ofText c.bodyDirectory] ∧
    valuesOf c.members "rowid_hash" = [(c.rowHash.map fun a => Json.ofText a.name).getD .null] ∧
    valuesOf c.members "log_level" = [.ofText c.logLevel.text] := by
  simp [valuesOf, members, toJson, textOf_piecesOf]

/-- A size is read back from its number. -/
theorem readSize_ofInt (size : UInt64) : readSize (.ofInt size.toNat) = some size := by
  have hbound : size.toNat < UInt64.size := size.toNat_lt_size
  have hdigits : (size.toNat : Int).natAbs < 10 ^ Text.wordDigits := Nat.lt_trans hbound (by decide)
  rw [readSize, integer?_ofInt hdigits, Option.bind_some, if_pos ⟨by omega, by omega⟩, Int.toNat_natCast, UInt64.ofNat_toNat]

/-- A choice is what its name names. -/
theorem readChoice_ofText {α : Type} (ofName : String → Option α) (s : String) : readChoice ofName (.ofText s) = ofName s := by
  rw [Json.ofText, readChoice, textOf_piecesOf, Option.bind_some]

theorem text?_ofText (s : String) : (Json.ofText s).text? = some s :=
  textOf_piecesOf s

/-- A hash that is told is read back, and so is none. -/
theorem readHash_getD (hash : Option HashAlgorithm) : readHash ((hash.map fun a => Json.ofText a.name).getD .null) = some hash := by
  cases hash with
  | none => rfl
  | some a =>
    have hread : readHash (Json.ofText a.name) = (readChoice HashAlgorithm.ofName (Json.ofText a.name)).map some := rfl
    rw [Option.map_some, Option.getD_some, hread, readChoice_ofText, a.ofName_name, Option.map_some]

/-- The settings that members tell. -/
theorem Tells.ofJson_eq {c : Config} {kept others members : List (List Piece × Json)} (h : c.Tells kept others members) :
    ofJson (.object members) = some c := by
  have hnamed : ∀ member ∈ members, ∃ name, textOf member.1 = some name := by
    intro member hmember
    rcases List.mem_append.mp (h.perm.mem_iff.mp hmember) with hkept | hother
    · have hmem := h.sublist.subset hkept
      simp only [Config.members, toJson, List.mem_cons, List.not_mem_nil, or_false] at hmem
      rcases hmem with rfl | rfl | rfl | rfl | rfl <;> exact ⟨_, textOf_piecesOf _⟩
    · obtain ⟨name, hname, -⟩ := h.foreign member hother
      exact ⟨name, hname⟩
  have hblock := h.setting_eq (by decide) (fun d => (valuesOf_members d).1) fun d => readSize_ofInt d.blockSize
  have hset := h.setting_eq (by decide) (fun d => (valuesOf_members d).2.1) fun d => readSize_ofInt d.blocksPerSet
  have hdirectory := h.setting_eq (by decide) (fun d => (valuesOf_members d).2.2.1) fun d => text?_ofText d.bodyDirectory
  have hhash := h.setting_eq (by decide) (fun d => (valuesOf_members d).2.2.2.1) fun d => readHash_getD d.rowHash
  have hlevel := h.setting_eq (by decide) (fun d => (valuesOf_members d).2.2.2.2)
    fun d => (readChoice_ofText _ _).trans d.logLevel.ofText_text
  simp only [ofJson_object hnamed, ofSettings, hblock, hset, hdirectory, hhash, hlevel, Option.bind_eq_bind, Option.bind_some]
  rfl

/-- A configuration tells its own settings. -/
theorem tells_members (c : Config) : c.Tells c.members [] c.members where
  perm := by rw [List.append_nil]
  sublist := List.Sublist.refl _
  omitted _ hmember hnot := absurd hmember hnot
  foreign := by simp

/-- Each setting has a text. -/
theorem renders_of_mem {c : Config} {member : List Piece × Json} (h : member ∈ c.members) : Grammar.Renders member := by
  simp only [members, toJson, List.mem_cons, List.not_mem_nil, or_false] at h
  rcases h with rfl | rfl | rfl | rfl | rfl
  · exact Grammar.renders_piecesOf _ (.ofInt _)
  · exact Grammar.renders_piecesOf _ (.ofInt _)
  · exact Grammar.renders_piecesOf _ (.ofText _)
  · cases c.rowHash with
    | none => exact Grammar.renders_piecesOf _ .null
    | some a => exact Grammar.renders_piecesOf _ (.ofText a.name)
  · exact Grammar.renders_piecesOf _ (.ofText _)

/-- What is written of a configuration is a text of its members. -/
theorem element_toText (c : Config) : Grammar.Element (.object c.members) c.toJson.toText.toList :=
  Grammar.Value.element_toText (.object_render fun _ => renders_of_mem)

/-! ## Reading -/

/-- The settings that a text tells are read, if they make sense. -/
theorem Tells.read_eq {c : Config} {kept others members : List (List Piece × Json)} (h : c.Tells kept others members)
    {text : String} (htext : Grammar.Element (.object members) text.toList) : read text = c.validate.map fun _ => c := by
  rw [read, htext.parse_eq, Option.bind_some, h.ofJson_eq]

/-- Settings make sense if a byte has room, and are refused as a configuration otherwise. -/
theorem validate_cases (c : Config) :
    ((0 < c.blockSize ∧ 0 < c.blocksPerSet) ∧ c.validate = .ok ()) ∨
      (¬(0 < c.blockSize ∧ 0 < c.blocksPerSet) ∧ ∃ e : StorageError, c.validate = .error e ∧ e.code = .config) := by
  rw [UInt64.pos_iff_ne_zero, UInt64.pos_iff_ne_zero, validate]
  by_cases hblock : c.blockSize = 0
  · exact .inr ⟨fun h => h.1 hblock, _, if_pos hblock, rfl⟩
  rw [if_neg hblock]
  by_cases hset : c.blocksPerSet = 0
  · exact .inr ⟨fun h => h.2 hset, _, if_pos hset, rfl⟩
  · exact .inl ⟨⟨hblock, hset⟩, if_neg hset⟩

/-- What is read of a text is settings that make sense. -/
theorem validate_of_read {text : String} {c : Config} (h : read text = .ok c) : c.validate = .ok () := by
  unfold read at h
  split at h
  · cases h
  · rename_i d _
    cases hvalid : d.validate with
    | error e =>
      rw [hvalid] at h
      cases h
    | ok _ =>
      rw [hvalid] at h
      obtain rfl := Except.ok.inj h
      exact hvalid

/-- A configuration with room for a byte is read back from its JSON text, and any other is refused as a configuration; nor
is one without room read from any other text. Every text that tells the same settings is read as this one is: with the
members in another order, without any that are as by default, with any members of other names, and with white space and
escapes as the grammar has them. -/
theorem read_of_tells :
    (∀ c : Config, 0 < c.blockSize → 0 < c.blocksPerSet → read c.toJson.toText = .ok c) ∧
    (∀ c : Config, ¬(0 < c.blockSize ∧ 0 < c.blocksPerSet) → ∃ e, read c.toJson.toText = .error e ∧ e.code = .config) ∧
    (∀ text c, read text = .ok c → 0 < c.blockSize ∧ 0 < c.blocksPerSet) ∧
    ∀ (c : Config) (kept others members : List (List Piece × Json)) (text : String), c.Tells kept others members →
      Grammar.Element (.object members) text.toList → read text = read c.toJson.toText := by
  have hown : ∀ c : Config, read c.toJson.toText = c.validate.map fun _ => c := fun c =>
    (tells_members c).read_eq c.element_toText
  refine ⟨fun c hblock hset => ?_, fun c hpos => ?_, fun text c hread => ?_, fun c kept others members text htells htext => ?_⟩
  · rcases c.validate_cases with ⟨-, hvalid⟩ | ⟨hnot, -⟩
    · rw [hown, hvalid]
      rfl
    · exact absurd ⟨hblock, hset⟩ hnot
  · rcases c.validate_cases with ⟨hroom, -⟩ | ⟨-, e, hinvalid, hcode⟩
    · exact absurd hroom hpos
    · exact ⟨e, by rw [hown, hinvalid]; rfl, hcode⟩
  · rcases c.validate_cases with ⟨hroom, -⟩ | ⟨-, e, hinvalid, -⟩
    · exact hroom
    · rw [validate_of_read hread] at hinvalid
      cases hinvalid
  · rw [htells.read_eq htext, hown]

/-- Two settings in another order and with white space; the others are as by default and left out. Between them stands a
member of another name, whose value holds no text and no number that could be kept. -/
theorem read_of_tells_withNote :
    let c : Config := { blockSize := 16, logLevel := .warn }
    let blockSize := (piecesOf "block_size", Json.ofInt 16)
    let logLevel := (piecesOf "log_level", Json.ofText "WARN")
    let note := (piecesOf "note", Json.array [.number "-1.5e400".toList, .string [.half 0xd800]])
    let text := "\x7b \"log_level\" : \"WARN\",\n \"note\": [-1.5e400, \"\\uD800\"],\"block_size\":16 \x7d"
    c.Tells [blockSize, logLevel] [note] [logLevel, note, blockSize] ∧
      Grammar.Element (.object [logLevel, note, blockSize]) text.toList ∧ read text = .ok c := by
  intro c blockSize logLevel note text
  have htells : c.Tells [blockSize, logLevel] [note] [logLevel, note, blockSize] := by
    refine ⟨@List.perm_append_comm _ [logLevel, note] [blockSize], ?_, fun member hmember hnot => ?_, ?_⟩
    · exact .cons_cons _ (.cons _ (.cons _ (.cons _ (.cons_cons _ .slnil))))
    · simp only [Config.members, toJson, List.mem_cons, List.not_mem_nil, or_false] at hmember
      rcases hmember with rfl | rfl | rfl | rfl | rfl
      · exact absurd List.mem_cons_self hnot
      · exact .tail _ (.head _)
      · exact .tail _ (.tail _ (.head _))
      · exact .tail _ (.tail _ (.tail _ (.head _)))
      · exact absurd (.tail _ (.head _)) hnot
    · intro member hmember
      obtain rfl := List.mem_singleton.mp hmember
      exact ⟨"note", textOf_piecesOf _, by decide⟩
  have htext : Grammar.Element (.object [logLevel, note, blockSize]) text.toList := by
    have hnone := Grammar.blank_nil
    have hspace : Grammar.Blank [' '] := by simp [Grammar.Blank]
    have hbreak : Grammar.Blank ['\n', ' '] := by simp [Grammar.Blank]
    have hexponent : Grammar.Exponent ['e', '4', '0', '0'] :=
      @Grammar.Exponent.power 'e' [] ['4', '0', '0'] (.inl rfl) (.head _) ⟨nofun, by simp⟩
    have hnumber : Grammar.Number "-1.5e400".toList :=
      @Grammar.Number.negative ['1'] ['.', '5'] _ (.digits ⟨nofun, by simp⟩ (by decide)) (.point ⟨nofun, by simp⟩) hexponent
    have hhalf : Grammar.Characters [.half 0xd800] "\\uD800".toList :=
      @Grammar.Characters.half 0xd800 ['D', '8', '0', '0'] [] [] ⟨by decide, by decide⟩ (by decide) (fun _ _ _ h => nomatch h) .done
    have hitems := Grammar.Elements.more (Grammar.Value.number hnumber).element (.last (.padded hspace (.string hhalf) hnone))
    have hlevel := Grammar.Member.named hspace (Grammar.characters_piecesOf "log_level") hspace
      (.padded hspace (.string (Grammar.characters_piecesOf "WARN")) hnone)
    have hnote := Grammar.Member.named hbreak (Grammar.characters_piecesOf "note") hnone (.padded hspace (.array hitems) hnone)
    have hsize := Grammar.Member.named hnone (Grammar.characters_piecesOf "block_size") hnone
      (.padded hnone (.number (Grammar.number_repr 16)) hspace)
    have hobject := (Grammar.Value.object (.more hlevel (.more hnote (.last hsize)))).element
    convert hobject using 1
    · rfl
    · decide
  obtain ⟨hback, -, -, htold⟩ := read_of_tells
  exact ⟨htells, htext, (htold c _ _ _ text htells htext).trans (hback c (by decide) (by decide))⟩

end SparseRows.Config
