import SparseRows.Client.Relational
import SparseRows.Proofs.Relational.Driver

/-!
# The table of triples is a faithful driver

A connection to a table of triples, of which several share the triples, is a faithful driver for every dialect whose row
statements start with the words that the table tells them by.
-/

namespace SparseRows.TripleTable

/-- The word that the statement of a row template starts with. -/
def word : Template → String
  | .deleteRow | .removeColumn => "delete"
  | .selectRow => "select"
  | .insertColumn => "insert"
  | .updateColumn => "update"
  | .checkSchema | .validate => ""

/-- Connections that share the triples. -/
def driver : Driver TripleTable (List Triple) where
  attach table triples := { table with triples }
  database := triples
  triples triples := triples
  Usable table := table.extra = []
  Runs table handle template := ∃ sql, table.statements[handle]? = some sql ∧ firstWord sql = word template

/-- The statements of a dialect start with the words that the table tells them by. -/
def Speaks (dialect : Dialect) : Prop :=
  ∀ template ∈ Template.ofRows, ∃ sql, dialect.sql template = .ok sql ∧ firstWord sql = word template

/-- The table changes as the bag of its triples does. -/
theorem change_of_effect {template : Template} {params : List String} {triples : List Triple} {reached : Nat} {bag : Bag}
    (h : template.effect params triples = some (reached, bag)) :
    ∃ triples', change (word template) params triples = .ok (reached, triples') ∧ (triples' : Bag) = bag := by
  unfold Template.effect at h
  split at h
  · rename_i v rid cid
    obtain ⟨hreached, hbag⟩ := Prod.mk.inj (Option.some.inj h)
    refine ⟨triples.map fun t => if t.isAt rid cid then { t with v := v } else t, ?_, ?_⟩
    · simp [change, word, ← hreached]
    · rw [← hbag, Bag.update, Multiset.map_coe]
  · rename_i v rid cid
    obtain ⟨hreached, hbag⟩ := Prod.mk.inj (Option.some.inj h)
    refine ⟨triples ++ [⟨rid, cid, v⟩], ?_, ?_⟩
    · simp [change, word, ← hreached]
    · rw [← hbag, ← Multiset.coe_add, Multiset.add_comm]
      rfl
  · rename_i rid cid
    obtain ⟨hreached, hbag⟩ := Prod.mk.inj (Option.some.inj h)
    refine ⟨triples.filter (!·.isAt rid cid), ?_, ?_⟩
    · simp [change, word, ← hreached]
    · rw [← hbag, Bag.dropColumn, Multiset.filter_coe]
      simp
  · rename_i rid
    obtain ⟨hreached, hbag⟩ := Prod.mk.inj (Option.some.inj h)
    refine ⟨triples.filter (·.rid != rid), ?_, ?_⟩
    · simp [change, word, ← hreached, Bool.beq_eq_decide_eq]
    · rw [← hbag, Bag.dropRow, Multiset.filter_coe]
      simp [bne, Bool.beq_eq_decide_eq]
  · cases h

/-- The statement of a handle is found. -/
theorem statement_run {table : TripleTable} {handle : Nat} {sql : String} (h : table.statements[handle]? = some sql) :
    (statement handle).run table = (.ok sql, table) := by
  have hget : (get : Call TripleTable TripleTable).run table = (.ok table, table) := rfl
  rw [statement, Call.run_bind_ok hget, h]
  rfl

/-- A query gives the columns of a row and what every query gives. -/
theorem query_run {table : TripleTable} {handle : Nat} {sql : String} (h : table.statements[handle]? = some sql) (rid : String) :
    (SqlConnection.query handle [rid] : Call TripleTable (List (String × String))).run table =
      (.ok (table.row rid ++ table.extra), table) :=
  Call.run_bind_ok (statement_run h)

/-- An update changes the triples as its statement does. -/
theorem update_run {table : TripleTable} {handle : Nat} {sql : String} (h : table.statements[handle]? = some sql)
    {params : List String} {reached : Nat} {triples : List Triple}
    (hchange : change (firstWord sql) params table.triples = .ok (reached, triples)) :
    (SqlConnection.update handle params : Call TripleTable Nat).run table = (.ok reached, { table with triples }) := by
  have hget : (get : Call TripleTable TripleTable).run table = (.ok table, table) := rfl
  have hlift : (liftM (change (firstWord sql) params table.triples) : Call TripleTable (Nat × List Triple)).run table =
      (.ok (reached, triples), table) := by
    rw [hchange]
    rfl
  exact (Call.run_bind_ok (statement_run h)).trans ((Call.run_bind_ok hget).trans (Call.run_bind_ok hlift))

/-- The table of triples is a faithful driver. -/
theorem driver_faithful {dialect : Dialect} (h : Speaks dialect) : driver.Faithful dialect where
  attach := by
    intro table triples husable
    exact ⟨rfl, husable, fun hruns => hruns⟩
  prepare := by
    intro template htemplate
    obtain ⟨sql, hsql, hword⟩ := h template htemplate
    refine ⟨sql, hsql, fun table husable => ⟨table.statements.length, _, rfl, ⟨sql, ?_, hword⟩, ⟨husable, ?_⟩, rfl⟩⟩
    · exact List.getElem?_concat_length
    · rintro handle template' ⟨sql', hsql', hword'⟩
      have hin : handle < table.statements.length := (List.getElem?_eq_some_iff.mp hsql').1
      exact ⟨sql', (List.getElem?_append_left hin).trans hsql', hword'⟩
  query := by
    rintro table handle rid husable ⟨sql, hsql, hword⟩
    refine ⟨table.row rid ++ table.extra, table, query_run hsql rid, ?_, ⟨husable, fun hruns => hruns⟩, rfl⟩
    have hextra : table.extra = [] := husable
    have hfilter : table.triples.filter (·.rid == rid) = table.triples.filter fun t => decide (t.rid = rid) := rfl
    rw [hextra, List.append_nil, row, hfilter, ← Multiset.map_coe, ← Multiset.filter_coe]
    rfl
  update := by
    rintro table handle template params reached bag husable ⟨sql, hsql, hword⟩ heffect
    obtain ⟨triples, hchange, hbag⟩ := change_of_effect heffect
    rw [← hword] at hchange
    exact ⟨{ table with triples }, update_run hsql hchange, ⟨husable, fun hruns => hruns⟩, hbag⟩
  release := by
    intro table husable
    exact ⟨_, rfl, husable, rfl⟩

/-- Row statements for a table of triples, by template. -/
def rowStatements : List (String × String) :=
  [(Template.deleteRow.name, "delete from css where rid = ?"),
   (Template.selectRow.name, "select cid, v from css where rid = ?"),
   (Template.insertColumn.name, "insert into css (v, rid, cid) values (?, ?, ?)"),
   (Template.updateColumn.name, "update css set v = ? where rid = ? and cid = ?"),
   (Template.removeColumn.name, "delete from css where rid = ? and cid = ?")]

/-- A dialect of these statements. -/
def dialect : Dialect where
  location := "triples"
  properties := Std.ExtTreeMap.ofList rowStatements

/-- The dialect is one of those whose statements the table can tell. -/
theorem dialect_speaks : Speaks dialect := by
  intro template htemplate
  have hsql : ∀ sql, (template.name, sql) ∈ rowStatements → dialect.sql template = .ok sql := by
    intro sql hmem
    have hproperty : dialect.property? template.name = some sql :=
      Std.ExtTreeMap.getElem?_ofList_of_mem Std.compare_self (by decide) hmem
    rw [Dialect.sql, Dialect.statement, hproperty]
  simp only [Template.ofRows, List.mem_cons, List.not_mem_nil, or_false] at htemplate
  rcases htemplate with rfl | rfl | rfl | rfl | rfl
  · exact ⟨_, hsql "delete from css where rid = ?" (by decide), by decide⟩
  · exact ⟨_, hsql "select cid, v from css where rid = ?" (by decide), by decide⟩
  · exact ⟨_, hsql "insert into css (v, rid, cid) values (?, ?, ?)" (by decide), by decide⟩
  · exact ⟨_, hsql "update css set v = ? where rid = ? and cid = ?" (by decide), by decide⟩
  · exact ⟨_, hsql "delete from css where rid = ? and cid = ?" (by decide), by decide⟩

/-- A client of a table of triples. -/
def client : RelationalClient where
  registry := {}
  candidates := []
  dialect := dialect
  algorithm := .sha256
  bodies := ⟨"store", .discard⟩
  logger := .discard

end SparseRows.TripleTable
