import BoundSql.Proofs.Inlined
import BoundSql.Proofs.MergedData
import BoundSql.Proofs.Standing
import BoundSql.Proofs.Unmarked

/-!
# Drafts that match their values

A call is matched when its raw SQL has a value for each question mark and all else
that it writes into a statement as text is unmarked. Whatever calls are refused, a run
of matched calls leaves a draft of which the same holds.
-/

namespace BoundSql

/-- A value whose raw SQL, if it is some, has a value for each question mark. -/
def Value.RawMatched (v : Value) : Prop :=
  ∀ expr, v = .raw expr → expr.Matched

/-- A column to select that is matched raw SQL or an unmarked text. -/
def Value.ColumnMatched : Value → Prop
  | .text s => '?' ∉ s.toList
  | .raw expr => expr.Matched
  | _ => True

/-- A joined table whose texts are unmarked. -/
structure Join.Unmarked (j : Join) : Prop where
  /-- The name is. -/
  table : j.table.Unmarked
  /-- The alias is. -/
  tableAlias : j.tableAlias.Unmarked
  /-- The condition is. -/
  condition : j.condition.Unmarked

/-- Data under unmarked columns, with matched values. -/
def Entries.Matched (data : Entries) : Prop :=
  ∀ e ∈ data, e.1.Unmarked ∧ e.2.RawMatched

/-- A filter on unmarked columns, with canonical operators and matched raw SQL. -/
def ResolvedFilter.Matched (f : ResolvedFilter) : Prop :=
  ∀ e ∈ f.conditions, e.1.Unmarked ∧ e.2.Canonical ∧ ∀ expr, e.2.raw? = some expr → expr.Matched

/-- A call with matched raw SQL and unmarked texts. -/
def Call.Matched : Call → Prop
  | .tableAlias given => given.Unmarked
  | .select columns => ∀ list, Draft.columnsOf columns = .ok list → ∀ v ∈ list, v.ColumnMatched
  | .count column => column.Unmarked
  | .insert data | .update data | .onDuplicate data => (Entries.pairsOf data).Matched
  | .join table condition given _ => table.Unmarked ∧ condition.Unmarked ∧ given.Unmarked
  | .filter _ conditions => ∀ entries, conditions = .mapping entries →
    ∀ e ∈ entries, e.1.Unmarked ∧ ∀ expr, e.2.rawOperand? = some expr → expr.Matched
  | .groupBy given | .orderBy given => given.Unmarked
  | .delete | .limit .. | .offset _ | .clear _ | .clearAll => True

/-- A filter that a matched call adds is matched. -/
theorem Call.Matched.filter? {c : Call} (h : c.Matched) {f : ResolvedFilter}
    (hfilter : c.filter? = some f) : f.Matched := by
  intro e he
  obtain ⟨entries, value, rfl, hmem, hcanonical, hraw⟩ := Call.exists_entry_of_filter? hfilter he
  obtain ⟨hcolumn, hvalue⟩ := h entries rfl _ hmem
  refine ⟨hcolumn, hcanonical, ?_⟩
  intro expr hexpr
  exact hvalue expr (hraw expr hexpr)

namespace Draft

/-- A draft with matched columns and data, integers for paging, and unmarked texts. Its
filters are left out, since they are texts already. -/
structure Matched (d : Draft) : Prop where
  /-- The table is unmarked. -/
  table : d.table.Unmarked
  /-- The alias of the table is unmarked. -/
  tableAlias : d.tableAlias.Unmarked
  /-- The columns to select are matched. -/
  columns : ∀ v ∈ d.columns, v.ColumnMatched
  /-- The joined tables are unmarked. -/
  joins : ∀ j ∈ d.joins, j.Unmarked
  /-- The grouping is unmarked. -/
  groupBy : d.groupBy.Unmarked
  /-- The order is unmarked. -/
  orderBy : d.orderBy.Unmarked
  /-- The limit is an integer. -/
  limit : ∃ n : Int, d.limit = .int n
  /-- The offset is an integer. -/
  offset : ∃ n : Int, d.offset = .int n
  /-- The data of the row is matched. -/
  data : d.data.Matched
  /-- The data of the update is matched. -/
  duplicateData : d.duplicateData.Matched
  /-- What is counted is unmarked. -/
  countColumn : d.countColumn.Unmarked

/-- A new draft of an unmarked table is matched. -/
theorem matched_of_table {table tableAlias : Value} (htable : table.Unmarked)
    (halias : tableAlias.Unmarked) : Matched { table, tableAlias } where
  table := htable
  tableAlias := halias
  columns := List.forall_mem_nil _
  joins := List.forall_mem_nil _
  groupBy := List.not_mem_nil
  orderBy := List.not_mem_nil
  limit := ⟨0, rfl⟩
  offset := ⟨0, rfl⟩
  data := List.forall_mem_nil _
  duplicateData := List.forall_mem_nil _
  countColumn := (by decide : '?' ∉ "*".toList)

/-- A table is named as it is given, when the name is accepted. -/
theorem eq_of_tableName {options : Options} {given name : Value}
    (h : tableName options given = .ok name) : name = given := by
  unfold tableName at h
  split at h
  · obtain ⟨s, hs, rfl⟩ := Result.map_eq_ok_iff.1 h
    exact (checkedIdentifier_eq_ok_iff.1 hs).1.symm
  · cases h
    rfl

/-- An alias that is accepted is unmarked when the given one is. -/
theorem unmarked_of_aliasName {options : Options} {given name : Value}
    (h : aliasName options given = .ok name) (hgiven : given.Unmarked) : name.Unmarked := by
  unfold aliasName at h
  split at h
  · rwa [eq_of_tableName h]
  · cases h
    exact List.not_mem_nil

/-- A join of unmarked texts is unmarked. -/
theorem unmarked_of_joinOf {options : Options} {table condition given kind : Value} {j : Join}
    (h : joinOf options table condition given kind = .ok j) (htable : table.Unmarked)
    (hcondition : condition.Unmarked) (hgiven : given.Unmarked) : j.Unmarked := by
  unfold joinOf at h
  obtain ⟨keyword, -, h⟩ := Result.bind_eq_ok_iff.1 h
  obtain ⟨chosen, hchosen, h⟩ := Result.bind_eq_ok_iff.1 h
  obtain ⟨name, hname, h⟩ := Result.bind_eq_ok_iff.1 h
  obtain ⟨short, hshort, h⟩ := Result.bind_eq_ok_iff.1 h
  cases h
  have hunmarked : chosen.Unmarked := by
    unfold joinAlias at hchosen
    split at hchosen
    · exact htable.firstLetter (Result.mapError_eq_ok_iff.1 hchosen)
    · cases hchosen
      exact hgiven
  refine ⟨?_, unmarked_of_aliasName hshort hunmarked, hcondition⟩
  rwa [eq_of_tableName hname]

/-- A natural number for a setting is an integer. -/
theorem exists_int_of_natural {setting : String} {given v : Value}
    (h : natural setting given = .ok v) : ∃ n : Int, v = .int n := by
  unfold natural at h
  split at h
  · next n =>
    split at h
    · cases h
      exact ⟨n, rfl⟩
    · cases h
  · cases h

/-- A change that may be refused keeps a matched draft when every accepted change does. -/
theorem Matched.settle {α : Type} {d : Draft} (h : d.Matched) {result : Except Refusal α}
    {change : α → Draft} (hchange : ∀ a, result = .ok a → (change a).Matched) :
    (d.settle (result.map change)).draft.Matched := by
  cases result with
  | error refusal => exact h
  | ok a => exact hchange a rfl

/-- Setting an offset keeps a matched draft. -/
theorem Matched.setOffset {d : Draft} (h : d.Matched) (offset : Value) :
    (d.setOffset offset).draft.Matched := by
  apply h.settle
  intro n hn
  exact { h with offset := exists_int_of_natural hn }

/-- Setting a limit keeps a matched draft, also when only the offset is refused. -/
theorem Matched.setLimit {d : Draft} (h : d.Matched) (limit offset : Value) :
    (d.setLimit limit offset).draft.Matched := by
  unfold Draft.setLimit
  cases hlimit : natural "limit" limit with
  | error refusal => exact h
  | ok n =>
    have hset : Matched { d with limit := n } := { h with limit := exists_int_of_natural hlimit }
    exact hset.setOffset offset

/-- A filter keeps a matched draft. -/
theorem Matched.withFilter {d : Draft} (h : d.Matched) (connective : Connective)
    (filter : Fragment) : (d.withFilter connective filter).Matched := by
  unfold Draft.withFilter
  split
  · exact h
  · exact { h with }

/-- Emptying a clause keeps a matched draft. -/
theorem Matched.clear {d : Draft} (h : d.Matched) (clause : ClauseName) :
    (d.clear clause).Matched := by
  have hempty := matched_of_table h.table h.tableAlias
  cases clause with
  | filters => exact { h with }
  | columns => exact { h with columns := hempty.columns }
  | joins => exact { h with joins := hempty.joins }
  | groupBy => exact { h with groupBy := hempty.groupBy }
  | orderBy => exact { h with orderBy := hempty.orderBy }
  | limit => exact { h with limit := hempty.limit, offset := hempty.offset }
  | data => exact { h with data := hempty.data, duplicateData := hempty.duplicateData }

/-- A matched call keeps a matched draft, accepted or refused. -/
theorem Matched.call (options : Options) {d : Draft} (h : d.Matched) {c : Call}
    (hc : c.Matched) : (d.call options c).draft.Matched := by
  cases c with
  | tableAlias given =>
    apply h.settle
    intro name hname
    exact { h with tableAlias := unmarked_of_aliasName hname hc }
  | select columns =>
    apply h.settle
    intro list hlist
    exact { h with columns := hc list hlist }
  | count column => exact { h with countColumn := hc }
  | insert data => exact { h with data := Entries.forall_mem_merge h.data hc }
  | update data => exact { h with data := Entries.forall_mem_merge h.data hc }
  | delete => exact { h with }
  | onDuplicate data =>
    exact { h with duplicateData := Entries.forall_mem_merge h.duplicateData hc }
  | join table condition given kind =>
    obtain ⟨htable, hcondition, hgiven⟩ := hc
    apply h.settle
    intro j hj
    have hjoin := unmarked_of_joinOf hj htable hcondition hgiven
    have hjoins : ∀ k ∈ d.joins ++ [j], k.Unmarked :=
      List.forall_mem_append.2 ⟨h.joins, List.forall_mem_singleton.2 hjoin⟩
    exact { h with joins := hjoins }
  | filter connective conditions =>
    apply h.settle
    intro filter _
    exact h.withFilter connective filter
  | groupBy given => exact { h with groupBy := hc }
  | orderBy given => exact { h with orderBy := hc }
  | limit limit offset => exact h.setLimit limit offset
  | offset offset => exact h.setOffset offset
  | clear clause => exact h.clear clause
  | clearAll => exact matched_of_table h.table h.tableAlias

end Draft

namespace Builder

/-- A new builder for an unmarked table has a matched draft. -/
theorem matched_of_create {table tableAlias options : Value} {sink : Option Sink} {b : Builder}
    (h : Builder.create table tableAlias options sink = .ok b) (htable : table.Unmarked)
    (halias : tableAlias.Unmarked) : b.draft.Matched := by
  unfold create at h
  obtain ⟨switches, -, h⟩ := Result.bind_eq_ok_iff.1 h
  obtain ⟨name, hname, h⟩ := Result.bind_eq_ok_iff.1 h
  obtain ⟨short, hshort, h⟩ := Result.bind_eq_ok_iff.1 h
  cases h
  rw [Draft.eq_of_tableName hname]
  exact Draft.matched_of_table htable (Draft.unmarked_of_aliasName hshort halias)

/-- A run of matched calls keeps a matched draft, whichever of them are refused. -/
theorem matched_after {b : Builder} (h : b.draft.Matched) {run : List Call}
    (hrun : ∀ c ∈ run, c.Matched) : (b.after run).draft.Matched := by
  induction run generalizing b with
  | nil => exact h
  | cons c rest ih =>
    have hfirst := hrun c List.mem_cons_self
    have hcall : (b.call c).1.draft.Matched := h.call b.options hfirst
    exact ih hcall fun c hc => hrun c (List.mem_cons_of_mem _ hc)

/-- The filters that stand after a run of matched calls are matched. -/
theorem matched_of_mem_standingFilters {b : Builder} {run : List Call}
    (hrun : ∀ c ∈ run, c.Matched) {f : ResolvedFilter} (hf : f ∈ b.standingFilters run) :
    f.Matched := by
  obtain ⟨c, hc, hfilter⟩ := exists_call_of_mem_standingFilters hf
  exact (hrun c hc).filter? hfilter

end Builder

end BoundSql
