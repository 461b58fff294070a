import BoundSql.Proofs.Matched

/-!
# Statements with their values in place

A statement can be written with the text of each value where the value belongs: behind
its column, between its bounds, in its list, as what is assigned, or within its raw
SQL. A statement with question marks is the same text with the values taken out of it,
in order. So putting the values back, one for each question mark from left to right,
gives each value the place that it belongs to.
-/

namespace BoundSql

namespace Written

variable (lit : Value → String)

/-- Raw SQL with its values in place of its question marks. -/
def raw (expr : RawSql Value) : String :=
  String.ofList (Text.inlined lit expr.sql.toList expr.bindings)

/-- A condition on a column with its values in place. -/
def condition (column : String) : Condition Value → String
  | .compare op value => column ++ " " ++ op ++ " " ++ lit value
  | .rawCompare op expr => column ++ " " ++ op ++ " " ++ raw lit expr
  | .between low high => column ++ " BETWEEN " ++ lit low ++ " AND " ++ lit high
  | .inSet first rest negated =>
    column ++ (if negated then " NOT IN (" else " IN (") ++
      ", ".intercalate ((first :: rest).map lit) ++ ")"
  | .isNull negated => column ++ if negated then " IS NOT NULL" else " IS NULL"

/-- The conditions of a filter with the connective between them, an alternative in
parentheses. -/
def filter (f : ResolvedFilter) : String :=
  let conditions := f.conditions.map fun e => condition lit e.1.shown e.2
  match f.connective with
  | .and => " AND ".intercalate conditions
  | .or => "(" ++ " OR ".intercalate conditions ++ ")"

/-- A column to select. -/
def column : Value → String
  | .raw expr => raw lit expr
  | v => v.shown

/-- The columns to select, all when there are none. -/
def columns (list : List Value) : String :=
  if list.isEmpty then "SELECT *" else "SELECT " ++ ", ".intercalate (list.map (column lit))

/-- A value that is assigned. -/
def assigned : Value → String
  | .raw expr => raw lit expr
  | v => lit v

/-- Columns with the values that are assigned to them. -/
def assignments (data : Entries) : String :=
  ", ".intercalate (data.map fun e => e.1.shown ++ " = " ++ assigned lit e.2)

/-- What is updated when a row exists already. -/
def onDuplicate? (data : Entries) : Option String :=
  if data.isEmpty then none else some ("ON DUPLICATE KEY UPDATE " ++ assignments lit data)

/-- The filters that all have to hold. -/
def filters? (filters : List ResolvedFilter) : Option String :=
  if filters.isEmpty then none
  else some ("WHERE " ++ " AND ".intercalate (filters.map (filter lit)))

/-- A keyword with its text. -/
def keyed? (keyword : String) (text : Value) : Option String :=
  if text.isFull then some (keyword ++ text.shown) else none

/-- A limit above zero, with an offset above zero behind it. -/
def paging? (limit offset : Value) : Option String :=
  match limit, offset with
  | .int n, .int m =>
    if 0 < n then some ("LIMIT " ++ toString n ++ if 0 < m then " OFFSET " ++ toString m else "")
    else none
  | _, _ => none

/-- The clauses of a statement of a draft under some filters. -/
def clauses (d : Draft) (filters : List ResolvedFilter) : Action → List (Option String)
  | .select => [some (columns lit d.columns), some ("FROM " ++ Clause.aliased d.table d.tableAlias),
      Clause.joins? d.joins, filters? lit filters, keyed? "GROUP BY " d.groupBy,
      keyed? "ORDER BY " d.orderBy, paging? d.limit d.offset]
  | .count => [some ("SELECT COUNT(" ++ d.countColumn.shown ++ ") AS cnt"),
      some ("FROM " ++ Clause.aliased d.table d.tableAlias), Clause.joins? d.joins,
      filters? lit filters, keyed? "GROUP BY " d.groupBy]
  | .insert => [some ("INSERT INTO " ++ d.table.shown ++ " SET"), some (assignments lit d.data),
      onDuplicate? lit d.duplicateData]
  | .update => [some ("UPDATE " ++ d.table.shown ++ " SET"), some (assignments lit d.data),
      filters? lit filters]
  | .delete => [some ("DELETE FROM " ++ Clause.aliased d.table d.tableAlias), filters? lit filters]

/-- A statement of a draft under some filters, with all values in place. -/
def statement (d : Draft) (filters : List ResolvedFilter) (action : Action) : String :=
  spaced (clauses lit d filters action)

end Written

variable {lit : Value → String}

namespace Fragment

/-- As many question marks as values are aligned with the texts of the values. -/
theorem aligned_marks (values : List Value) :
    Aligned lit ⟨Condition.placeholders values, values⟩ (", ".intercalate (values.map lit)) := by
  have haligned : Aligned lit (joined ", " (values.map fun v => ⟨"?", [v]⟩))
      (", ".intercalate (values.map lit)) :=
    aligned_joined_map (by decide) fun v _ => aligned_mark v
  have hmarks : joined ", " (values.map fun v => ⟨"?", [v]⟩) =
      ⟨Condition.placeholders values, values⟩ := by
    unfold joined allParams Condition.placeholders
    rw [List.map_map, List.flatMap_map, List.flatMap_singleton']
    rfl
  rwa [hmarks] at haligned

/-- A condition with its question marks is aligned with the condition with its values. -/
theorem aligned_condition {column : String} (hcolumn : '?' ∉ column.toList)
    {c : Condition Value} (hc : c.Canonical)
    (hraw : ∀ expr, c.raw? = some expr → expr.Matched) :
    Aligned lit (c.render column) (Written.condition lit column c) := by
  have hfront : ∀ op : Operator, '?' ∉ (column ++ " " ++ op.symbol ++ " ").toList := by
    intro op
    have hsymbol : '?' ∉ op.symbol.toList := by cases op <;> decide
    have hblank : '?' ∉ " ".toList := by decide
    simp only [Text.not_mem_append_iff]
    exact ⟨⟨⟨hcolumn, hblank⟩, hsymbol⟩, hblank⟩
  cases c with
  | compare op value =>
    obtain ⟨o, rfl, -⟩ := hc
    have hmark : " ?" = " " ++ "?" := rfl
    have hvalue : Aligned lit ⟨"?", [value]⟩ (lit value) := aligned_mark value
    simp only [Condition.render, Written.condition]
    rw [Condition.written_symbol, hmark, ← String.append_assoc]
    exact hvalue.text_append (hfront o)
  | rawCompare op expr =>
    obtain ⟨o, rfl, -⟩ := hc
    simp only [Condition.render, Written.condition]
    rw [Condition.written_symbol]
    exact (aligned_raw (hraw expr rfl)).text_append (hfront o)
  | between low high =>
    have hlow : '?' ∉ (column ++ " BETWEEN ").toList :=
      (Text.not_mem_append_iff _ _).2 ⟨hcolumn, by decide⟩
    have hbetween : " BETWEEN ? AND ?" = " BETWEEN " ++ "?" ++ " AND " ++ "?" := rfl
    have hfirst : Aligned lit ⟨column ++ " BETWEEN " ++ "?", [low]⟩
        (column ++ " BETWEEN " ++ lit low) := (aligned_mark low).text_append hlow
    have hboth := (hfirst.append_text (by decide : '?' ∉ " AND ".toList)).append (aligned_mark high)
    simp only [Condition.render, Written.condition]
    rw [hbetween]
    simp only [← String.append_assoc]
    exact hboth
  | inSet first rest negated =>
    have hkeyword : '?' ∉ (column ++ if negated then " NOT IN (" else " IN (").toList := by
      rw [Text.not_mem_append_iff]
      refine ⟨hcolumn, ?_⟩
      cases negated <;> decide
    exact ((aligned_marks (first :: rest)).text_append hkeyword).append_text (by decide)
  | isNull negated =>
    apply aligned_text
    rw [Text.not_mem_append_iff]
    refine ⟨hcolumn, ?_⟩
    cases negated <;> decide

/-- A matched filter is aligned with the filter with its values. -/
theorem aligned_filter {f : ResolvedFilter} (h : f.Matched) :
    Aligned lit ⟨f.text, f.params⟩ (Written.filter lit f) := by
  have hparts : ∀ e ∈ f.conditions, Aligned lit (e.2.render e.1.shown)
      (Written.condition lit e.1.shown e.2) := by
    intro e he
    obtain ⟨hcolumn, hcanonical, hraw⟩ := h e he
    exact aligned_condition hcolumn hcanonical hraw
  unfold ResolvedFilter.text ResolvedFilter.params ResolvedFilter.fragment Written.filter
  cases hconnective : f.connective with
  | and => exact aligned_joined_map (by decide) hparts
  | or =>
    have hjoined := aligned_joined_map (by decide : '?' ∉ " OR ".toList) hparts
    exact (hjoined.text_append (by decide)).append_text (by decide)

/-- A matched column to select is aligned with the column with the values of its raw SQL. -/
theorem aligned_column {v : Value} {f : Fragment} (hcolumn : Clause.column v = .ok f)
    (h : v.ColumnMatched) : Aligned lit f (Written.column lit v) := by
  cases v with
  | text s =>
    cases hcolumn
    exact aligned_text h
  | raw expr =>
    cases hcolumn
    exact aligned_raw h
  | _ => cases hcolumn

/-- Matched columns to select are aligned one by one with the columns with their values. -/
theorem aligned_of_mapM_column {list : List Value} {fragments : List Fragment}
    (hlist : list.mapM Clause.column = .ok fragments) (h : ∀ v ∈ list, v.ColumnMatched) :
    List.Forall₂ (Aligned lit) fragments (list.map (Written.column lit)) := by
  have hcolumns :=
    (List.forall₂_and_left list fragments).2 ⟨h, Result.forall₂_of_mapM_eq_ok hlist⟩
  rw [List.forall₂_map_right_iff]
  exact hcolumns.flip.imp fun _ _ hcolumn => aligned_column hcolumn.2 hcolumn.1

/-- The columns to select are a clause that is aligned with the columns with their values. -/
theorem clauseAligned_columns {list : List Value} {f : Fragment}
    (hlist : Clause.columns list = .ok f) (h : ∀ v ∈ list, v.ColumnMatched) :
    ClauseAligned lit f (some (Written.columns lit list)) := by
  unfold Clause.columns at hlist
  unfold Written.columns
  by_cases hempty : list.isEmpty = true
  · rw [if_pos hempty] at hlist ⊢
    cases hlist
    exact ⟨by decide, aligned_text (by decide)⟩
  · rw [if_neg hempty] at hlist ⊢
    obtain ⟨fragments, hfragments, hchosen⟩ := Result.bind_eq_ok_iff.1 hlist
    cases hchosen
    have hcolumns : List.Forall₂ (Aligned lit) fragments (list.map (Written.column lit)) :=
      aligned_of_mapM_column hfragments h
    exact ⟨by simp, (aligned_joined (by decide) hcolumns).text_append (by decide)⟩

/-- A matched assignment is aligned with the assignment with its value. -/
theorem aligned_assignment {e : Value × Value} (hcolumn : e.1.Unmarked) (h : e.2.RawMatched) :
    Aligned lit (Clause.assignment e) (e.1.shown ++ " = " ++ Written.assigned lit e.2) := by
  obtain ⟨column, value⟩ := e
  have hfront : '?' ∉ (column.shown ++ " = ").toList :=
    (Text.not_mem_append_iff _ _).2 ⟨hcolumn, by decide⟩
  have hmark : " = ?" = " = " ++ "?" := rfl
  cases value with
  | raw expr => exact (aligned_raw (h expr rfl)).text_append hfront
  | _ =>
    simp only [Clause.assignment, Written.assigned]
    rw [hmark, ← String.append_assoc]
    exact (aligned_mark _).text_append hfront

/-- Matched data is aligned with the data with its values. -/
theorem aligned_assignments {data : Entries} (h : data.Matched) :
    Aligned lit (Clause.assignments data) (Written.assignments lit data) := by
  apply aligned_joined_map (by decide)
  intro e he
  exact aligned_assignment (h e he).1 (h e he).2

/-- A clause without values is aligned with its text. -/
theorem clauseAligned_sql? {f : Fragment} (hsql : '?' ∉ f.sql.toList) (hparams : f.params = []) :
    ClauseAligned lit f f.sql? := by
  obtain ⟨sql, params⟩ := f
  cases hparams
  by_cases h : sql = ""
  · have hclause : Fragment.sql? ⟨sql, []⟩ = none := if_pos h
    rw [hclause]
    exact ⟨h, rfl⟩
  · rw [sql?_of_ne_empty h]
    exact ⟨h, aligned_text hsql⟩

/-- A text that is present is a clause without values. -/
theorem clauseAligned_text {text : String} (h : '?' ∉ text.toList) (hne : text ≠ "") :
    ClauseAligned lit ⟨text, []⟩ (some text) :=
  ⟨hne, aligned_text h⟩

/-- A name with its alias is unmarked when both are. -/
theorem not_mem_aliased {name tableAlias : Value} (hname : name.Unmarked)
    (halias : tableAlias.Unmarked) : '?' ∉ (Clause.aliased name tableAlias).toList := by
  unfold Clause.aliased
  split
  · simp only [Text.not_mem_append_iff]
    exact ⟨⟨hname, by decide⟩, halias⟩
  · exact hname

/-- The table that rows come from is a clause without values. -/
theorem clauseAligned_source {d : Draft} (h : d.Matched) {keyword : String}
    (hkeyword : '?' ∉ keyword.toList) (hne : keyword ≠ "") :
    ClauseAligned lit (Clause.source keyword d)
      (some (keyword ++ Clause.aliased d.table d.tableAlias)) := by
  apply clauseAligned_text
  · exact (Text.not_mem_append_iff _ _).2 ⟨hkeyword, not_mem_aliased h.table h.tableAlias⟩
  · exact fun hempty => hne (String.append_eq_empty_iff.1 hempty).1

/-- The table that a row is written to is a clause without values. -/
theorem clauseAligned_target {d : Draft} (h : d.Matched) {keyword : String}
    (hkeyword : '?' ∉ keyword.toList) :
    ClauseAligned lit (Clause.target keyword d)
      (some (keyword ++ d.table.shown ++ " SET")) := by
  apply clauseAligned_text
  · simp only [Text.not_mem_append_iff]
    exact ⟨⟨hkeyword, h.table⟩, by decide⟩
  · simp

/-- The joins are a clause without values. -/
theorem clauseAligned_joins {d : Draft} (h : d.Matched) :
    ClauseAligned lit (Clause.joins d) (Clause.joins? d.joins) := by
  rw [← Clause.sql?_joins]
  apply clauseAligned_sql? _ rfl
  apply (Text.not_mem_intercalate_iff (by decide) _).2
  intro text htext
  obtain ⟨j, hj, rfl⟩ := List.mem_map.1 htext
  have hunmarked := h.joins j hj
  have hkeyword : '?' ∉ j.kind.keyword.toList := by cases j.kind <;> decide
  unfold Clause.join
  simp only [Text.not_mem_append_iff]
  exact ⟨⟨⟨⟨hkeyword, by decide⟩, not_mem_aliased hunmarked.table hunmarked.tableAlias⟩,
    by decide⟩, hunmarked.condition⟩

/-- A keyword with its text is a clause without values. -/
theorem clauseAligned_keyed {keyword : String} (hkeyword : '?' ∉ keyword.toList)
    (hne : keyword ≠ "") {text : Value} (h : text.Unmarked) :
    ClauseAligned lit (Clause.keyed keyword text) (Written.keyed? keyword text) := by
  unfold Clause.keyed Written.keyed?
  by_cases hfull : text.isFull = true
  · rw [if_pos hfull, if_pos hfull]
    apply clauseAligned_text
    · exact (Text.not_mem_append_iff _ _).2 ⟨hkeyword, h⟩
    · exact fun hempty => hne (String.append_eq_empty_iff.1 hempty).1
  · rw [if_neg hfull, if_neg hfull]
    exact ⟨rfl, rfl⟩

/-- Matched filters are a clause that is aligned with the filters with their values. -/
theorem clauseAligned_filters {d : Draft} {filters : List ResolvedFilter}
    (hfilters : d.filters = filters.map ResolvedFilter.text)
    (hparams : d.filterParams = filters.flatMap ResolvedFilter.params)
    (h : ∀ f ∈ filters, f.Matched) :
    ClauseAligned lit (Clause.filters d) (Written.filters? lit filters) := by
  have hparts : ∀ f ∈ filters, Aligned lit ⟨f.text, f.params⟩ (Written.filter lit f) :=
    fun f hf => aligned_filter (h f hf)
  have hjoined := aligned_joined_map (by decide : '?' ∉ " AND ".toList) hparts
  unfold joined allParams at hjoined
  rw [List.map_map, List.flatMap_map] at hjoined
  unfold Clause.filters Written.filters?
  rw [hfilters, hparams]
  cases filters with
  | nil => exact ⟨rfl, rfl⟩
  | cons f rest => exact ⟨by simp, hjoined.text_append (by decide)⟩

/-- Matched data of an update is a clause that is aligned with the data with its values. -/
theorem clauseAligned_onDuplicate {d : Draft} (h : d.duplicateData.Matched) :
    ClauseAligned lit (Clause.onDuplicate d) (Written.onDuplicate? lit d.duplicateData) := by
  unfold Clause.onDuplicate Written.onDuplicate?
  by_cases hempty : d.duplicateData.isEmpty = true
  · rw [if_pos hempty, if_pos hempty]
    exact ⟨rfl, rfl⟩
  · rw [if_neg hempty, if_neg hempty]
    exact ⟨by simp, (aligned_assignments h).text_append (by decide)⟩

/-- Matched data of a row is a clause that is aligned with the data with its values. -/
theorem clauseAligned_assignments {data : Entries} (h : data.Matched)
    (hne : data.isEmpty = false) :
    ClauseAligned lit (Clause.assignments data) (some (Written.assignments lit data)) :=
  ⟨Clause.sql_assignments_ne_empty hne, aligned_assignments h⟩

end Fragment

/-- The limit and the offset are a clause without values when they are integers. -/
theorem Fragment.clauseAligned_paging {d : Draft} (h : d.Matched) {f : Fragment}
    (hpaging : Clause.paging d = .ok f) :
    ClauseAligned lit f (Written.paging? d.limit d.offset) := by
  obtain ⟨n, hlimit⟩ := h.limit
  obtain ⟨m, hoffset⟩ := h.offset
  rw [Clause.paging_of_int hlimit hoffset] at hpaging
  cases hpaging
  rw [hlimit, hoffset]
  unfold Written.paging?
  dsimp only
  by_cases hpositive : 0 < n
  · rw [if_pos hpositive, if_pos hpositive]
    apply Fragment.clauseAligned_text
    · have hskipped : '?' ∉ (if 0 < m then " OFFSET " ++ toString m else "").toList := by
        split
        · exact (Text.not_mem_append_iff _ _).2 ⟨by decide, Text.not_mem_toString m⟩
        · exact List.not_mem_nil
      rw [Text.not_mem_append_iff, Text.not_mem_append_iff]
      exact ⟨⟨by decide, Text.not_mem_toString n⟩, hskipped⟩
    · simp
  · rw [if_neg hpositive, if_neg hpositive]
    exact ⟨rfl, rfl⟩

namespace Fragment

/-- The clauses of a matched draft under matched filters are aligned one by one with the
clauses with their values. -/
theorem forall₂_clauseAligned {d : Draft} (h : d.Matched) {filters : List ResolvedFilter}
    (hfilters : d.filters = filters.map ResolvedFilter.text)
    (hparams : d.filterParams = filters.flatMap ResolvedFilter.params)
    (hmatched : ∀ f ∈ filters, f.Matched) {action : Action} {fragments : List Fragment}
    (hfragments : Statement.clauses d action = .ok fragments) :
    List.Forall₂ (ClauseAligned lit) fragments (Written.clauses lit d filters action) := by
  have hjoins : ClauseAligned lit (Clause.joins d) (Clause.joins? d.joins) := clauseAligned_joins h
  have hwhere : ClauseAligned lit (Clause.filters d) (Written.filters? lit filters) :=
    clauseAligned_filters hfilters hparams hmatched
  have hgroup : ClauseAligned lit (Clause.keyed "GROUP BY " d.groupBy)
      (Written.keyed? "GROUP BY " d.groupBy) :=
    clauseAligned_keyed (by decide) (by decide) h.groupBy
  have hfrom : ClauseAligned lit (Clause.source "FROM " d)
      (some ("FROM " ++ Clause.aliased d.table d.tableAlias)) :=
    clauseAligned_source h (by decide) (by decide)
  cases action with
  | select =>
    obtain ⟨columns, hcolumns, hfragments⟩ := Result.bind_eq_ok_iff.1 hfragments
    obtain ⟨paging, hpaging, hfragments⟩ := Result.bind_eq_ok_iff.1 hfragments
    cases hfragments
    exact .cons (clauseAligned_columns hcolumns h.columns) (.cons hfrom (.cons hjoins
      (.cons hwhere (.cons hgroup (.cons (clauseAligned_keyed (by decide) (by decide) h.orderBy)
      (.cons (clauseAligned_paging h hpaging) .nil))))))
  | count =>
    cases hfragments
    have hcount : '?' ∉ ("SELECT COUNT(" ++ d.countColumn.shown ++ ") AS cnt").toList := by
      simp only [Text.not_mem_append_iff]
      exact ⟨⟨by decide, h.countColumn⟩, by decide⟩
    exact .cons (clauseAligned_text hcount (by simp)) (.cons hfrom (.cons hjoins
      (.cons hwhere (.cons hgroup .nil))))
  | insert =>
    obtain ⟨hne, rfl⟩ := Statement.clauses_insert_eq_ok_iff.1 hfragments
    exact .cons (clauseAligned_target h (by decide)) (.cons
      (clauseAligned_assignments h.data (by simpa using hne)) (.cons
      (clauseAligned_onDuplicate h.duplicateData) .nil))
  | update =>
    obtain ⟨hne, rfl⟩ := Statement.clauses_update_eq_ok_iff.1 hfragments
    exact .cons (clauseAligned_target h (by decide)) (.cons
      (clauseAligned_assignments h.data (by simpa using hne)) (.cons hwhere .nil))
  | delete =>
    cases hfragments
    exact .cons (clauseAligned_source h (by decide) (by decide)) (.cons hwhere .nil)

end Fragment

/-- A statement that a builder gives after a run of matched calls, some of which may be
refused, has a value for each question mark. With the values put in from left to right,
it is the statement in which every value was written at once where it belongs. -/
theorem Builder.inlined_eq_written (lit : Value → String)
    {table tableAlias options : Value} {sink : Option Sink} {b : Builder}
    (hb : Builder.create table tableAlias options sink = .ok b) (htable : table.Unmarked)
    (halias : tableAlias.Unmarked) {run : List Call} (hrun : ∀ c ∈ run, c.Matched)
    {statement : Statement} (hgives : (b.after run).Gives statement) :
    statement.sql.toList.count '?' = statement.params.length ∧
      Text.inlined lit statement.sql.toList statement.params =
        (Written.statement lit (b.after run).draft (b.standingFilters run)
          statement.action).toList := by
  have hstart := draft_of_create hb
  have hfilters := filters_after (congrArg Draft.filters hstart)
    (congrArg Draft.filterParams hstart) run
  have hdraft := matched_after (matched_of_create hb htable halias) hrun
  have hmatched : ∀ f ∈ b.standingFilters run, f.Matched :=
    fun f hf => matched_of_mem_standingFilters hrun hf
  obtain ⟨fragments, hfragments, hsql, hparams⟩ :=
    Statement.exists_clauses_of_ofDraft (gives_iff.1 hgives)
  have hwritten : Fragment.Aligned lit (Fragment.clauses fragments)
      (Written.statement lit (b.after run).draft (b.standingFilters run) statement.action) :=
    Fragment.aligned_clauses
      (Fragment.forall₂_clauseAligned hdraft hfilters.1 hfilters.2 hmatched hfragments)
  have hclauses : Fragment.clauses fragments = ⟨statement.sql, statement.params⟩ := by
    rw [hsql, hparams, ← Fragment.sql_clauses]
    rfl
  rw [hclauses] at hwritten
  exact ⟨hwritten.count, hwritten.inlined⟩

/-- A run with two filters, a refused limit and an update to a text with a question mark. -/
def Written.updateRun : List Call :=
  [.filter .and (.mapping [(.text "id", .list [.text "between", .tuple [.int 1, .int 9]])]),
    .limit (.int (-1)) (.int 0),
    .filter .or (.mapping [(.text "role", .raw ⟨"LOWER(?)", [.text "ADMIN"]⟩),
      (.text "age", .int 30)]),
    .update (.mapping [(.text "name", .text "who?")])]

/-- The update that the run ends in. -/
def Written.updateStatement : Statement where
  sql := "UPDATE users SET name = ? WHERE id BETWEEN ? AND ? AND (role = LOWER(?) OR age = ?)"
  params := [.text "who?", .int 1, .int 9, .text "ADMIN", .int 30]
  action := .update

/-- The update is given, and with its values put in it is the text with all values in place. -/
theorem Builder.inlined_eq_written_updateStatement :
    ((ofTable "users").after Written.updateRun).Gives Written.updateStatement ∧
      Written.updateStatement.sql.toList.count '?' = Written.updateStatement.params.length ∧
      Text.inlined Value.shown Written.updateStatement.sql.toList Written.updateStatement.params =
        (Written.statement Value.shown ((ofTable "users").after Written.updateRun).draft
          ((ofTable "users").standingFilters Written.updateRun) .update).toList := by
  have hgives : ((ofTable "users").after Written.updateRun).Gives Written.updateStatement :=
    Or.inl rfl
  have hrun : ∀ c ∈ Written.updateRun, c.Matched := by
    intro c hc
    simp only [Written.updateRun, List.mem_cons, List.not_mem_nil, or_false] at hc
    rcases hc with rfl | rfl | rfl | rfl
    · intro entries hentries e he
      cases hentries
      cases List.mem_singleton.1 he
      exact ⟨by decide, fun expr hexpr => by cases hexpr⟩
    · trivial
    · intro entries hentries e he
      cases hentries
      rcases List.mem_cons.1 he with rfl | he
      · exact ⟨by decide, fun expr hexpr => by cases hexpr; decide⟩
      · cases List.mem_singleton.1 he
        exact ⟨by decide, fun expr hexpr => by cases hexpr⟩
    · intro e he
      cases List.mem_singleton.1 he
      exact ⟨by decide, fun expr hexpr => by cases hexpr⟩
  exact ⟨hgives, inlined_eq_written Value.shown (create_text "users") (by decide) (by decide)
    hrun hgives⟩

end BoundSql
