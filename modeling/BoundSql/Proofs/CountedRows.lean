import BoundSql.Proofs.Layout

/-!
# Rows and their count

A selection and the count of a draft take their rows from one text: the table, the
joins, the filters and the grouping. In front of it the selection has its columns
and the count has one number; behind it only a selection has something, which is
the order and the paging of rows. The columns are also the only clause with values
that a count lacks.
-/

namespace BoundSql

/-- Texts behind another one, each with a space in front; one that is absent leaves no
trace. -/
def followed : List (Option String) → String
  | [] => ""
  | none :: rest => followed rest
  | some text :: rest => " " ++ text ++ followed rest

/-- Texts that follow each other follow in two runs. -/
theorem followed_append (texts others : List (Option String)) :
    followed (texts ++ others) = followed texts ++ followed others := by
  induction texts with
  | nil => simp [followed]
  | cons text rest ih => cases text <;> simp [followed, ih, String.append_assoc]

/-- All texts behind a first one that is present follow it. -/
theorem spaced_some_cons (text : String) (rest : List (Option String)) :
    spaced (some text :: rest) = text ++ followed rest := by
  induction rest generalizing text with
  | nil => simp [spaced, followed]
  | cons next rest ih =>
    cases next with
    | none =>
      have hskip : spaced (some text :: none :: rest) = spaced (some text :: rest) := by
        simp [spaced]
      rw [hskip, ih, followed]
    | some next =>
      have hstep : spaced (some text :: some next :: rest) =
          text ++ " " ++ spaced (some next :: rest) := by
        simp [spaced]
      rw [hstep, ih, followed]
      simp only [String.append_assoc]

/-- Texts with one that is present in front follow as one text. -/
theorem followed_some_cons (text : String) (rest : List (Option String)) :
    followed (some text :: rest) = " " ++ spaced (some text :: rest) := by
  rw [spaced_some_cons, followed, String.append_assoc]

namespace Value

/-- The values that a column brings to a selection: those of raw SQL. -/
def columnBindings : Value → List Value
  | .raw expr => expr.bindings
  | _ => []

/-- Whether a value is a number that is zero or less. -/
def isAtMostZero (v : Value) : Bool :=
  v.number?.any fun n => n.less (.ofInt 0) || n.same (.ofInt 0)

/-- Whether a value is a number above zero. -/
def isAboveZero (v : Value) : Bool :=
  v.number?.any fun n => (Number.ofInt 0).less n

end Value

namespace Clause

/-- A keyword and its text as a clause, absent when the text is empty. -/
def keyed? (keyword : String) (text : Value) : Option String :=
  if text.isFull then some (keyword ++ text.shown) else none

/-- The texts of filters as a clause, absent without any. -/
def conditions? (texts : List String) : Option String :=
  if texts.isEmpty then none else some ("WHERE " ++ " AND ".intercalate texts)

/-- The paging of a draft as a clause, absent when the limit is zero or less. -/
def paging? (d : Draft) : Option String :=
  if d.limit.isAtMostZero then none
  else
    some ("LIMIT " ++ d.limit.shown ++
      if d.offset.isAboveZero then " OFFSET " ++ d.offset.shown else "")

/-- What the rows of a draft are taken from: its table with the alias, its joins, its
filters and its grouping. -/
def rowsText (d : Draft) : String :=
  spaced [some ("FROM " ++ aliased d.table d.tableAlias), joins? d.joins,
    conditions? d.filters, keyed? "GROUP BY " d.groupBy]

/-- A keyword with a text that is not empty is a clause that is present. -/
theorem sql?_keyed (keyword : String) (hkeyword : keyword ≠ "") (text : Value) :
    (keyed keyword text).sql? = keyed? keyword text := by
  unfold keyed keyed? Fragment.sql?
  cases text.isFull <;> simp [hkeyword]

/-- The filters of a draft are a clause that is present when there is one. -/
theorem sql?_conditions (d : Draft) : (filters d).sql? = conditions? d.filters := by
  unfold filters conditions? Fragment.sql?
  cases d.filters <;> simp

/-- A setting that stands for a number is that number. -/
theorem number?_of_number {setting : Value} {n : Number} (h : number setting = .ok n) :
    setting.number? = some n := by
  unfold number at h
  cases hread : setting.number? with
  | none =>
    rw [hread] at h
    cases h
  | some m =>
    rw [hread] at h
    cases h
    rfl

/-- Paging is a clause that is present when the limit is not zero or less. -/
theorem sql?_paging {d : Draft} {f : Fragment} (h : paging d = .ok f) : f.sql? = paging? d := by
  unfold paging at h
  obtain ⟨limit, hlimit, h⟩ := Result.bind_eq_ok_iff.1 h
  have hzero : d.limit.isAtMostZero = (limit.less (.ofInt 0) || limit.same (.ofInt 0)) := by
    rw [Value.isAtMostZero, number?_of_number hlimit, Option.any_some]
  unfold paging?
  rw [hzero]
  split at h
  · next hnone =>
    cases h
    rw [if_pos hnone]
    rfl
  · next hsome =>
    obtain ⟨offset, hoffset, h⟩ := Result.bind_eq_ok_iff.1 h
    have habove : d.offset.isAboveZero = (Number.ofInt 0).less offset := by
      rw [Value.isAboveZero, number?_of_number hoffset, Option.any_some]
    cases h
    rw [if_neg hsome, habove]
    exact Fragment.sql?_of_ne_empty (by simp)

/-- A column to select shows its text and brings the values of raw SQL. -/
theorem eq_of_column {v : Value} {f : Fragment} (h : column v = .ok f) :
    f = ⟨v.shown, v.columnBindings⟩ := by
  cases v with
  | text s => exact (Except.ok.inj h).symm
  | raw expr => exact (Except.ok.inj h).symm
  | _ => cases h

/-- The fragments of columns show their texts and bring their values in order. -/
theorem eq_map_of_mapM_column {list : List Value} {fragments : List Fragment}
    (h : list.mapM column = .ok fragments) :
    fragments = list.map fun v => ⟨v.shown, v.columnBindings⟩ := by
  have hcolumns := Result.forall₂_of_mapM_eq_ok h
  clear h
  induction hcolumns with
  | nil => rfl
  | cons hcolumn _ ih => rw [List.map_cons, eq_of_column hcolumn, ih]

/-- The columns to select show the texts of all columns and bring their values in order. -/
theorem eq_of_columns {d : Draft} {f : Fragment} (h : columns d.columns = .ok f) :
    f = ⟨"SELECT " ++ ", ".intercalate d.shownColumns, d.columns.flatMap Value.columnBindings⟩ := by
  unfold columns at h
  unfold Draft.shownColumns
  split at h
  · next hall =>
    cases h
    rw [if_pos hall, List.isEmpty_iff.1 hall]
    rfl
  · next hsome =>
    obtain ⟨fragments, hfragments, h⟩ := Result.bind_eq_ok_iff.1 h
    cases h
    rw [if_neg hsome, eq_map_of_mapM_column hfragments]
    simp [Fragment.joined, Fragment.allParams, List.flatMap_map, Function.comp_def]

/-- The clauses that rows are taken from are read as one text that starts with a space. -/
theorem followed_rows (d : Draft) :
    followed ((rows d).map Fragment.sql?) = " " ++ rowsText d := by
  have hsource := sql?_source "FROM " (by decide) d
  have hgroup := sql?_keyed "GROUP BY " (by decide) d.groupBy
  rw [rowsText, ← followed_some_cons, ← hsource, ← sql?_joins, ← sql?_conditions, ← hgroup]
  rfl

end Clause

namespace Statement

/-- The text of a selection is that of its columns, its rows, its order and its paging. -/
theorem sql_selection {d : Draft} {selected paging : Fragment}
    (hcolumns : Clause.columns d.columns = .ok selected) (hpaging : Clause.paging d = .ok paging) :
    spaced (([selected] ++ Clause.rows d ++ [Clause.keyed "ORDER BY " d.orderBy, paging]).map
      Fragment.sql?) =
      "SELECT " ++ ", ".intercalate d.shownColumns ++ " " ++ Clause.rowsText d ++
        followed [Clause.keyed? "ORDER BY " d.orderBy, Clause.paging? d] := by
  have hpresent : selected.sql? = some ("SELECT " ++ ", ".intercalate d.shownColumns) := by
    rw [Clause.eq_of_columns hcolumns]
    exact Fragment.sql?_of_ne_empty (by simp)
  have horder := Clause.sql?_keyed "ORDER BY " (by decide) d.orderBy
  rw [List.map_append, List.map_append, List.append_assoc, List.map_singleton, hpresent,
    List.singleton_append, spaced_some_cons, followed_append, Clause.followed_rows, ← horder,
    ← Clause.sql?_paging hpaging]
  simp only [String.append_assoc, List.map_cons, List.map_nil]

/-- The text of a count is that of its number and its rows. -/
theorem sql_count (d : Draft) :
    spaced ((countClauses d).map Fragment.sql?) =
      "SELECT COUNT(" ++ d.countColumn.shown ++ ") AS cnt " ++ Clause.rowsText d := by
  have hpresent : (Clause.count d).sql? =
      some ("SELECT COUNT(" ++ d.countColumn.shown ++ ") AS cnt") :=
    Fragment.sql?_of_ne_empty (by simp [Clause.count])
  have hspace : ") AS cnt " = ") AS cnt" ++ " " := rfl
  rw [countClauses, List.singleton_append, List.map_cons, hpresent, spaced_some_cons,
    Clause.followed_rows, hspace]
  simp only [String.append_assoc]

/-- A selection that is built from a draft and its count, which is built then too, take their
rows from one text. The count has the number of its column in front of it and nothing behind it.
The selection has its columns in front of it and only its order and its paging behind it, where
either may be absent. The values of the selection are those of its columns in order, and behind
them exactly those of the count. -/
theorem counts_selected_rows {d : Draft} {selection : Statement}
    (h : ofDraft { d with action := .known .select } = .ok selection) :
    ∃ counting, ofDraft { d with action := .known .count } = .ok counting ∧
      selection.action = .select ∧ counting.action = .count ∧
      counting.sql = "SELECT COUNT(" ++ d.countColumn.shown ++ ") AS cnt " ++ Clause.rowsText d ∧
      selection.sql = "SELECT " ++ ", ".intercalate d.shownColumns ++ " " ++ Clause.rowsText d ++
        followed [Clause.keyed? "ORDER BY " d.orderBy, Clause.paging? d] ∧
      selection.params = d.columns.flatMap Value.columnBindings ++ counting.params := by
  rw [ofDraft_of_known rfl] at h
  obtain ⟨fragments, hfragments, rfl⟩ := Result.map_eq_ok_iff.1 h
  obtain ⟨selected, hcolumns, hfragments⟩ := Result.bind_eq_ok_iff.1 hfragments
  obtain ⟨paging, hpaging, hfragments⟩ := Result.bind_eq_ok_iff.1 hfragments
  cases hfragments
  have hcount := ofDraft_of_known (d := { d with action := .known .count }) (a := .count) rfl
  refine ⟨ofClauses .count (countClauses d), hcount, rfl, rfl, ?_, ?_, ?_⟩
  · exact (Fragment.sql_clauses _).trans (sql_count d)
  · exact (Fragment.sql_clauses _).trans (sql_selection hcolumns hpaging)
  · -- Neither the number of a count nor the order or the paging of rows brings values.
    have hbrought : selected.params = d.columns.flatMap Value.columnBindings := by
      rw [Clause.eq_of_columns hcolumns]
    have hpages := Clause.params_paging hpaging
    change Fragment.allParams ([selected] ++ Clause.rows d ++ _) =
      _ ++ Fragment.allParams ([Clause.count d] ++ Clause.rows d)
    rw [← hbrought]
    simp [Fragment.allParams_append, Clause.keyed, Clause.count, hpages]

/-- A selection with raw SQL among its columns, a joined table, a filter, a grouping, an order and
a page. -/
def groupedSelection : Draft where
  table := .text "users"
  tableAlias := .text "u"
  columns := [.text "u.id", .raw ⟨"SUM(o.total) + ?", [.int 7]⟩]
  joins := [⟨.left, .text "orders", .text "o", .text "o.user_id = u.id"⟩]
  filters := ["u.status = ?"]
  filterParams := [.text "active"]
  groupBy := .text "u.id"
  orderBy := .text "u.name DESC"
  limit := .int 10
  offset := .int 20

theorem counts_selected_rows_groupedSelection :
    ∃ selection counting,
      ofDraft { groupedSelection with action := .known .select } = .ok selection ∧
      ofDraft { groupedSelection with action := .known .count } = .ok counting ∧
      counting.sql = "SELECT COUNT(*) AS cnt " ++ Clause.rowsText groupedSelection ∧
      selection.sql = "SELECT u.id, SUM(o.total) + ? " ++ Clause.rowsText groupedSelection ++
        " ORDER BY u.name DESC LIMIT 10 OFFSET 20" ∧
      Clause.rowsText groupedSelection = "FROM users AS u LEFT JOIN orders AS o ON " ++
        "o.user_id = u.id WHERE u.status = ? GROUP BY u.id" ∧
      selection.params = .int 7 :: counting.params := by
  have hbuilt : ∃ selection,
      ofDraft { groupedSelection with action := .known .select } = .ok selection := ⟨_, rfl⟩
  obtain ⟨selection, hselection⟩ := hbuilt
  obtain ⟨counting, hcounting, -, -, hnumber, hsql, hparams⟩ := counts_selected_rows hselection
  have hcolumns : "SELECT " ++ ", ".intercalate groupedSelection.shownColumns ++ " " =
      "SELECT u.id, SUM(o.total) + ? " := by decide +kernel
  have hbehind : followed [Clause.keyed? "ORDER BY " groupedSelection.orderBy,
      Clause.paging? groupedSelection] = " ORDER BY u.name DESC LIMIT 10 OFFSET 20" := by
    decide +kernel
  refine ⟨selection, counting, hselection, hcounting, hnumber, ?_, ?_, hparams⟩
  · rw [hsql, hcolumns, hbehind]
  · decide +kernel

end Statement

end BoundSql
