import BoundSql.Proofs.ResolvedFilter
import BoundSql.Statement
import Mathlib.Data.List.ReduceOption

/-!
# The layout of statements

A statement is the texts of its clauses with a space between neighbours, where a
clause that is absent leaves no trace. Where the joins and the filters stand among
the clauses depends on the kind of statement alone, and they are the only clauses
that the joins and filters of a draft have an effect on.
-/

namespace BoundSql

/-- Texts with a space between neighbours; one that is absent leaves no trace. -/
def spaced (texts : List (Option String)) : String :=
  " ".intercalate texts.reduceOption

namespace Fragment

/-- The text of a fragment as a clause, which is absent when the text is empty. -/
def sql? (f : Fragment) : Option String :=
  if f.sql = "" then none else some f.sql

/-- The clauses that are present are those with text. -/
theorem reduceOption_map_sql? (fragments : List Fragment) :
    (fragments.map sql?).reduceOption = (fragments.map fun f => f.sql).filter (· != "") := by
  induction fragments with
  | nil => rfl
  | cons f rest ih =>
    rw [List.map_cons, List.map_cons]
    by_cases h : f.sql = ""
    · have hclause : f.sql? = none := if_pos h
      rw [hclause, List.reduceOption_cons_of_none, ih, List.filter_cons_of_neg (by simpa using h)]
    · have hclause : f.sql? = some f.sql := if_neg h
      rw [hclause, List.reduceOption_cons_of_some, ih, List.filter_cons_of_pos (by simpa using h)]

/-- The text of clauses is that of those that are present. -/
theorem sql_clauses (fragments : List Fragment) :
    (clauses fragments).sql = spaced (fragments.map sql?) := by
  unfold clauses spaced
  rw [reduceOption_map_sql?]

/-- A fragment with text is a clause that is present. -/
theorem sql?_of_ne_empty {f : Fragment} (h : f.sql ≠ "") : f.sql? = some f.sql :=
  if_neg h

end Fragment

/-- A last text that is present stands behind a space when another one is present. -/
theorem spaced_concat {texts : List (Option String)} (text : String)
    (h : texts.reduceOption ≠ []) :
    spaced (texts ++ [some text]) = spaced texts ++ " " ++ text := by
  unfold spaced
  rw [List.reduceOption_append, List.reduceOption_singleton, Option.toList_some,
    String.intercalate_append_of_ne_nil h (by simp), String.intercalate_singleton]

/-- Integers are ordered as the numbers that they stand for. -/
theorem Number.less_ofInt (m n : Int) : (ofInt m).less (ofInt n) = decide (m < n) := by
  change decide ((m : Rat) < (n : Rat)) = decide (m < n)
  exact decide_eq_decide.2 Rat.intCast_lt_intCast

/-- Integers are equal when the numbers that they stand for are. -/
theorem Number.same_ofInt (m n : Int) : (ofInt m).same (ofInt n) = decide (m = n) := by
  change ((m : Rat) == (n : Rat)) = decide (m = n)
  rw [Bool.eq_iff_iff, beq_iff_eq, decide_eq_true_iff]
  exact Rat.intCast_inj

namespace Clause

/-- The clause of joins, absent without any. -/
def joins? (joins : List Join) : Option String :=
  if joins.isEmpty then none else some (" ".intercalate (joins.map join))

/-- The clause of filters, absent without any. -/
def filters? (filters : List ResolvedFilter) : Option String :=
  if filters.isEmpty then none
  else some ("WHERE " ++ " AND ".intercalate (filters.map ResolvedFilter.text))

/-- The clause of filters is present when there is a filter. -/
theorem isSome_filters?_iff (filters : List ResolvedFilter) :
    (filters? filters).isSome = true ↔ filters ≠ [] := by
  cases filters <;> simp [filters?]

/-- Filters behind other clauses stand behind the keyword. -/
theorem spaced_concat_filters? (texts : List (Option String)) {filters : List ResolvedFilter}
    (htexts : texts.reduceOption ≠ []) (hfilters : filters ≠ []) :
    spaced (texts ++ [filters? filters]) =
      spaced texts ++ " WHERE " ++ " AND ".intercalate (filters.map ResolvedFilter.text) := by
  have hclause : filters? filters =
      some ("WHERE " ++ " AND ".intercalate (filters.map ResolvedFilter.text)) :=
    if_neg (by simpa using hfilters)
  have hkeyword : " WHERE " = " " ++ "WHERE " := rfl
  rw [hclause, spaced_concat _ htexts, hkeyword]
  simp only [String.append_assoc]

/-- The rows of a draft come from the table that it is about. -/
theorem sql?_source (keyword : String) (hkeyword : keyword ≠ "") (d : Draft) :
    (source keyword d).sql? = some (keyword ++ aliased d.table d.tableAlias) :=
  Fragment.sql?_of_ne_empty (by simp [source, hkeyword])

/-- A join is not without text. -/
theorem join_ne_empty (j : Join) : join j ≠ "" := by
  simp [join]

/-- The joins of a draft are a clause that is present when there is one. -/
theorem sql?_joins (d : Draft) : (joins d).sql? = joins? d.joins := by
  unfold joins joins? Fragment.sql?
  cases d.joins with
  | nil => rfl
  | cons j rest =>
    have hj := join_ne_empty j
    cases rest with
    | nil => simp [hj]
    | cons k rest => simp [hj]

/-- The filters of a draft are a clause that is present when there is one. -/
theorem sql?_filters {d : Draft} {filters : List ResolvedFilter}
    (h : d.filters = filters.map ResolvedFilter.text) :
    (Clause.filters d).sql? = filters? filters := by
  unfold Clause.filters filters? Fragment.sql?
  rw [h]
  cases filters with
  | nil => rfl
  | cons f rest => simp

/-- The values of the filters of a draft go with the clause. -/
theorem params_filters {d : Draft} {filters : List ResolvedFilter}
    (h : d.filters = filters.map ResolvedFilter.text)
    (hparams : d.filterParams = filters.flatMap ResolvedFilter.params) :
    (Clause.filters d).params = filters.flatMap ResolvedFilter.params := by
  unfold Clause.filters
  rw [h]
  cases filters with
  | nil => rfl
  | cons f rest => exact hparams

/-- An assignment is not without text. -/
theorem sql_assignment_ne_empty (e : Value × Value) : (assignment e).sql ≠ "" := by
  obtain ⟨column, value⟩ := e
  cases value <;> simp [assignment]

/-- The assignments of data that is not empty are not without text. -/
theorem sql_assignments_ne_empty {data : Entries} (hne : data.isEmpty = false) :
    (assignments data).sql ≠ "" := by
  cases data with
  | nil => cases hne
  | cons e rest =>
    have hfirst := sql_assignment_ne_empty e
    unfold assignments Fragment.joined
    cases rest with
    | nil => simpa using hfirst
    | cons second rest => simp [hfirst]

/-- A limit above zero is shown, and behind it an offset above zero. -/
theorem paging_of_int {d : Draft} {n m : Int} (hlimit : d.limit = .int n)
    (hoffset : d.offset = .int m) :
    paging d = .ok ⟨if 0 < n then
      "LIMIT " ++ toString n ++ (if 0 < m then " OFFSET " ++ toString m else "") else "", []⟩ := by
  have hnumber : ∀ k : Int, number (.int k) = .ok (.ofInt k) := fun k => rfl
  unfold paging
  rw [hlimit, hoffset, hnumber, hnumber]
  change (if (Number.ofInt n).less (.ofInt 0) || (Number.ofInt n).same (.ofInt 0) then _
    else _) = _
  rw [Number.less_ofInt, Number.same_ofInt]
  by_cases hpositive : 0 < n
  · rw [if_neg (by simp; omega), if_pos hpositive]
    change Except.ok _ = _
    rw [Number.less_ofInt]
    simp only [decide_eq_true_eq]
    rfl
  · rw [if_pos (by simp; omega), if_neg hpositive]
    rfl

/-- Paging brings no values. -/
theorem params_paging {d : Draft} {f : Fragment} (h : paging d = .ok f) : f.params = [] := by
  unfold paging at h
  obtain ⟨limit, -, h⟩ := Result.bind_eq_ok_iff.1 h
  split at h
  · cases h
    rfl
  · obtain ⟨offset, -, h⟩ := Result.bind_eq_ok_iff.1 h
    cases h
    rfl

end Clause

namespace Statement

/-- A statement of a draft shows joins and filters: the clause of the filters stands
where its kind has one, with their values in its place among the values, the clause
of the joins stands where its kind has one, and all other clauses are those of the
draft, in the order of the grammar. -/
def Shows (statement : Statement) (d : Draft) (joins : List Join)
    (filters : List ResolvedFilter) : Prop :=
  match statement.action with
  | .select => ∃ columns paging,
      Clause.columns d.columns = .ok columns ∧ Clause.paging d = .ok paging ∧
      statement.sql = spaced [columns.sql?, (Clause.source "FROM " d).sql?, Clause.joins? joins,
        Clause.filters? filters, (Clause.keyed "GROUP BY " d.groupBy).sql?,
        (Clause.keyed "ORDER BY " d.orderBy).sql?, paging.sql?] ∧
      statement.params = columns.params ++ filters.flatMap ResolvedFilter.params
  | .count =>
      statement.sql = spaced [(Clause.count d).sql?, (Clause.source "FROM " d).sql?,
        Clause.joins? joins, Clause.filters? filters,
        (Clause.keyed "GROUP BY " d.groupBy).sql?] ∧
      statement.params = filters.flatMap ResolvedFilter.params
  | .update =>
      statement.sql = spaced [(Clause.target "UPDATE " d).sql?, (Clause.assignments d.data).sql?,
        Clause.filters? filters] ∧
      statement.params = (Clause.assignments d.data).params ++ filters.flatMap ResolvedFilter.params
  | .delete =>
      statement.sql = spaced [(Clause.source "DELETE FROM " d).sql?, Clause.filters? filters] ∧
      statement.params = filters.flatMap ResolvedFilter.params
  | .insert =>
      statement.sql = spaced [(Clause.target "INSERT INTO " d).sql?,
        (Clause.assignments d.data).sql?, (Clause.onDuplicate d).sql?] ∧
      statement.params = (Clause.assignments d.data).params ++ (Clause.onDuplicate d).params

/-- A row is inserted only with data. -/
theorem clauses_insert_eq_ok_iff {d : Draft} {fragments : List Fragment} :
    clauses d .insert = .ok fragments ↔ d.data.isEmpty = false ∧
      [Clause.target "INSERT INTO " d, Clause.assignments d.data, Clause.onDuplicate d] =
        fragments := by
  simp only [clauses, insertClauses]
  cases d.data.isEmpty <;> simp

/-- Rows are updated only with data. -/
theorem clauses_update_eq_ok_iff {d : Draft} {fragments : List Fragment} :
    clauses d .update = .ok fragments ↔ d.data.isEmpty = false ∧
      [Clause.target "UPDATE " d, Clause.assignments d.data, Clause.filters d] = fragments := by
  simp only [clauses, updateClauses]
  cases d.data.isEmpty <;> simp

/-- The statement of a draft is made of the clauses of its action. -/
theorem exists_clauses_of_ofDraft {d : Draft} {statement : Statement}
    (h : ofDraft d = .ok statement) :
    ∃ fragments, clauses d statement.action = .ok fragments ∧
      statement.sql = spaced (fragments.map Fragment.sql?) ∧
      statement.params = Fragment.allParams fragments := by
  unfold ofDraft at h
  obtain ⟨action, -, h⟩ := Result.bind_eq_ok_iff.1 h
  obtain ⟨fragments, hfragments, rfl⟩ := Result.map_eq_ok_iff.1 h
  exact ⟨fragments, hfragments, Fragment.sql_clauses fragments, rfl⟩

/-- The statement of a draft shows its joins and filters. -/
theorem shows_of_ofDraft {d : Draft} {statement : Statement} {filters : List ResolvedFilter}
    (h : ofDraft d = .ok statement) (hfilters : d.filters = filters.map ResolvedFilter.text)
    (hparams : d.filterParams = filters.flatMap ResolvedFilter.params) :
    statement.Shows d d.joins filters := by
  obtain ⟨fragments, hfragments, hsql, hvalues⟩ := exists_clauses_of_ofDraft h
  have hclause := Clause.sql?_filters hfilters
  have hbound := Clause.params_filters hfilters hparams
  have hjoins := Clause.sql?_joins d
  unfold Shows
  cases haction : statement.action with
  | select =>
    rw [haction] at hfragments
    obtain ⟨columns, hcolumns, hfragments⟩ := Result.bind_eq_ok_iff.1 hfragments
    obtain ⟨paging, hpaging, hfragments⟩ := Result.bind_eq_ok_iff.1 hfragments
    cases hfragments
    refine ⟨columns, paging, hcolumns, hpaging, ?_, ?_⟩
    · rw [hsql, ← hclause, ← hjoins]
      rfl
    · have hpages := Clause.params_paging hpaging
      rw [hvalues, ← hbound]
      simp [Clause.rows, Clause.source, Clause.joins, Clause.keyed, hpages]
  | count =>
    rw [haction] at hfragments
    cases hfragments
    constructor
    · rw [hsql, ← hclause, ← hjoins]
      rfl
    · rw [hvalues, ← hbound]
      simp [countClauses, Clause.rows, Clause.count, Clause.source, Clause.joins, Clause.keyed]
  | insert =>
    rw [haction] at hfragments
    obtain ⟨-, rfl⟩ := clauses_insert_eq_ok_iff.1 hfragments
    refine ⟨hsql, ?_⟩
    rw [hvalues]
    simp [Clause.target]
  | update =>
    rw [haction] at hfragments
    obtain ⟨-, rfl⟩ := clauses_update_eq_ok_iff.1 hfragments
    constructor
    · rw [hsql, ← hclause]
      rfl
    · rw [hvalues, ← hbound]
      simp [Clause.target]
  | delete =>
    rw [haction] at hfragments
    cases hfragments
    constructor
    · rw [hsql, ← hclause]
      rfl
    · rw [hvalues, ← hbound]
      simp [deleteClauses, Clause.source]

/-- An update or a deletion that shows filters ends in all of them. -/
theorem Shows.sql_of_changing {statement : Statement} {d : Draft} {joins : List Join}
    {filters : List ResolvedFilter} (h : statement.Shows d joins filters)
    (haction : statement.action = .update ∨ statement.action = .delete) (hne : filters ≠ []) :
    ∃ opening, statement.sql =
      opening ++ " WHERE " ++ " AND ".intercalate (filters.map ResolvedFilter.text) := by
  unfold Shows at h
  rcases haction with haction | haction
  · rw [haction] at h
    have htarget : (Clause.target "UPDATE " d).sql ≠ "" := by simp [Clause.target]
    have hpresent := Fragment.sql?_of_ne_empty htarget
    refine ⟨_, h.1.trans (Clause.spaced_concat_filters? [_, _] ?_ hne)⟩
    rw [hpresent, List.reduceOption_cons_of_some]
    exact List.cons_ne_nil _ _
  · rw [haction] at h
    have hsource : (Clause.source "DELETE FROM " d).sql ≠ "" := by simp [Clause.source]
    have hpresent := Fragment.sql?_of_ne_empty hsource
    refine ⟨_, h.1.trans (Clause.spaced_concat_filters? [_] ?_ hne)⟩
    rw [hpresent, List.reduceOption_cons_of_some]
    exact List.cons_ne_nil _ _

end Statement

end BoundSql
