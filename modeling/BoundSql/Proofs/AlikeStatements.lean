import BoundSql.Proofs.AlikeDrafts
import BoundSql.Proofs.Layout

/-!
# Statements of the same shape

Drafts that differ in bound values alone are built to statements of the same text, kind
and number of values, or they are refused alike.
-/

namespace BoundSql

open Result (Agree)

namespace Clause

/-- One column of the same text is written alike, or refused alike. -/
theorem agree_column {v w : Value} (h : v.TextAlike w) :
    Agree Fragment.Alike (column v) (column w) := by
  cases h with
  | same => exact .refl Fragment.Alike.refl _
  | raw h => exact .ok ⟨h.sql, h.bindings⟩

/-- Columns of the same texts are written alike, or refused alike. -/
theorem agree_columns {list others : List Value} (h : List.Forall₂ Value.TextAlike list others) :
    Agree Fragment.Alike (columns list) (columns others) := by
  have heach := Agree.mapM h fun v w hcolumn => agree_column hcolumn
  unfold columns
  cases h with
  | nil => exact .ok ⟨rfl, rfl⟩
  | cons hfirst hrest =>
    simp only [List.isEmpty_cons, Bool.false_eq_true, if_false]
    apply heach.bind
    intro fragments others hfragments
    have hjoined := Fragment.alike_joined ", " hfragments
    exact .ok ⟨congrArg ("SELECT " ++ ·) hjoined.sql, hjoined.params⟩

/-- A keyword with the same text is written alike. -/
theorem alike_keyed (keyword : String) {v w : Value} (h : v.TextAlike w) :
    (keyed keyword v).Alike (keyed keyword w) := by
  unfold keyed
  rw [h.isFull_eq, h.shown_eq]
  exact .refl _

/-- The same table is written alike as one that rows come from. -/
theorem alike_source (keyword : String) {d e : Draft} (h : d.Alike e) :
    (source keyword d).Alike (source keyword e) := by
  unfold source
  rw [h.table, h.tableAlias]
  exact .refl _

/-- The same table is written alike as one that a row is written to. -/
theorem alike_target (keyword : String) {d e : Draft} (h : d.Alike e) :
    (target keyword d).Alike (target keyword e) := by
  unfold target
  rw [h.table]
  exact .refl _

/-- Joins of the same texts are the same texts one by one. -/
theorem map_join_eq {joins others : List Join} (h : List.Forall₂ Join.Alike joins others) :
    joins.map join = others.map join := by
  induction h with
  | nil => rfl
  | @cons j k rest others hfirst _ ih =>
    have htext : join j = join k := by
      unfold join
      rw [hfirst.kind, hfirst.table, hfirst.tableAlias, hfirst.condition.shown_eq]
    rw [List.map_cons, List.map_cons, htext, ih]

/-- Joins of the same texts are written alike. -/
theorem alike_joins {d e : Draft} (h : d.Alike e) : (joins d).Alike (joins e) := by
  unfold joins
  rw [map_join_eq h.joins]
  exact .refl _

/-- Filters of the same texts are written alike. -/
theorem alike_filters {d e : Draft} (h : d.Alike e) : (filters d).Alike (filters e) := by
  unfold filters
  rw [h.filters]
  split
  · exact .refl _
  · exact ⟨rfl, h.filterParams⟩

/-- A column with a value of the same shape is written alike. -/
theorem alike_assignment {e f : Value × Value} (hcolumn : e.1 = f.1)
    (h : e.2.AssignedAlike f.2) : (assignment e).Alike (assignment f) := by
  obtain ⟨column, v⟩ := e
  obtain ⟨column', w⟩ := f
  cases hcolumn
  have hbound : ∀ u : Value, (∀ expr, u ≠ .raw expr) →
      assignment (column, u) = ⟨column.shown ++ " = ?", [u]⟩ := by
    intro u hu
    cases u with
    | raw expr => exact absurd rfl (hu expr)
    | _ => rfl
  cases h with
  | raw h => exact ⟨congrArg (column.shown ++ " = " ++ ·) h.sql, h.bindings⟩
  | bound hv hw =>
    rw [hbound _ hv, hbound _ hw]
    exact ⟨rfl, rfl⟩

/-- Data of the same shape is written alike. -/
theorem alike_assignments {data others : Entries}
    (h : Entries.Alike Value.AssignedAlike data others) :
    (assignments data).Alike (assignments others) := by
  apply Fragment.alike_joined
  rw [List.forall₂_map_left_iff, List.forall₂_map_right_iff]
  exact h.imp fun e f hentry => alike_assignment hentry.1 hentry.2

/-- Data of the same shape is empty alike. -/
theorem isEmpty_eq {data others : Entries} (h : Entries.Alike Value.AssignedAlike data others) :
    data.isEmpty = others.isEmpty := by
  cases h with
  | nil => rfl
  | cons => rfl

/-- Data of an update of the same shape is written alike. -/
theorem alike_onDuplicate {d e : Draft} (h : d.Alike e) :
    (onDuplicate d).Alike (onDuplicate e) := by
  have hupdates := alike_assignments h.duplicateData
  unfold onDuplicate
  rw [isEmpty_eq h.duplicateData]
  split
  · exact .refl _
  · exact ⟨congrArg ("ON DUPLICATE KEY UPDATE " ++ ·) hupdates.sql, hupdates.params⟩

/-- The same limit and offset are written alike. -/
theorem paging_eq {d e : Draft} (h : d.Alike e) : paging d = paging e := by
  unfold paging
  rw [h.limit, h.offset]

/-- The clauses that rows are taken from are alike one by one. -/
theorem alike_rows {d e : Draft} (h : d.Alike e) :
    List.Forall₂ Fragment.Alike (rows d) (rows e) :=
  .cons (alike_source _ h) (.cons (alike_joins h) (.cons (alike_filters h)
    (.cons (alike_keyed _ h.groupBy) .nil)))

end Clause

namespace Statement

/-- Statements of the same text and kind with as many values. -/
structure Alike (s t : Statement) : Prop where
  /-- The texts are the same. -/
  sql : s.sql = t.sql
  /-- There are as many values. -/
  params : s.params.length = t.params.length
  /-- The kinds are the same. -/
  action : s.action = t.action

/-- The clauses of drafts of the same shape are alike one by one, or they are refused
alike. -/
theorem agree_clauses {d e : Draft} (h : d.Alike e) (action : Action) :
    Agree (List.Forall₂ Fragment.Alike) (clauses d action) (clauses e action) := by
  cases action with
  | select =>
    apply (Clause.agree_columns h.columns).bind
    intro f g hcolumns
    rw [Clause.paging_eq h]
    apply Agree.bind_same
    intro paging
    apply Agree.ok
    exact List.rel_append (List.rel_append (.cons hcolumns .nil) (Clause.alike_rows h))
      (.cons (Clause.alike_keyed _ h.orderBy) (.cons (.refl paging) .nil))
  | count =>
    have hcount : (Clause.count d).Alike (Clause.count e) := by
      unfold Clause.count
      rw [h.countColumn.shown_eq]
      exact .refl _
    exact .ok (.cons hcount (Clause.alike_rows h))
  | insert =>
    simp only [clauses, insertClauses]
    rw [Clause.isEmpty_eq h.data]
    split
    · exact .error _
    · exact .ok (.cons (Clause.alike_target _ h) (.cons (Clause.alike_assignments h.data)
        (.cons (Clause.alike_onDuplicate h) .nil)))
  | update =>
    simp only [clauses, updateClauses]
    rw [Clause.isEmpty_eq h.data]
    split
    · exact .error _
    · exact .ok (.cons (Clause.alike_target _ h) (.cons (Clause.alike_assignments h.data)
        (.cons (Clause.alike_filters h) .nil)))
  | delete => exact .ok (.cons (Clause.alike_source _ h) (.cons (Clause.alike_filters h) .nil))

/-- Drafts of the same shape give statements of the same text and kind with as many values,
or they are refused alike. -/
theorem agree_ofDraft {d e : Draft} (h : d.Alike e) : Agree Alike (ofDraft d) (ofDraft e) := by
  unfold ofDraft
  rw [h.action]
  apply Agree.bind_same
  intro action
  apply (agree_clauses h action).map
  intro fragments others hfragments
  have hwhole := Fragment.alike_clauses hfragments
  exact ⟨hwhole.sql, hwhole.params, rfl⟩

end Statement

end BoundSql
