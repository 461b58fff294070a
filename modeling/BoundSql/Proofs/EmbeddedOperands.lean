import BoundSql.Proofs.StandingData
import BoundSql.Proofs.StandingSettings
import Mathlib.Data.List.Forall2

/-!
# Operands of statements

A statement takes in values and raw SQL. A value is bound: it stands for a question mark. Raw SQL
is embedded with its text, and its own values are bound in its place. What a statement takes in
can be told from its draft and the filters that stand: what is selected, what is assigned, and
what columns are compared with, in this order. Raw SQL is bound like a value only as a bound of a
range, as a member of a list, or as the value of a comparison that was given as a condition.
-/

namespace BoundSql

/-- What a statement takes in at one place. -/
inductive Operand where
  /-- A value, for a question mark. -/
  | bound (v : Value)
  /-- Raw SQL with its own values. -/
  | raw (expr : RawSql Value)

namespace Operand

/-- A value is bound unless it is raw SQL. -/
def ofValue : Value → Operand
  | .raw expr => .raw expr
  | v => .bound v

/-- The text of an operand. -/
def sql : Operand → String
  | bound _ => "?"
  | raw expr => expr.sql

/-- The values that an operand binds. -/
def params : Operand → List Value
  | bound v => [v]
  | raw expr => expr.bindings

end Operand

/-- An operand with the text that stands directly in front of it. -/
structure PlacedOperand where
  /-- The text in front. -/
  front : String
  /-- The operand. -/
  operand : Operand

/-- A fragment is made of texts without values and of operands, each of them behind its own text,
in a given order. -/
inductive Fragment.Embeds : Fragment → List PlacedOperand → Prop
  /-- A text embeds nothing. -/
  | text (sql : String) : Embeds ⟨sql, []⟩ []
  /-- An operand stands behind its own text. -/
  | operand (front : String) (o : Operand) : Embeds ⟨front ++ o.sql, o.params⟩ [⟨front, o⟩]
  /-- A fragment behind another one embeds its operands behind those of the other. -/
  | append {sql other : String} {values rest : List Value} {placed behind : List PlacedOperand} :
    Embeds ⟨sql, values⟩ placed → Embeds ⟨other, rest⟩ behind →
      Embeds ⟨sql ++ other, values ++ rest⟩ (placed ++ behind)

/-- The operands of a condition on a column. -/
def Condition.operands (column : String) : Condition Value → List PlacedOperand
  | .compare op value => [⟨column ++ " " ++ written op ++ " ", .bound value⟩]
  | .rawCompare op expr => [⟨column ++ " " ++ written op ++ " ", .raw expr⟩]
  | .between low high => [⟨column ++ " BETWEEN ", .bound low⟩, ⟨" AND ", .bound high⟩]
  | .inSet first rest negated =>
    ⟨column ++ (if negated then " NOT IN (" else " IN ("), .bound first⟩ ::
      rest.map fun v => ⟨", ", .bound v⟩
  | .isNull _ => []

/-- The operands of the conditions of a filter. -/
def ResolvedFilter.operands (f : ResolvedFilter) : List PlacedOperand :=
  f.conditions.flatMap fun e => e.2.operands e.1.shown

/-- The operands of assignments. -/
def Entries.operands (data : Entries) : List PlacedOperand :=
  data.map fun e => ⟨e.1.shown ++ " = ", .ofValue e.2⟩

/-- The operand of a column to select, which is one when it is raw SQL. -/
def Value.columnOperands : Value → List PlacedOperand
  | .raw expr => [⟨"", .raw expr⟩]
  | _ => []

/-- The operands of a statement of a draft under the filters that stand. -/
def Draft.operands (d : Draft) (filters : List ResolvedFilter) : Action → List PlacedOperand
  | .select => d.columns.flatMap Value.columnOperands ++ filters.flatMap ResolvedFilter.operands
  | .insert => d.data.operands ++ d.duplicateData.operands
  | .update => d.data.operands ++ filters.flatMap ResolvedFilter.operands
  | .count | .delete => filters.flatMap ResolvedFilter.operands

namespace Fragment

/-- A fragment without values embeds nothing. -/
theorem embeds_of_params_eq_nil {f : Fragment} (h : f.params = []) : Embeds f [] := by
  obtain ⟨sql, params⟩ := f
  cases h
  exact .text sql

/-- A text in front of a fragment. -/
theorem Embeds.text_append {sql : String} {values : List Value} {placed : List PlacedOperand}
    (h : Embeds ⟨sql, values⟩ placed) (front : String) :
    Embeds ⟨front ++ sql, values⟩ placed :=
  (Embeds.text front).append h

/-- A text behind a fragment. -/
theorem Embeds.append_text {sql : String} {values : List Value} {placed : List PlacedOperand}
    (h : Embeds ⟨sql, values⟩ placed) (behind : String) :
    Embeds ⟨sql ++ behind, values⟩ placed := by
  have happend := h.append (Embeds.text behind)
  rwa [List.append_nil, List.append_nil] at happend

/-- The values of a fragment are those that its operands bind, in order. -/
theorem Embeds.params_eq {f : Fragment} {placed : List PlacedOperand} (h : Embeds f placed) :
    f.params = placed.flatMap fun p => p.operand.params := by
  induction h with
  | text sql => rfl
  | operand front o => exact (List.flatMap_singleton _ _).symm
  | append _ _ ih ihbehind =>
    rw [List.flatMap_append]
    exact congrArg₂ _ ih ihbehind

/-- Fragments with a separator between them embed their operands in order. -/
theorem embeds_joined {fragments : List Fragment} {placed : List (List PlacedOperand)}
    (h : List.Forall₂ Embeds fragments placed) (separator : String) :
    Embeds (joined separator fragments) placed.flatten := by
  induction h with
  | nil => exact .text _
  | @cons f first fragments others hfirst hrest ih =>
    rw [List.flatten_cons]
    cases hrest with
    | nil =>
      unfold joined
      rw [List.map_singleton, String.intercalate_singleton, allParams_cons, allParams_nil,
        List.append_nil, List.flatten_nil, List.append_nil]
      exact hfirst
    | cons hsecond hrest =>
      have hboth := (hfirst.append_text separator).append ih
      unfold joined at hboth ⊢
      rw [List.map_cons, List.map_cons, String.intercalate_cons_cons, allParams_cons]
      exact hboth

/-- Fragments of the items of a list embed the operands of the items in order. -/
theorem embeds_joined_map {α : Type} (list : List α) {part : α → Fragment}
    {operands : α → List PlacedOperand} (h : ∀ a ∈ list, Embeds (part a) (operands a))
    (separator : String) :
    Embeds (joined separator (list.map part)) (list.flatMap operands) := by
  rw [List.flatMap_def]
  apply embeds_joined
  rw [List.forall₂_map_left_iff, List.forall₂_map_right_iff]
  exact List.forall₂_same.2 h

/-- A clause embeds operands, and nothing when it is without text. -/
structure ClauseEmbeds (f : Fragment) (placed : List PlacedOperand) : Prop where
  /-- The clause embeds them. -/
  embeds : Embeds f placed
  /-- A clause without text has no values. -/
  absent : f.sql = "" → f.params = [] ∧ placed = []

/-- A clause without values embeds nothing. -/
theorem clauseEmbeds_of_params_eq_nil {f : Fragment} (h : f.params = []) : ClauseEmbeds f [] :=
  ⟨embeds_of_params_eq_nil h, fun _ => ⟨h, rfl⟩⟩

/-- The clauses that are present embed all operands, and the absent ones have neither text nor
values. -/
theorem exists_present_of_clauseEmbeds {fragments : List Fragment}
    {placed : List (List PlacedOperand)} (h : List.Forall₂ ClauseEmbeds fragments placed) :
    ∃ present others, List.Forall₂ Embeds present others ∧
      (fragments.map fun f => f.sql).filter (· != "") = present.map (fun f => f.sql) ∧
      allParams fragments = allParams present ∧ placed.flatten = others.flatten := by
  induction h with
  | nil => exact ⟨[], [], .nil, rfl, rfl, rfl⟩
  | @cons f first fragments placed hfirst hrest ih =>
    obtain ⟨present, others, hembeds, hsql, hparams, hplaced⟩ := ih
    by_cases htext : f.sql = ""
    · obtain ⟨hnone, rfl⟩ := hfirst.absent htext
      refine ⟨present, others, hembeds, ?_, ?_, hplaced⟩
      · rw [List.map_cons, List.filter_cons_of_neg (by simp [htext]), hsql]
      · rw [allParams_cons, hnone, hparams]
        rfl
    · refine ⟨f :: present, first :: others, .cons hfirst.embeds hembeds, ?_, ?_, ?_⟩
      · rw [List.map_cons, List.filter_cons_of_pos (by simp [htext]), hsql, List.map_cons]
      · rw [allParams_cons, allParams_cons, hparams]
      · rw [List.flatten_cons, List.flatten_cons, hplaced]

/-- The clauses of a statement embed their operands in order. -/
theorem embeds_clauses {fragments : List Fragment} {placed : List (List PlacedOperand)}
    (h : List.Forall₂ ClauseEmbeds fragments placed) :
    Embeds (clauses fragments) placed.flatten := by
  obtain ⟨present, others, hembeds, hsql, hparams, hplaced⟩ := exists_present_of_clauseEmbeds h
  unfold clauses
  rw [hsql, hparams, hplaced]
  exact embeds_joined hembeds " "

/-- As many question marks as values embed the values. -/
theorem embeds_placeholders (front : String) (first : Value) (rest : List Value) :
    Embeds ⟨front ++ Condition.placeholders (first :: rest), first :: rest⟩
      (⟨front, .bound first⟩ :: rest.map fun v => ⟨", ", .bound v⟩) := by
  induction rest generalizing front first with
  | nil => exact .operand front (.bound first)
  | cons second rest ih =>
    have hfirst : Embeds ⟨front ++ "?", [first]⟩ [⟨front, .bound first⟩] :=
      .operand front (.bound first)
    have hboth := hfirst.append (ih ", " second)
    have hsql : front ++ Condition.placeholders (first :: second :: rest) =
        front ++ "?" ++ (", " ++ Condition.placeholders (second :: rest)) := by
      unfold Condition.placeholders
      simp only [List.map_cons, String.intercalate_cons_cons, String.append_assoc]
    rw [hsql]
    exact hboth

/-- A condition embeds its operands. -/
theorem embeds_condition (column : String) (c : Condition Value) :
    Embeds (c.render column) (c.operands column) := by
  cases c with
  | compare op value =>
    have hmark : " ?" = " " ++ "?" := rfl
    simp only [Condition.render, Condition.operands]
    rw [hmark, ← String.append_assoc]
    exact .operand _ (.bound value)
  | rawCompare op expr => exact .operand _ (.raw expr)
  | between low high =>
    have hsql : column ++ " BETWEEN ? AND ?" = column ++ " BETWEEN " ++ "?" ++ (" AND " ++ "?") := by
      simp only [String.append_assoc]
      rfl
    have hlow : Embeds ⟨column ++ " BETWEEN " ++ "?", [low]⟩
        [⟨column ++ " BETWEEN ", .bound low⟩] := .operand _ (.bound low)
    have hhigh : Embeds ⟨" AND " ++ "?", [high]⟩ [⟨" AND ", .bound high⟩] :=
      .operand _ (.bound high)
    have hboth := hlow.append hhigh
    simp only [Condition.render, Condition.operands]
    rw [hsql]
    exact hboth
  | inSet first rest negated => exact (embeds_placeholders _ first rest).append_text ")"
  | isNull negated => exact .text _

/-- A filter embeds the operands of its conditions. -/
theorem embeds_filter (f : ResolvedFilter) : Embeds ⟨f.text, f.params⟩ f.operands := by
  have hjoined := embeds_joined_map f.conditions
    (fun e _ => embeds_condition e.1.shown e.2) (" " ++ f.connective.keyword ++ " ")
  unfold ResolvedFilter.text ResolvedFilter.params ResolvedFilter.operands
  cases f.connective with
  | and => exact hjoined
  | or => exact (hjoined.text_append "(").append_text ")"

/-- The clause of the filters that stand embeds their operands. -/
theorem clauseEmbeds_filters {d : Draft} {filters : List ResolvedFilter}
    (hfilters : d.filters = filters.map ResolvedFilter.text)
    (hparams : d.filterParams = filters.flatMap ResolvedFilter.params) :
    ClauseEmbeds (Clause.filters d) (filters.flatMap ResolvedFilter.operands) := by
  have hjoined := embeds_joined_map filters (fun f _ => embeds_filter f) " AND "
  unfold joined allParams at hjoined
  rw [List.map_map, List.flatMap_map] at hjoined
  unfold Clause.filters
  rw [hfilters, hparams]
  cases filters with
  | nil => exact clauseEmbeds_of_params_eq_nil rfl
  | cons f rest => exact ⟨hjoined.text_append "WHERE ", fun h => by simp at h⟩

/-- An assignment embeds the value that is assigned. -/
theorem embeds_assignment (e : Value × Value) :
    Embeds (Clause.assignment e) [⟨e.1.shown ++ " = ", .ofValue e.2⟩] := by
  obtain ⟨column, value⟩ := e
  have hmark : column.shown ++ " = ?" = column.shown ++ " = " ++ "?" := by
    rw [String.append_assoc]
    rfl
  cases value with
  | raw expr => exact .operand _ (.raw expr)
  | _ =>
    simp only [Clause.assignment, Operand.ofValue]
    rw [hmark]
    exact .operand _ (.bound _)

/-- Assignments embed the values that are assigned. -/
theorem embeds_assignments (data : Entries) : Embeds (Clause.assignments data) data.operands := by
  have hjoined := embeds_joined_map data (fun e _ => embeds_assignment e) ", "
  rwa [← List.map_eq_flatMap] at hjoined

/-- The data of a row is a clause that embeds the values that are assigned. -/
theorem clauseEmbeds_assignments {data : Entries} (h : data.isEmpty = false) :
    ClauseEmbeds (Clause.assignments data) data.operands :=
  ⟨embeds_assignments data, fun hempty => absurd hempty (Clause.sql_assignments_ne_empty h)⟩

/-- The data of an update of a row that exists already is a clause that embeds the values that are
assigned. -/
theorem clauseEmbeds_onDuplicate (d : Draft) :
    ClauseEmbeds (Clause.onDuplicate d) d.duplicateData.operands := by
  unfold Clause.onDuplicate
  cases d.duplicateData with
  | nil => exact clauseEmbeds_of_params_eq_nil rfl
  | cons e rest =>
    exact ⟨(embeds_assignments _).text_append _, fun h => by simp at h⟩

/-- A column to select embeds itself when it is raw SQL. -/
theorem embeds_column {v : Value} {f : Fragment} (h : Clause.column v = .ok f) :
    Embeds f v.columnOperands := by
  cases v with
  | text s =>
    cases h
    exact .text s
  | raw expr =>
    cases h
    have hraw := Embeds.operand "" (.raw expr)
    rwa [String.empty_append] at hraw
  | _ => cases h

/-- Columns to select embed those of them that are raw SQL. -/
theorem embeds_of_mapM_column {list : List Value} {fragments : List Fragment}
    (h : list.mapM Clause.column = .ok fragments) :
    List.Forall₂ Embeds fragments (list.map Value.columnOperands) := by
  have hcolumns := (Result.forall₂_of_mapM_eq_ok h).flip
  rw [List.forall₂_map_right_iff]
  exact hcolumns.imp fun _ _ hcolumn => embeds_column hcolumn

/-- The columns to select are a clause that embeds those of them that are raw SQL. -/
theorem clauseEmbeds_columns {list : List Value} {f : Fragment}
    (h : Clause.columns list = .ok f) :
    ClauseEmbeds f (list.flatMap Value.columnOperands) := by
  have hpresent := Statement.sql_columns_ne_empty h
  refine ⟨?_, fun hempty => absurd hempty hpresent⟩
  unfold Clause.columns at h
  by_cases hall : list.isEmpty = true
  · rw [if_pos hall] at h
    cases h
    rw [List.isEmpty_iff.1 hall]
    exact .text _
  · rw [if_neg hall] at h
    obtain ⟨fragments, hfragments, h⟩ := Result.bind_eq_ok_iff.1 h
    cases h
    rw [List.flatMap_def]
    exact (embeds_joined (embeds_of_mapM_column hfragments) ", ").text_append "SELECT "

end Fragment

/-- A statement of a draft embeds the operands of the draft and of the filters that stand. -/
theorem Statement.embeds_of_ofDraft {d : Draft} {filters : List ResolvedFilter}
    (hfilters : d.filters = filters.map ResolvedFilter.text)
    (hparams : d.filterParams = filters.flatMap ResolvedFilter.params) {statement : Statement}
    (h : ofDraft d = .ok statement) :
    Fragment.Embeds ⟨statement.sql, statement.params⟩ (d.operands filters statement.action) := by
  have hwhere := Fragment.clauseEmbeds_filters hfilters hparams
  have hnone : ∀ f : Fragment, f.params = [] → f.ClauseEmbeds [] :=
    fun f => Fragment.clauseEmbeds_of_params_eq_nil
  obtain ⟨fragments, hfragments, hsql, hvalues⟩ := exists_clauses_of_ofDraft h
  have hclauses : Fragment.clauses fragments = ⟨statement.sql, statement.params⟩ := by
    rw [hsql, hvalues, ← Fragment.sql_clauses]
    rfl
  have hplaced : ∃ placed, List.Forall₂ Fragment.ClauseEmbeds fragments placed ∧
      d.operands filters statement.action = placed.flatten := by
    cases haction : statement.action with
    | select =>
      rw [haction] at hfragments
      obtain ⟨columns, hcolumns, hfragments⟩ := Result.bind_eq_ok_iff.1 hfragments
      obtain ⟨paging, hpaging, hfragments⟩ := Result.bind_eq_ok_iff.1 hfragments
      cases hfragments
      refine ⟨_, .cons (Fragment.clauseEmbeds_columns hcolumns) (.cons (hnone _ rfl)
        (.cons (hnone _ rfl) (.cons hwhere (.cons (hnone _ rfl) (.cons (hnone _ rfl)
        (.cons (hnone _ (Clause.params_paging hpaging)) .nil)))))), ?_⟩
      simp [Draft.operands]
    | count =>
      rw [haction] at hfragments
      cases hfragments
      refine ⟨_, .cons (hnone _ rfl) (.cons (hnone _ rfl) (.cons (hnone _ rfl)
        (.cons hwhere (.cons (hnone _ rfl) .nil)))), ?_⟩
      simp [Draft.operands]
    | insert =>
      rw [haction] at hfragments
      obtain ⟨hdata, rfl⟩ := clauses_insert_eq_ok_iff.1 hfragments
      refine ⟨_, .cons (hnone _ rfl) (.cons (Fragment.clauseEmbeds_assignments hdata)
        (.cons (Fragment.clauseEmbeds_onDuplicate d) .nil)), ?_⟩
      simp [Draft.operands]
    | update =>
      rw [haction] at hfragments
      obtain ⟨hdata, rfl⟩ := clauses_update_eq_ok_iff.1 hfragments
      refine ⟨_, .cons (hnone _ rfl) (.cons (Fragment.clauseEmbeds_assignments hdata)
        (.cons hwhere .nil)), ?_⟩
      simp [Draft.operands]
    | delete =>
      rw [haction] at hfragments
      cases hfragments
      refine ⟨_, .cons (hnone _ rfl) (.cons hwhere .nil), ?_⟩
      simp [Draft.operands]
  obtain ⟨placed, hembeds, hoperands⟩ := hplaced
  rw [hoperands, ← hclauses]
  exact Fragment.embeds_clauses hembeds

end BoundSql
