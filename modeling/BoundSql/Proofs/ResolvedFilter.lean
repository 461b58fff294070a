import BoundSql.Call
import BoundSql.Proofs.CanonicalOperator
import Mathlib.Data.List.Forall2

/-!
# Filters with resolved conditions

A call that adds a filter is given columns with values. Once the values are
resolved, the filter is a connective and one or more conditions on columns, and
that is all its fragment depends on. The fragment of such a filter is never without
text, so that the draft takes up every one of them.
-/

namespace BoundSql

/-- The conditions of one filter, resolved, with their columns. -/
structure ResolvedFilter where
  /-- How the conditions are connected. -/
  connective : Connective
  /-- The first column with its condition. -/
  first : Value × Condition Value
  /-- The other columns with their conditions, in order. -/
  rest : List (Value × Condition Value)

/-- The conditions on columns, each resolved, in order. -/
def Filter.resolved : List (Value × Value) → Except Refusal (List (Value × Condition Value))
  | [] => .ok []
  | (column, value) :: rest => do
    let c ← Condition.resolve column value
    let others ← resolved rest
    return (column, c) :: others

/-- The fragments of a filter are those of its resolved conditions. -/
theorem Filter.parts_eq_map_resolved (entries : List (Value × Value)) :
    parts entries = (resolved entries).map fun conditions =>
      conditions.map fun e => e.2.render e.1.shown := by
  induction entries with
  | nil => rfl
  | cons e rest ih =>
    obtain ⟨column, value⟩ := e
    simp only [parts, resolved, ih]
    cases Condition.resolve column value with
    | error refusal => rfl
    | ok c =>
      cases resolved rest with
      | error refusal => rfl
      | ok conditions => rfl

/-- The filter that a mapping gives is that of its resolved conditions. -/
theorem Filter.ofValue_mapping (connective : Connective) (entries : List (Value × Value)) :
    ofValue connective (.mapping entries) = (resolved entries).map fun conditions =>
      Fragment.joined (" " ++ connective.keyword ++ " ")
        (conditions.map fun e => e.2.render e.1.shown) := by
  change (parts entries).map (Fragment.joined (" " ++ connective.keyword ++ " ")) = _
  rw [parts_eq_map_resolved]
  cases resolved entries <;> rfl

/-- Resolved conditions stand on the given columns, in order, each resolved from the value that was
given for its column. -/
theorem Filter.forall₂_of_resolved {entries : List (Value × Value)}
    {conditions : List (Value × Condition Value)} (h : resolved entries = .ok conditions) :
    List.Forall₂ (fun given e => given.1 = e.1 ∧ Condition.resolve given.1 given.2 = .ok e.2)
      entries conditions := by
  induction entries generalizing conditions with
  | nil =>
    cases h
    exact .nil
  | cons given rest ih =>
    obtain ⟨c, hc, h⟩ := Result.bind_eq_ok_iff.1 h
    obtain ⟨others, hothers, h⟩ := Result.bind_eq_ok_iff.1 h
    cases h
    exact .cons ⟨rfl, hc⟩ (ih hothers)

/-- The columns of resolved conditions are those that were given. -/
theorem Filter.map_fst_of_resolved {entries : List (Value × Value)}
    {conditions : List (Value × Condition Value)} (h : resolved entries = .ok conditions) :
    conditions.map Prod.fst = entries.map Prod.fst := by
  have hcolumns : List.Forall₂ (fun given e => given.1 = e.1) entries conditions :=
    (forall₂_of_resolved h).imp fun _ _ hresolved => hresolved.1
  rw [eq_comm, ← List.forall₂_eq_eq_eq, List.forall₂_map_left_iff, List.forall₂_map_right_iff]
  exact hcolumns

/-- A resolved condition stands behind each of the conditions of a filter. -/
theorem Filter.resolve_of_mem_resolved {entries : List (Value × Value)}
    {conditions : List (Value × Condition Value)} (h : resolved entries = .ok conditions)
    {e : Value × Condition Value} (he : e ∈ conditions) :
    ∃ value, (e.1, value) ∈ entries ∧ Condition.resolve e.1 value = .ok e.2 := by
  have hall := forall₂_of_resolved h
  clear h
  induction hall with
  | nil => cases he
  | @cons given first rest others hfirst hrest ih =>
    rcases List.mem_cons.1 he with rfl | he
    · obtain ⟨column, value⟩ := given
      obtain ⟨rfl, hresolve⟩ := hfirst
      exact ⟨value, List.mem_cons_self, hresolve⟩
    · obtain ⟨value, hvalue, hresolve⟩ := ih he
      exact ⟨value, List.mem_cons_of_mem _ hvalue, hresolve⟩

/-- No condition is written without text. -/
theorem Condition.sql_render_ne_empty (column : String) (c : Condition Value) :
    (c.render column).sql ≠ "" := by
  cases c with
  | inSet first rest negated => cases negated <;> simp [render]
  | isNull negated => cases negated <;> simp [render]
  | _ => simp [render]

namespace ResolvedFilter

/-- All conditions of a filter with their columns. -/
def conditions (f : ResolvedFilter) : List (Value × Condition Value) :=
  f.first :: f.rest

/-- A filter of resolved conditions, unless there are none. -/
def ofConditions? (connective : Connective) :
    List (Value × Condition Value) → Option ResolvedFilter
  | [] => none
  | first :: rest => some ⟨connective, first, rest⟩

/-- The fragments of the conditions of a filter. -/
def parts (f : ResolvedFilter) : List Fragment :=
  f.conditions.map fun e => e.2.render e.1.shown

/-- The fragment of a filter. -/
def fragment (f : ResolvedFilter) : Fragment :=
  Fragment.joined (" " ++ f.connective.keyword ++ " ") f.parts

/-- The text of a filter as it stands in a draft, where an alternative is put in
parentheses. -/
def text (f : ResolvedFilter) : String :=
  match f.connective with
  | .and => f.fragment.sql
  | .or => "(" ++ f.fragment.sql ++ ")"

/-- The values of the placeholders of a filter. -/
def params (f : ResolvedFilter) : List Value :=
  f.fragment.params

/-- A filter of resolved conditions has these conditions. -/
theorem conditions_of_ofConditions? {connective : Connective}
    {conditions : List (Value × Condition Value)} {f : ResolvedFilter}
    (h : ofConditions? connective conditions = some f) :
    f.connective = connective ∧ f.conditions = conditions := by
  cases conditions with
  | nil => cases h
  | cons first rest =>
    cases h
    exact ⟨rfl, rfl⟩

/-- The fragment of a filter is not without text. -/
theorem sql_fragment_ne_empty (f : ResolvedFilter) : f.fragment.sql ≠ "" := by
  have hfirst := Condition.sql_render_ne_empty f.first.1.shown f.first.2
  unfold fragment parts conditions Fragment.joined
  cases f.rest with
  | nil => simpa using hfirst
  | cons second rest => simp [hfirst]

/-- A draft takes up every filter, with its text and its values. -/
theorem withFilter_fragment (d : Draft) (f : ResolvedFilter) :
    d.withFilter f.connective f.fragment =
      { d with filters := d.filters ++ [f.text], filterParams := d.filterParams ++ f.params } := by
  unfold Draft.withFilter
  rw [if_neg f.sql_fragment_ne_empty]
  rfl

end ResolvedFilter

namespace Call

/-- The filter that a call adds: that of a mapping with entries whose values all
describe conditions. -/
def filter? : Call → Option ResolvedFilter
  | .filter connective (.mapping entries) =>
    match Filter.resolved entries with
    | .ok conditions => ResolvedFilter.ofConditions? connective conditions
    | .error _ => none
  | _ => none

/-- Whether a call is to add a filter with at least one condition. -/
def addsFilter : Call → Bool
  | .filter _ (.mapping (_ :: _)) => true
  | _ => false

/-- Whether a call empties the filters of a draft. -/
def dropsFilters : Call → Bool
  | .clear .filters => true
  | .clearAll => true
  | _ => false

/-- A filter stands for a call with its columns and the conditions that their values
describe. -/
theorem filter?_eq_some_iff {c : Call} {f : ResolvedFilter} :
    c.filter? = some f ↔ ∃ entries, c = .filter f.connective (.mapping entries) ∧
      Filter.resolved entries = .ok f.conditions := by
  constructor
  · intro h
    unfold filter? at h
    split at h
    · next connective entries =>
      split at h
      · next conditions hconditions =>
        obtain ⟨rfl, rfl⟩ := ResolvedFilter.conditions_of_ofConditions? h
        exact ⟨entries, rfl, hconditions⟩
      · cases h
    · cases h
  · rintro ⟨entries, rfl, hentries⟩
    simp only [filter?, hentries]
    rfl

/-- A condition of the filter that a call adds has a canonical operator, and no raw SQL but
that of the value that the call is given for its column. -/
theorem exists_entry_of_filter? {c : Call} {f : ResolvedFilter} (h : c.filter? = some f)
    {e : Value × Condition Value} (he : e ∈ f.conditions) :
    ∃ entries value, c = .filter f.connective (.mapping entries) ∧ (e.1, value) ∈ entries ∧
      e.2.Canonical ∧ ∀ expr, e.2.raw? = some expr → value.rawOperand? = some expr := by
  obtain ⟨entries, hcall, hentries⟩ := filter?_eq_some_iff.1 h
  obtain ⟨value, hmem, hresolve⟩ := Filter.resolve_of_mem_resolved hentries he
  exact ⟨entries, value, hcall, hmem, Condition.canonical_of_resolve hresolve⟩

/-- A call that adds a filter is accepted, and the draft takes the filter up. -/
theorem outcome_of_filter? (options : Options) (d : Draft) {c : Call} {f : ResolvedFilter}
    (h : c.filter? = some f) :
    d.call options c =
      ⟨{ d with filters := d.filters ++ [f.text],
                filterParams := d.filterParams ++ f.params }, none⟩ := by
  obtain ⟨entries, rfl, hentries⟩ := filter?_eq_some_iff.1 h
  have hfragment : Filter.ofValue f.connective (.mapping entries) = .ok f.fragment := by
    rw [Filter.ofValue_mapping, hentries]
    rfl
  simp only [Draft.call, hfragment]
  change d.settle (.ok (d.withFilter f.connective f.fragment)) = _
  rw [ResolvedFilter.withFilter_fragment]
  rfl

/-- A call to add a filter that adds none leaves the draft as it is, and it is refused
unless it is given a mapping without entries. -/
theorem outcome_of_filter?_eq_none (options : Options) (d : Draft) {connective : Connective}
    {conditions : Value} (h : (Call.filter connective conditions).filter? = none) :
    (d.call options (.filter connective conditions)).draft = d ∧
      ((d.call options (.filter connective conditions)).refusal? = none →
        conditions = .mapping []) := by
  simp only [Draft.call]
  cases conditions with
  | mapping entries =>
    simp only [filter?] at h
    rw [Filter.ofValue_mapping]
    cases hentries : Filter.resolved entries with
    | error refusal => exact ⟨rfl, fun haccepted => by cases haccepted⟩
    | ok conditions =>
      rw [hentries] at h
      cases conditions with
      | cons first rest => cases h
      | nil =>
        have hcolumns := Filter.map_fst_of_resolved hentries
        rw [List.map_nil, eq_comm, List.map_eq_nil_iff] at hcolumns
        exact ⟨rfl, fun _ => by rw [hcolumns]⟩
  | _ => exact ⟨rfl, fun haccepted => by cases haccepted⟩

end Call

end BoundSql
