import BoundSql.Proofs.AlikeConditions

/-!
# Drafts of the same shape

Drafts that differ in bound values alone still do after calls with arguments of the same
shape, and both calls are accepted or both are refused for the same reason. The statements
of such drafts are the same text with as many values.
-/

namespace BoundSql

open Result (Agree)

namespace Value

/-- Values of the same shape in the place of a text are the same text. -/
theorem TextAlike.shown_eq {v w : Value} (h : v.TextAlike w) : v.shown = w.shown := by
  cases h with
  | same => rfl
  | raw h => exact h.sql

/-- Values of the same shape in the place of a text are both empty or both full. -/
theorem TextAlike.isFull_eq {v w : Value} (h : v.TextAlike w) : v.isFull = w.isFull := by
  cases h with
  | same => rfl
  | raw h => rfl

/-- Items of the same shape are pairs of the same key, or neither is a pair. -/
theorem ItemAlike.agree_pair {item other : Value} (h : item.ItemAlike other) :
    Agree (fun e f => e.1 = f.1 ∧ e.2.AssignedAlike f.2) (Entries.pair item)
      (Entries.pair other) := by
  cases h with
  | same => exact .refl (fun e => ⟨rfl, .refl e.2⟩) _
  | pair hitem hother h =>
    rw [hitem, hother]
    exact .ok ⟨rfl, h⟩

end Value

namespace Entries

/-- Data of the same shape stays so when related values are put under a key. -/
theorem Alike.put {R : Value → Value → Prop} {entries others : Entries}
    (h : Alike R entries others) (key : Value) {v w : Value} (hvalue : R v w) :
    Alike R (entries.put key v) (others.put key w) := by
  induction h with
  | nil => exact .cons ⟨rfl, hvalue⟩ .nil
  | @cons e f rest others hfirst hrest ih =>
    obtain ⟨k, v⟩ := e
    obtain ⟨k', w⟩ := f
    obtain ⟨rfl, hvalues⟩ := hfirst
    rw [Entries.put, Entries.put]
    by_cases hsame : k.same key = true
    · rw [if_pos hsame, if_pos hsame]
      exact .cons ⟨rfl, hvalue⟩ hrest
    · rw [if_neg hsame, if_neg hsame]
      exact .cons ⟨rfl, hvalues⟩ ih

/-- Data after a merge and what ended it, where the data is alike and the end the same. -/
def MergedAlike (merged others : Entries × Option Misuse) : Prop :=
  Alike Value.AssignedAlike merged.1 others.1 ∧ merged.2 = others.2

/-- Items of the same shape are put in alike, up to the same one. -/
theorem Alike.putPairs {entries others : Entries}
    (h : Alike Value.AssignedAlike entries others) {items items' : List Value}
    (hitems : List.Forall₂ Value.ItemAlike items items') :
    MergedAlike (entries.putPairs items) (others.putPairs items') := by
  induction hitems generalizing entries others with
  | nil => exact ⟨h, rfl⟩
  | @cons item other _ _ hfirst _ ih =>
    rw [Entries.putPairs, Entries.putPairs]
    have hpair := hfirst.agree_pair
    generalize pair item = found at hpair
    generalize pair other = found' at hpair
    cases hpair with
    | error misuse => exact ⟨h, rfl⟩
    | @ok e f hentry =>
      obtain ⟨key, v⟩ := e
      obtain ⟨key', w⟩ := f
      obtain ⟨rfl, hvalue⟩ := hentry
      dsimp only at hvalue ⊢
      split
      · exact ih (h.put key hvalue)
      · exact ⟨h, rfl⟩

/-- Entries of the same shape are put in alike. -/
theorem Alike.foldl_put {entries others added added' : Entries}
    (h : Alike Value.AssignedAlike entries others)
    (hadded : Alike Value.AssignedAlike added added') :
    Alike Value.AssignedAlike (added.foldl (fun entries e => entries.put e.1 e.2) entries)
      (added'.foldl (fun entries e => entries.put e.1 e.2) others) := by
  induction hadded generalizing entries others with
  | nil => exact h
  | @cons e f _ _ hfirst _ ih =>
    obtain ⟨key, v⟩ := e
    obtain ⟨key', w⟩ := f
    obtain ⟨rfl, hvalue⟩ := hfirst
    exact ih (h.put key hvalue)

/-- Data of the same shape is merged alike, up to the same item. -/
theorem Alike.merge {entries others : Entries} (h : Alike Value.AssignedAlike entries others)
    {data other : Value} (hdata : data.DataAlike other) :
    MergedAlike (entries.merge data) (others.merge other) := by
  have hread : ∀ data other : Value, (∀ added, data ≠ .mapping added) →
      (∀ added, other ≠ .mapping added) →
      List.Forall₂ Value.ItemAlike data.reading.1 other.reading.1 →
      data.reading.2 = other.reading.2 →
      MergedAlike (entries.merge data) (others.merge other) := by
    intro data other hdata hother hitems hend
    have hput := h.putPairs hitems
    rw [merge_of_not_mapping entries hdata, merge_of_not_mapping others hother]
    generalize entries.putPairs data.reading.1 = merged at hput
    generalize others.putPairs other.reading.1 = merged' at hput
    obtain ⟨merged, misuse?⟩ := merged
    obtain ⟨merged', misuse'?⟩ := merged'
    obtain ⟨halike, hstop⟩ := hput
    cases hstop
    cases misuse? with
    | none => exact ⟨halike, hend⟩
    | some misuse => exact ⟨halike, rfl⟩
  cases hdata with
  | mapping hadded => exact ⟨h.foldl_put hadded, rfl⟩
  | items hdata hother hitems hend => exact hread _ _ hdata hother hitems hend
  | same =>
    by_cases hmapping : ∃ added, data = .mapping added
    · obtain ⟨added, rfl⟩ := hmapping
      exact ⟨h.foldl_put (.refl .refl added), rfl⟩
    · have hnot : ∀ added, data ≠ .mapping added := fun added hadded => hmapping ⟨added, hadded⟩
      exact hread _ _ hnot hnot (List.forall₂_same.2 fun item _ => .same item) rfl

end Entries

/-- Joins that differ in the values of raw SQL alone. -/
structure Join.Alike (j k : Join) : Prop where
  /-- The kinds are the same. -/
  kind : j.kind = k.kind
  /-- The tables are the same. -/
  table : j.table = k.table
  /-- The aliases are the same. -/
  tableAlias : j.tableAlias = k.tableAlias
  /-- The conditions are the same text. -/
  condition : j.condition.TextAlike k.condition

namespace Draft

/-- Drafts that differ in bound values alone. -/
structure Alike (d e : Draft) : Prop where
  /-- The tables are the same. -/
  table : d.table = e.table
  /-- The aliases of the tables are the same. -/
  tableAlias : d.tableAlias = e.tableAlias
  /-- The kinds of statement are the same. -/
  action : d.action = e.action
  /-- The columns to select are the same texts. -/
  columns : List.Forall₂ Value.TextAlike d.columns e.columns
  /-- The joined tables are the same texts. -/
  joins : List.Forall₂ Join.Alike d.joins e.joins
  /-- The filters are the same texts. -/
  filters : d.filters = e.filters
  /-- The filters have as many values. -/
  filterParams : d.filterParams.length = e.filterParams.length
  /-- The groupings are the same text. -/
  groupBy : d.groupBy.TextAlike e.groupBy
  /-- The orders are the same text. -/
  orderBy : d.orderBy.TextAlike e.orderBy
  /-- The limits are the same. -/
  limit : d.limit = e.limit
  /-- The offsets are the same. -/
  offset : d.offset = e.offset
  /-- The data of the rows is under the same columns. -/
  data : Entries.Alike Value.AssignedAlike d.data e.data
  /-- The data of the updates is under the same columns. -/
  duplicateData : Entries.Alike Value.AssignedAlike d.duplicateData e.duplicateData
  /-- What is counted is the same text. -/
  countColumn : d.countColumn.TextAlike e.countColumn

/-- A draft has the shape of itself. -/
theorem Alike.refl (d : Draft) : d.Alike d where
  table := rfl
  tableAlias := rfl
  action := rfl
  columns := List.forall₂_same.2 fun v _ => .same v
  joins := List.forall₂_same.2 fun j _ => ⟨rfl, rfl, rfl, .same j.condition⟩
  filters := rfl
  filterParams := rfl
  groupBy := .same _
  orderBy := .same _
  limit := rfl
  offset := rfl
  data := .refl .refl _
  duplicateData := .refl .refl _
  countColumn := .same _

/-- Outcomes with drafts of the same shape and the same refusal, if any. -/
structure OutcomeAlike (o p : Outcome) : Prop where
  /-- The drafts have the same shape. -/
  draft : o.draft.Alike p.draft
  /-- The refusals are the same. -/
  refusal : o.refusal? = p.refusal?

/-- Changes that agree keep drafts of the same shape. -/
theorem Alike.settle {d e : Draft} (h : d.Alike e) {x y : Except Refusal Draft}
    (hchange : Agree Alike x y) : OutcomeAlike (d.settle x) (e.settle y) := by
  cases hchange with
  | ok hdraft => exact ⟨hdraft, rfl⟩
  | error refusal => exact ⟨h, rfl⟩

/-- Columns of the same shape are the same texts, or they are refused alike. -/
theorem agree_columnsOf {columns others : Value} (h : columns.ColumnsAlike others) :
    Agree (List.Forall₂ Value.TextAlike) (columnsOf columns) (columnsOf others) := by
  cases h with
  | same => exact .refl (fun list => List.forall₂_same.2 fun v _ => .same v) _
  | each hcolumns hothers h =>
    rw [hcolumns, hothers]
    exact .ok h

/-- Joins under conditions of the same text are alike, or they are refused alike. -/
theorem agree_joinOf (options : Options) (table given kind : Value) {condition other : Value}
    (h : condition.TextAlike other) :
    Agree Join.Alike (joinOf options table condition given kind)
      (joinOf options table other given kind) := by
  unfold joinOf
  apply Agree.bind_same
  intro keyword
  apply Agree.bind_same
  intro chosen
  apply Agree.bind_same
  intro name
  apply Agree.bind_same
  intro short
  exact .ok ⟨rfl, rfl, rfl, h⟩

/-- Filters that are alike keep drafts of the same shape. -/
theorem Alike.withFilter {d e : Draft} (h : d.Alike e) (connective : Connective)
    {f g : Fragment} (hfilter : f.Alike g) :
    (d.withFilter connective f).Alike (e.withFilter connective g) := by
  unfold Draft.withFilter
  rw [hfilter.sql]
  split
  · exact h
  · refine { h with filters := ?_, filterParams := ?_ }
    · dsimp only
      rw [h.filters]
    · dsimp only
      rw [List.length_append, List.length_append, h.filterParams, hfilter.params]

/-- The same offset keeps drafts of the same shape. -/
theorem Alike.setOffset {d e : Draft} (h : d.Alike e) (offset : Value) :
    OutcomeAlike (d.setOffset offset) (e.setOffset offset) := by
  apply h.settle
  apply Agree.map_same
  intro n
  exact { h with offset := rfl }

/-- The same limit and offset keep drafts of the same shape. -/
theorem Alike.setLimit {d e : Draft} (h : d.Alike e) (limit offset : Value) :
    OutcomeAlike (d.setLimit limit offset) (e.setLimit limit offset) := by
  unfold Draft.setLimit
  cases natural "limit" limit with
  | error refusal => exact ⟨h, rfl⟩
  | ok n =>
    have hset : Alike { d with limit := n } { e with limit := n } := { h with limit := rfl }
    exact hset.setOffset offset

/-- Emptying the same clause keeps drafts of the same shape. -/
theorem Alike.clear {d e : Draft} (h : d.Alike e) (clause : ClauseName) :
    (d.clear clause).Alike (e.clear clause) := by
  cases clause with
  | filters => exact { h with filters := rfl, filterParams := rfl }
  | columns => exact { h with columns := .nil }
  | joins => exact { h with joins := .nil }
  | groupBy => exact { h with groupBy := .same _ }
  | orderBy => exact { h with orderBy := .same _ }
  | limit => exact { h with limit := rfl, offset := rfl }
  | data => exact { h with data := .nil, duplicateData := .nil }

/-- Data of the same shape keeps drafts of the same shape. -/
theorem Alike.mergeData {d e : Draft} (h : d.Alike e) {data other : Value}
    (hdata : data.DataAlike other) : OutcomeAlike (d.mergeData data) (e.mergeData other) := by
  obtain ⟨hmerged, hend⟩ := h.data.merge hdata
  exact ⟨{ h with data := hmerged }, congrArg (Option.map Refusal.misuse) hend⟩

/-- Data of the same shape for an update keeps drafts of the same shape. -/
theorem Alike.mergeDuplicateData {d e : Draft} (h : d.Alike e) {data other : Value}
    (hdata : data.DataAlike other) :
    OutcomeAlike (d.mergeDuplicateData data) (e.mergeDuplicateData other) := by
  obtain ⟨hmerged, hend⟩ := h.duplicateData.merge hdata
  exact ⟨{ h with duplicateData := hmerged }, congrArg (Option.map Refusal.misuse) hend⟩

/-- Calls with arguments of the same shape keep drafts of the same shape, and they are
accepted or refused alike. -/
theorem Alike.call (options : Options) {d e : Draft} (h : d.Alike e) {c c' : Call}
    (hcall : c.Alike c') : OutcomeAlike (d.call options c) (e.call options c') := by
  cases hcall with
  | tableAlias given =>
    apply h.settle
    apply Agree.map_same
    intro name
    exact { h with tableAlias := rfl }
  | select hcolumns =>
    apply h.settle
    apply (agree_columnsOf hcolumns).map
    intro list others hlist
    exact { h with columns := hlist }
  | count hcolumn => exact ⟨{ h with action := rfl, countColumn := hcolumn }, rfl⟩
  | insert hdata =>
    have hset : Alike { d with action := .known .insert } { e with action := .known .insert } :=
      { h with action := rfl }
    exact hset.mergeData hdata
  | update hdata =>
    have hset : Alike { d with action := .known .update } { e with action := .known .update } :=
      { h with action := rfl }
    exact hset.mergeData hdata
  | delete => exact ⟨{ h with action := rfl }, rfl⟩
  | onDuplicate hdata => exact h.mergeDuplicateData hdata
  | join table given kind hcondition =>
    apply h.settle
    apply (agree_joinOf options table given kind hcondition).map
    intro j k hjoin
    exact { h with joins := List.rel_append h.joins (.cons hjoin .nil) }
  | filter connective hconditions =>
    apply h.settle
    apply (Filter.agree_ofValue connective hconditions).map
    intro f g hfilter
    exact h.withFilter connective hfilter
  | groupBy hgiven => exact ⟨{ h with groupBy := hgiven }, rfl⟩
  | orderBy hgiven => exact ⟨{ h with orderBy := hgiven }, rfl⟩
  | limit limit offset => exact h.setLimit limit offset
  | offset offset => exact h.setOffset offset
  | clear clause => exact ⟨h.clear clause, rfl⟩
  | clearAll =>
    have hempty := Alike.refl { table := d.table, tableAlias := d.tableAlias }
    exact ⟨{ hempty with table := h.table, tableAlias := h.tableAlias }, rfl⟩

end Draft

end BoundSql
