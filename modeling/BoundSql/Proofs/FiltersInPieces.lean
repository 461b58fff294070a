import BoundSql.Proofs.Parts
import BoundSql.Proofs.Standing

/-!
# Filters that are added in pieces

Conditions that all have to hold can be given to one call or to several calls one after the
other. The draft then keeps one text or several, but the clause of its filters is the same, and it
stays the same whatever is called later. So every statement is the same, and every refusal.
-/

namespace BoundSql

/-- Texts that all have to hold as one text, if there are any. -/
def conjunction? (texts : List String) : Option String :=
  if texts = [] then none else some (" AND ".intercalate texts)

/-- Two texts that both have to hold as one text, as far as they are there. -/
def conjoined? : Option String → Option String → Option String
  | none, second? => second?
  | some first, none => some first
  | some first, some second => some (first ++ " AND " ++ second)

/-- Texts can be put together in two runs. -/
theorem conjunction?_append (texts others : List String) :
    conjunction? (texts ++ others) = conjoined? (conjunction? texts) (conjunction? others) := by
  unfold conjunction?
  by_cases htexts : texts = []
  · simp [htexts, conjoined?]
  · by_cases hothers : others = []
    · simp [htexts, hothers, conjoined?]
    · have hboth : texts ++ others ≠ [] := List.append_ne_nil_of_left_ne_nil htexts others
      rw [if_neg htexts, if_neg hothers, if_neg hboth,
        String.intercalate_append_of_ne_nil htexts hothers]
      rfl

/-- Texts that are put together already stay as they are when they are put together with others. -/
theorem conjunction?_append_toList (texts others : List String) :
    conjunction? (texts ++ (conjunction? others).toList) = conjunction? (texts ++ others) := by
  have hothers : conjunction? (conjunction? others).toList = conjunction? others := by
    unfold conjunction?
    by_cases h : others = []
    · simp [h]
    · simp [h]
  rw [conjunction?_append, hothers, conjunction?_append]

/-- What is put in front of texts matters only as one text. -/
theorem conjunction?_append_congr {texts texts' : List String}
    (h : conjunction? texts = conjunction? texts') (others : List String) :
    conjunction? (texts ++ others) = conjunction? (texts' ++ others) := by
  rw [conjunction?_append, h, conjunction?_append]

namespace Filter

/-- The texts of resolved conditions. -/
def texts (conditions : List (Value × Condition Value)) : List String :=
  conditions.map fun e => (e.2.render e.1.shown).sql

/-- The values of the placeholders of resolved conditions. -/
def values (conditions : List (Value × Condition Value)) : List Value :=
  conditions.flatMap fun e => (e.2.render e.1.shown).params

@[simp] theorem texts_append (conditions others : List (Value × Condition Value)) :
    texts (conditions ++ others) = texts conditions ++ texts others :=
  List.map_append

@[simp] theorem values_append (conditions others : List (Value × Condition Value)) :
    values (conditions ++ others) = values conditions ++ values others :=
  List.flatMap_append

/-- Entries of which all are resolved are resolved in two runs. -/
theorem exists_of_resolved_append {entries others : List (Value × Value)}
    {conditions : List (Value × Condition Value)}
    (h : resolved (entries ++ others) = .ok conditions) :
    ∃ first second, resolved entries = .ok first ∧ resolved others = .ok second ∧
      conditions = first ++ second := by
  induction entries generalizing conditions with
  | nil => exact ⟨[], conditions, rfl, h, rfl⟩
  | cons e rest ih =>
    obtain ⟨column, value⟩ := e
    obtain ⟨c, hc, h⟩ := Result.bind_eq_ok_iff.1 h
    obtain ⟨both, hboth, h⟩ := Result.bind_eq_ok_iff.1 h
    cases h
    obtain ⟨first, second, hfirst, hsecond, rfl⟩ := ih hboth
    have hentries : resolved ((column, value) :: rest) = .ok ((column, c) :: first) := by
      simp only [resolved, hc, hfirst]
      rfl
    exact ⟨_, second, hentries, hsecond, rfl⟩

end Filter

namespace Call

/-- The filter of conditions that all have to hold is their texts put together, with their
values. -/
theorem filter?_and {entries : List (Value × Value)}
    {conditions : List (Value × Condition Value)} (h : Filter.resolved entries = .ok conditions) :
    (filter .and (.mapping entries)).filter?.toList.map ResolvedFilter.text =
        (conjunction? (Filter.texts conditions)).toList ∧
      (filter .and (.mapping entries)).filter?.toList.flatMap ResolvedFilter.params =
        Filter.values conditions := by
  simp only [filter?, h]
  cases conditions with
  | nil => exact ⟨rfl, rfl⟩
  | cons first rest =>
    have htext : (⟨.and, first, rest⟩ : ResolvedFilter).text =
        " AND ".intercalate (Filter.texts (first :: rest)) := by
      have hseparator : " " ++ Connective.and.keyword ++ " " = " AND " := rfl
      simp only [ResolvedFilter.text, ResolvedFilter.fragment, Fragment.joined, hseparator,
        ResolvedFilter.parts, ResolvedFilter.conditions, List.map_map]
      rfl
    constructor
    · simp [ResolvedFilter.ofConditions?, htext, conjunction?, Filter.texts]
    · simp [ResolvedFilter.ofConditions?, ResolvedFilter.params, ResolvedFilter.fragment,
        ResolvedFilter.parts, ResolvedFilter.conditions, Filter.values, Fragment.joined,
        Fragment.allParams, List.flatMap_map]

/-- The conditions of an accepted filter are resolved. -/
theorem exists_resolved_of_accepted (options : Options) (d : Draft) {connective : Connective}
    {entries : List (Value × Value)}
    (h : (d.call options (.filter connective (.mapping entries))).refusal? = none) :
    ∃ conditions, Filter.resolved entries = .ok conditions := by
  simp only [Draft.call, Filter.ofValue_mapping] at h
  cases hentries : Filter.resolved entries with
  | error refusal =>
    rw [hentries] at h
    cases h
  | ok conditions => exact ⟨conditions, rfl⟩

end Call

namespace Draft

/-- Drafts that differ only in how the texts of their filters are put together. -/
structure FiltersAlike (d d' : Draft) : Prop where
  /-- The filters are the same as one text. -/
  filters : conjunction? d.filters = conjunction? d'.filters
  /-- The filters have the same values. -/
  filterParams : d.filterParams = d'.filterParams
  /-- All other parts are the same. -/
  others : ∀ part, part ≠ .filters → d.only part = d'.only part

/-- Drafts that are alike stay so when the same call is made on them. -/
theorem FiltersAlike.call {d d' : Draft} (h : d.FiltersAlike d') (options : Options) (c : Call) :
    (d.call options c).draft.FiltersAlike (d'.call options c).draft := by
  obtain ⟨hfilters, hparams⟩ := filters_call options d c
  obtain ⟨hfilters', hparams'⟩ := filters_call options d' c
  refine ⟨?_, ?_, fun part hpart => only_call_congr options (h.others part hpart) c⟩
  · rw [hfilters, hfilters']
    split
    · rfl
    · exact conjunction?_append_congr h.filters _
  · rw [hparams, hparams', h.filterParams]

/-- Drafts that are alike stay so when the same calls are made on them. -/
theorem FiltersAlike.calls {d d' : Draft} (h : d.FiltersAlike d') (options : Options)
    (run : List Call) : (d.calls options run).FiltersAlike (d'.calls options run) := by
  induction run generalizing d d' with
  | nil => exact h
  | cons c rest ih => exact ih (h.call options c)

/-- A filter of conditions that all have to hold is put behind the others. -/
theorem filters_call_and (options : Options) (d : Draft) {entries : List (Value × Value)}
    {conditions : List (Value × Condition Value)} (h : Filter.resolved entries = .ok conditions) :
    conjunction? (d.call options (.filter .and (.mapping entries))).draft.filters =
        conjunction? (d.filters ++ Filter.texts conditions) ∧
      (d.call options (.filter .and (.mapping entries))).draft.filterParams =
        d.filterParams ++ Filter.values conditions := by
  obtain ⟨hfilters, hparams⟩ := filters_call options d (.filter .and (.mapping entries))
  obtain ⟨htexts, hvalues⟩ := Call.filter?_and h
  constructor
  · rw [hfilters, htexts]
    exact conjunction?_append_toList _ _
  · rw [hparams, hvalues]
    rfl

/-- Filters of conditions that all have to hold are put behind the others as one filter of all
their conditions would be. -/
theorem filters_calls_pieces (options : Options) (d : Draft) {pieces : List (List (Value × Value))}
    {conditions : List (Value × Condition Value)}
    (h : Filter.resolved pieces.flatten = .ok conditions) :
    conjunction? (d.calls options
        (pieces.map fun piece => .filter .and (.mapping piece))).filters =
      conjunction? (d.filters ++ Filter.texts conditions) ∧
    (d.calls options (pieces.map fun piece => .filter .and (.mapping piece))).filterParams =
      d.filterParams ++ Filter.values conditions := by
  induction pieces generalizing d conditions with
  | nil =>
    cases h
    exact ⟨by simp [Filter.texts], by simp [Filter.values]⟩
  | cons piece rest ih =>
    obtain ⟨first, second, hfirst, hsecond, rfl⟩ := Filter.exists_of_resolved_append h
    obtain ⟨hfilters, hparams⟩ := filters_call_and options d hfirst
    obtain ⟨hrest, hrestParams⟩ :=
      ih (d.call options (.filter .and (.mapping piece))).draft hsecond
    rw [List.map_cons, calls_cons, hrest, hrestParams, hparams]
    constructor
    · rw [conjunction?_append_congr hfilters, List.append_assoc, Filter.texts_append]
    · rw [List.append_assoc, Filter.values_append]

/-- Calls on the filters leave all other parts as they are. -/
theorem only_calls_filters (options : Options) (d : Draft) {part : DraftPart}
    (hpart : part ≠ .filters) (connective : Connective) (given : List Value) :
    (d.calls options (given.map (Call.filter connective))).only part = d.only part := by
  induction given generalizing d with
  | nil => rfl
  | cons v rest ih =>
    have hfirst := (sameBut_call options d (c := .filter connective v) rfl).only_eq hpart.symm
    rw [List.map_cons, calls_cons, ih, hfirst]

/-- Conditions that are added by one call or by several leave drafts that are alike. -/
theorem filtersAlike_calls_pieces (options : Options) (d : Draft)
    {pieces : List (List (Value × Value))} {conditions : List (Value × Condition Value)}
    (h : Filter.resolved pieces.flatten = .ok conditions) :
    (d.calls options [.filter .and (.mapping pieces.flatten)]).FiltersAlike
      (d.calls options (pieces.map fun piece => .filter .and (.mapping piece))) := by
  obtain ⟨hwhole, hwholeParams⟩ := filters_call_and options d h
  obtain ⟨hcut, hcutParams⟩ := filters_calls_pieces options d h
  refine ⟨hwhole.trans hcut.symm, hwholeParams.trans hcutParams.symm, fun part hpart => ?_⟩
  have hone := only_calls_filters options d hpart .and [.mapping pieces.flatten]
  have hmany := only_calls_filters options d hpart .and (pieces.map Value.mapping)
  rw [List.map_map] at hmany
  exact hone.trans hmany.symm

/-- The clause of the filters can be told from the filters as one text. -/
theorem FiltersAlike.clause_eq {d d' : Draft} (h : d.FiltersAlike d') :
    Clause.filters d = Clause.filters d' := by
  have hclause : ∀ d : Draft, Clause.filters d =
      (conjunction? d.filters).elim ⟨"", []⟩ fun text => ⟨"WHERE " ++ text, d.filterParams⟩ := by
    intro d
    unfold Clause.filters conjunction?
    cases d.filters <;> rfl
  rw [hclause, hclause, h.filters, h.filterParams]

/-- Drafts that are alike are the same once they have the same filters. -/
theorem FiltersAlike.with_filters_eq {d d' : Draft} (h : d.FiltersAlike d') :
    { d with filters := d'.filters } = d' := by
  apply eq_of_only
  intro part
  by_cases hpart : part = .filters
  · have hjoins := h.others .joins (by decide)
    have htable : (d.only .joins).table = (d'.only .joins).table := by rw [hjoins]
    change d.table = d'.table at htable
    subst hpart
    simp [only, h.filterParams, htable]
  · rw [← h.others part hpart]
    cases part with
    | filters => exact absurd rfl hpart
    | _ => rfl

/-- Drafts that are alike are built alike. -/
theorem FiltersAlike.ofDraft_eq {d d' : Draft} (h : d.FiltersAlike d') :
    Statement.ofDraft d = Statement.ofDraft d' := by
  have hfilters := h.clause_eq
  have hclauses : ∀ a, Statement.clauses d a = Statement.clauses d' a := by
    intro a
    rw [← h.with_filters_eq] at hfilters ⊢
    cases a with
    | _ =>
      simp only [Statement.clauses, Statement.selectClauses, Statement.countClauses,
        Statement.insertClauses, Statement.updateClauses, Statement.deleteClauses, Clause.rows,
        hfilters]
      rfl
  unfold Statement.ofDraft
  rw [← funext hclauses, ← h.with_filters_eq]

end Draft

namespace Builder

/-- Conditions of an accepted filter that all have to hold can be given in pieces, by one call for
each of them and in their order, where pieces without conditions count as well. Whatever is called
before and after, a build answers the same, and so does a reading. -/
theorem build_filters_in_pieces (b : Builder) (before later : List Call)
    {pieces : List (List (Value × Value))}
    (haccepts : (b.after before).accepts (.filter .and (.mapping pieces.flatten)) = true) :
    (∀ sink,
      ((b.after (before ++ [.filter .and (.mapping pieces.flatten)] ++ later)).build sink).result =
        ((b.after (before ++ (pieces.map fun piece => .filter .and (.mapping piece)) ++
          later)).build sink).result) ∧
    (b.after (before ++ [.filter .and (.mapping pieces.flatten)] ++ later)).preview =
      (b.after (before ++ (pieces.map fun piece => .filter .and (.mapping piece)) ++
        later)).preview := by
  obtain ⟨conditions, hconditions⟩ := Call.exists_resolved_of_accepted _ _
    (Option.isNone_iff_eq_none.1 haccepts)
  have halike : (b.draft.calls b.options
      (before ++ [.filter .and (.mapping pieces.flatten)] ++ later)).FiltersAlike
        (b.draft.calls b.options (before ++
          (pieces.map fun piece => .filter .and (.mapping piece)) ++ later)) := by
    simp only [Draft.calls_append]
    exact (Draft.filtersAlike_calls_pieces b.options _ hconditions).calls b.options later
  have hcontent := halike.others .content (by decide)
  have haction := congrArg Draft.action hcontent
  rw [after_eq_calls, after_eq_calls]
  exact ⟨result_build_congr rfl haction halike.ofDraft_eq, halike.ofDraft_eq⟩

/-- Conditions in four pieces, of which one is empty. -/
def conditionPieces : List (List (Value × Value)) :=
  [[(.text "active", .bool true)], [],
    [(.text "age", .tuple [.text "between", .list [.int 18, .int 65]]), (.text "role", .null)],
    [(.text "id", .list [.text "in", .list [.int 1, .int 2]])]]

/-- The pieces stand between a filter that is added before and one that is added later. -/
theorem build_filters_in_pieces_conditionPieces :
    ((ofTable "users").after [.filter .or (.mapping [(.text "vip", .bool true)])]).accepts
        (.filter .and (.mapping conditionPieces.flatten)) = true ∧
      ((ofTable "users").after ([.filter .or (.mapping [(.text "vip", .bool true)])] ++
          [.filter .and (.mapping conditionPieces.flatten)] ++
          [.filter .and (.mapping [(.text "seen", .int 1)]), .delete])).preview =
        ((ofTable "users").after ([.filter .or (.mapping [(.text "vip", .bool true)])] ++
          (conditionPieces.map fun piece => .filter .and (.mapping piece)) ++
          [.filter .and (.mapping [(.text "seen", .int 1)]), .delete])).preview :=
  ⟨rfl, (build_filters_in_pieces (ofTable "users") _ _ rfl).2⟩

end Builder

end BoundSql
