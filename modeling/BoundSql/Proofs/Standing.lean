import BoundSql.Proofs.Frame
import BoundSql.Proofs.Layout
import BoundSql.Proofs.Run

/-!
# Filters and joins that stand after a run

A filter or a join stands when its call was accepted and no call that drops it came
later. What a draft holds of filters and joins is that of the standing calls in
their order, however many calls were refused and whatever else was called. So a
statement shows exactly the standing filters, and a selection or a count exactly the
standing joins.
-/

namespace BoundSql

namespace Call

/-- The join that a call adds. -/
def join? (options : Options) : Call → Option Join
  | .join table condition given kind => (Draft.joinOf options table condition given kind).toOption
  | _ => none

/-- Whether a call is to add a join. -/
def addsJoin : Call → Bool
  | .join .. => true
  | _ => false

/-- Whether a call empties the joins of a draft. -/
def dropsJoins : Call → Bool
  | .clear .joins => true
  | .clearAll => true
  | _ => false

/-- The filter and the join that a call adds, if any, are counted as added. -/
theorem addsFilter_of_filter? {c : Call} {f : ResolvedFilter} (h : c.filter? = some f) :
    c.addsFilter = true := by
  obtain ⟨entries, rfl, hentries⟩ := filter?_eq_some_iff.1 h
  cases entries with
  | nil => cases hentries
  | cons e rest => rfl

/-- A call that is to add a filter adds one when it is accepted. -/
theorem exists_filter?_of_accepted (options : Options) (d : Draft) {c : Call}
    (hc : c.addsFilter = true) (haccepted : (d.call options c).refusal? = none) :
    ∃ f, c.filter? = some f := by
  cases hfilter : c.filter? with
  | some f => exact ⟨f, rfl⟩
  | none =>
    unfold addsFilter at hc
    split at hc
    · next connective e rest =>
      have hempty := (outcome_of_filter?_eq_none options d hfilter).2 haccepted
      cases hempty
    · cases hc

/-- A call that is to add a join adds one when it is accepted, and only then. -/
theorem isSome_join?_iff (options : Options) (d : Draft) {c : Call} (hc : c.addsJoin = true) :
    (c.join? options).isSome = true ↔ (d.call options c).refusal? = none := by
  cases c with
  | join table condition given kind =>
    simp only [join?, Draft.call]
    cases Draft.joinOf options table condition given kind with
    | error refusal => simp [Except.toOption, Draft.settle, Except.map]
    | ok join => simp [Except.toOption, Draft.settle, Except.map]
  | _ => cases hc

end Call

namespace Draft

/-- A call drops the filters of a draft, or leaves them in front of the one it adds. -/
theorem filters_call (options : Options) (d : Draft) (c : Call) :
    (d.call options c).draft.filters =
        (if c.dropsFilters then [] else d.filters ++ c.filter?.toList.map ResolvedFilter.text) ∧
      (d.call options c).draft.filterParams =
        (if c.dropsFilters then []
          else d.filterParams ++ c.filter?.toList.flatMap ResolvedFilter.params) := by
  have hother : ∀ c : Call, ∀ part, c.part? = some part → part ≠ .filters → c.filter? = none →
      (d.call options c).draft.filters =
          d.filters ++ c.filter?.toList.map ResolvedFilter.text ∧
        (d.call options c).draft.filterParams =
          d.filterParams ++ c.filter?.toList.flatMap ResolvedFilter.params := by
    intro c part hpart hne hnone
    rw [hnone]
    simp only [Option.toList_none, List.map_nil, List.flatMap_nil, List.append_nil]
    exact (sameBut_call options d hpart).filters_eq hne
  cases c with
  | filter connective conditions =>
    simp only [Call.dropsFilters, Bool.false_eq_true, if_false]
    cases hfilter : (Call.filter connective conditions).filter? with
    | some f =>
      rw [Call.outcome_of_filter? options d hfilter]
      simp
    | none =>
      rw [(Call.outcome_of_filter?_eq_none options d hfilter).1]
      simp
  | clear clause =>
    cases clause with
    | filters => exact ⟨rfl, rfl⟩
    | _ => exact hother _ _ rfl (by decide) rfl
  | clearAll => exact ⟨rfl, rfl⟩
  | _ => exact hother _ _ rfl (by decide) rfl

/-- A call drops the joins of a draft, or leaves them in front of the one it adds. -/
theorem joins_call (options : Options) (d : Draft) (c : Call) :
    (d.call options c).draft.joins =
      if c.dropsJoins then [] else d.joins ++ (c.join? options).toList := by
  have hother : ∀ c : Call, ∀ part, c.part? = some part → part ≠ .joins → c.join? options = none →
      (d.call options c).draft.joins = d.joins ++ (c.join? options).toList := by
    intro c part hpart hne hnone
    rw [hnone, Option.toList_none, List.append_nil]
    exact (sameBut_call options d hpart).joins_eq hne
  cases c with
  | join table condition given kind =>
    simp only [Call.dropsJoins, Call.join?, Draft.call, Bool.false_eq_true, if_false]
    cases joinOf options table condition given kind with
    | error refusal => exact (List.append_nil _).symm
    | ok join => rfl
  | clear clause =>
    cases clause with
    | joins => rfl
    | _ => exact hother _ _ rfl (by decide) rfl
  | clearAll => rfl
  | _ => exact hother _ _ rfl (by decide) rfl

end Draft

namespace Builder

/-- The calls of a run that add something, that were accepted, and behind which no call
was accepted that drops what they added. -/
def standing (b : Builder) (drops adds : Call → Bool) (run : List Call) : List Call :=
  ((b.accepted run).rtakeWhile fun c => !drops c).filter adds

/-- The standing calls that add a filter. -/
def filterCalls (b : Builder) (run : List Call) : List Call :=
  b.standing Call.dropsFilters Call.addsFilter run

/-- The standing calls that add a join. -/
def joinCalls (b : Builder) (run : List Call) : List Call :=
  b.standing Call.dropsJoins Call.addsJoin run

/-- The filters of the standing calls. -/
def standingFilters (b : Builder) (run : List Call) : List ResolvedFilter :=
  (b.filterCalls run).filterMap Call.filter?

/-- The joins of the standing calls. -/
def standingJoins (b : Builder) (run : List Call) : List Join :=
  (b.joinCalls run).filterMap (Call.join? b.options)

/-- An accepted call is accepted by some draft on the way. -/
theorem exists_refusal?_eq_none_of_mem_accepted {b : Builder} {run : List Call} {c : Call}
    (h : c ∈ b.accepted run) : ∃ d : Draft, (d.call b.options c).refusal? = none := by
  induction run generalizing b with
  | nil => cases h
  | cons first rest ih =>
    simp only [accepted] at h
    split at h
    · next haccepts =>
      rcases List.mem_cons.1 h with rfl | h
      · exact ⟨b.draft, Option.isNone_iff_eq_none.1 haccepts⟩
      · have hrest := ih h
        exact hrest
    · have hrest := ih h
      exact hrest

/-- A standing call was accepted, and it adds something. -/
theorem mem_accepted_of_mem_standing {b : Builder} {drops adds : Call → Bool}
    {run : List Call} {c : Call} (h : c ∈ b.standing drops adds run) :
    c ∈ b.accepted run ∧ adds c = true := by
  obtain ⟨hmem, hadds⟩ := List.mem_filter.1 h
  exact ⟨(List.rtakeWhile_suffix _ _).mem hmem, hadds⟩

/-- A standing filter is one that a call of the run adds. -/
theorem exists_call_of_mem_standingFilters {b : Builder} {run : List Call} {f : ResolvedFilter}
    (hf : f ∈ b.standingFilters run) : ∃ c ∈ run, c.filter? = some f := by
  obtain ⟨c, hc, hfilter⟩ := List.mem_filterMap.1 hf
  have haccepted := (mem_accepted_of_mem_standing hc).1
  exact ⟨c, mem_of_mem_accepted haccepted, hfilter⟩

/-- The standing calls after one more call. -/
theorem standing_concat (b : Builder) (drops adds : Call → Bool) (run : List Call) (c : Call) :
    b.standing drops adds (run ++ [c]) =
      if (b.after run).accepts c then
        if drops c then [] else b.standing drops adds run ++ [c].filter adds
      else b.standing drops adds run := by
  unfold standing
  rw [accepted_concat]
  by_cases haccepts : (b.after run).accepts c = true
  · rw [if_pos haccepts, if_pos haccepts, List.rtakeWhile_concat]
    by_cases hdrops : drops c = true
    · rw [if_pos hdrops, if_neg (by simp [hdrops])]
      rfl
    · rw [if_neg hdrops, if_pos (by simp [hdrops]), List.filter_append]
  · rw [if_neg haccepts, if_neg haccepts]

/-- What calls leave in a draft is what the standing ones added, when each call either
drops it or leaves it in front of what it adds itself, and a refused call does neither. -/
theorem view_after {α : Type} {b : Builder} (drops adds : Call → Bool) (view : Draft → List α)
    (items : Call → List α) (hstart : view b.draft = [])
    (hstep : ∀ (d : Draft) c,
      view (d.call b.options c).draft = if drops c then [] else view d ++ items c)
    (hrefused : ∀ (d : Draft) c,
      (d.call b.options c).refusal? ≠ none → drops c = false ∧ items c = [])
    (hadds : ∀ c, adds c = false → items c = []) (run : List Call) :
    view (b.after run).draft = (b.standing drops adds run).flatMap items := by
  induction run using List.reverseRecOn with
  | nil => exact hstart
  | append_singleton run c ih =>
    have hoptions := b.options_after run
    have hdraft : view (b.after (run ++ [c])).draft =
        if drops c then [] else view (b.after run).draft ++ items c := by
      rw [after_concat, ← hstep, ← hoptions]
      rfl
    rw [hdraft, standing_concat, ih]
    by_cases haccepts : (b.after run).accepts c = true
    · rw [if_pos haccepts]
      split
      · rfl
      · rw [List.flatMap_append]
        cases hc : adds c with
        | true => simp [hc]
        | false => simp [hc, hadds c hc]
    · have hrefusal : ((b.after run).draft.call b.options c).refusal? ≠ none := by
        intro h
        rw [← hoptions] at h
        exact haccepts (Option.isNone_iff_eq_none.2 h)
      obtain ⟨hdrops, hitems⟩ := hrefused _ c hrefusal
      rw [if_neg haccepts, if_neg (by simp [hdrops]), hitems, List.append_nil]

/-- The filters of a draft after a run are those of the standing calls, in order. -/
theorem filters_after {b : Builder} (hfilters : b.draft.filters = [])
    (hparams : b.draft.filterParams = []) (run : List Call) :
    (b.after run).draft.filters = (b.standingFilters run).map ResolvedFilter.text ∧
      (b.after run).draft.filterParams = (b.standingFilters run).flatMap ResolvedFilter.params := by
  have hnone : ∀ c : Call, c.addsFilter = false → c.filter? = none := by
    intro c hadds
    cases hfilter : c.filter? with
    | none => rfl
    | some f =>
      rw [Call.addsFilter_of_filter? hfilter] at hadds
      cases hadds
  have hrefused : ∀ (d : Draft) c, (d.call b.options c).refusal? ≠ none →
      c.dropsFilters = false ∧ c.filter? = none := by
    intro d c hrefusal
    constructor
    · cases c with
      | clear clause => exact absurd rfl hrefusal
      | clearAll => exact absurd rfl hrefusal
      | _ => rfl
    · cases hfilter : c.filter? with
      | none => rfl
      | some f =>
        rw [Call.outcome_of_filter? b.options d hfilter] at hrefusal
        exact absurd rfl hrefusal
  have htexts := view_after Call.dropsFilters Call.addsFilter Draft.filters
    (fun c => c.filter?.toList.map ResolvedFilter.text) hfilters
    (fun d c => (Draft.filters_call b.options d c).1)
    (fun d c h => ⟨(hrefused d c h).1, by simp [(hrefused d c h).2]⟩)
    (fun c h => by simp [hnone c h]) run
  have hvalues := view_after Call.dropsFilters Call.addsFilter Draft.filterParams
    (fun c => c.filter?.toList.flatMap ResolvedFilter.params) hparams
    (fun d c => (Draft.filters_call b.options d c).2)
    (fun d c h => ⟨(hrefused d c h).1, by simp [(hrefused d c h).2]⟩)
    (fun c h => by simp [hnone c h]) run
  unfold standingFilters
  rw [List.filterMap_eq_flatMap_toList, List.map_flatMap, List.flatMap_assoc]
  exact ⟨htexts, hvalues⟩

/-- The joins of a draft after a run are those of the standing calls, in order. -/
theorem joins_after {b : Builder} (hjoins : b.draft.joins = []) (run : List Call) :
    (b.after run).draft.joins = b.standingJoins run := by
  have hnone : ∀ c : Call, c.addsJoin = false → c.join? b.options = none := by
    intro c hadds
    cases c with
    | join table condition given kind => cases hadds
    | _ => rfl
  have hrefused : ∀ (d : Draft) c, (d.call b.options c).refusal? ≠ none →
      c.dropsJoins = false ∧ (c.join? b.options).toList = [] := by
    intro d c hrefusal
    cases c with
    | clear clause => exact absurd rfl hrefusal
    | clearAll => exact absurd rfl hrefusal
    | join table condition given kind =>
      refine ⟨rfl, ?_⟩
      have hjoin := mt (Call.isSome_join?_iff b.options d rfl).1 hrefusal
      rw [Option.not_isSome_iff_eq_none.1 hjoin]
      rfl
    | _ => exact ⟨rfl, rfl⟩
  unfold standingJoins
  rw [List.filterMap_eq_flatMap_toList]
  exact view_after Call.dropsJoins Call.addsJoin Draft.joins
    (fun c => (c.join? b.options).toList) hjoins (Draft.joins_call b.options) hrefused
    (fun c h => by rw [hnone c h]; rfl) run

/-- When every item of a list gives something, the items give what is collected of them. -/
theorem map_eq_map_some_filterMap {α β : Type} {give : α → Option β} {list : List α}
    (h : ∀ a ∈ list, (give a).isSome = true) : list.map give = (list.filterMap give).map some := by
  induction list with
  | nil => rfl
  | cons a rest ih =>
    obtain ⟨found, hfound⟩ := Option.isSome_iff_exists.1 (h a List.mem_cons_self)
    have hrest := ih fun a ha => h a (List.mem_cons_of_mem _ ha)
    rw [List.map_cons, List.filterMap_cons_some hfound, List.map_cons, hrest, hfound]

/-- Every standing call that is to add a filter gives one. -/
theorem map_filter?_filterCalls (b : Builder) (run : List Call) :
    (b.filterCalls run).map Call.filter? = (b.standingFilters run).map some := by
  apply map_eq_map_some_filterMap
  intro c hc
  obtain ⟨haccepted, hadds⟩ := mem_accepted_of_mem_standing hc
  obtain ⟨d, hd⟩ := exists_refusal?_eq_none_of_mem_accepted haccepted
  exact Option.isSome_iff_exists.2 (Call.exists_filter?_of_accepted b.options d hadds hd)

/-- Every standing call that is to add a join gives one. -/
theorem map_join?_joinCalls (b : Builder) (run : List Call) :
    (b.joinCalls run).map (Call.join? b.options) = (b.standingJoins run).map some := by
  apply map_eq_map_some_filterMap
  intro c hc
  obtain ⟨haccepted, hadds⟩ := mem_accepted_of_mem_standing hc
  obtain ⟨d, hd⟩ := exists_refusal?_eq_none_of_mem_accepted haccepted
  exact (Call.isSome_join?_iff b.options d hadds).2 hd

/-- A statement of a builder shows the filters of the calls that stand, one for each call
and in their order, with the values of these calls in the same order, whatever calls were
refused or made in between. It has a clause of filters exactly when such a call stands, so
that no update or deletion is without one then. A selection or a count shows the joins of
the calls that stand, one for each call and in their order. -/
theorem shows_standing_filters_and_joins {table tableAlias options : Value} {sink : Option Sink}
    {b : Builder} (hb : Builder.create table tableAlias options sink = .ok b) (run : List Call)
    {statement : Statement} (hgives : (b.after run).Gives statement) :
    ∃ filters joins,
      (b.filterCalls run).map Call.filter? = filters.map some ∧
      (b.joinCalls run).map (Call.join? b.options) = joins.map some ∧
      statement.Shows (b.after run).draft joins filters ∧
      ((Clause.filters? filters).isSome = true ↔ b.filterCalls run ≠ []) ∧
      (statement.action = .update ∨ statement.action = .delete → b.filterCalls run ≠ [] →
        ∃ opening, statement.sql =
          opening ++ " WHERE " ++ " AND ".intercalate (filters.map ResolvedFilter.text)) := by
  have hstart := draft_of_create hb
  have hfilters := filters_after (congrArg Draft.filters hstart)
    (congrArg Draft.filterParams hstart) run
  have hjoins := joins_after (congrArg Draft.joins hstart) run
  have hcalls := map_filter?_filterCalls b run
  have hne : b.standingFilters run ≠ [] ↔ b.filterCalls run ≠ [] := by
    have hlength := congrArg List.length hcalls
    rw [List.length_map, List.length_map] at hlength
    rw [← List.length_pos_iff, ← List.length_pos_iff, hlength]
  have hshows := Statement.shows_of_ofDraft (gives_iff.1 hgives) hfilters.1 hfilters.2
  rw [hjoins] at hshows
  refine ⟨b.standingFilters run, b.standingJoins run, hcalls, map_join?_joinCalls b run, hshows,
    ?_, ?_⟩
  · rw [Clause.isSome_filters?_iff, hne]
  · intro haction hcalls
    exact hshows.sql_of_changing haction (hne.2 hcalls)

/-- A run with a filter that is dropped later, a refused join, an empty filter and a refused
limit among the calls that stand. -/
def standingRun : List Call :=
  [.filter .and (.mapping [(.text "banned", .bool false)]),
    .clear .filters,
    .join (.text "posts") (.text "users.id = p.user_id") (.text "p") (.text "left"),
    .join (.text "notes") (.text "users.id = n.user_id") (.text "n") (.text "sideways"),
    .filter .or (.mapping [(.text "role", .text "admin"),
      (.text "age", .list [.text "not in", .list [.int 1, .int 2]])]),
    .filter .and (.mapping []),
    .limit (.int (-1)) (.int 0),
    .filter .and (.mapping [(.text "active", .bool true)])]

/-- The selection that the run ends in. -/
def standingStatement : Statement where
  sql := "SELECT * FROM users LEFT JOIN posts AS p ON users.id = p.user_id " ++
    "WHERE (role = ? OR age NOT IN (?, ?)) AND active = ?"
  params := [.text "admin", .int 1, .int 2, .bool true]
  action := .select

/-- The selection is given, and it shows the filters and the join that stand. -/
theorem shows_standing_filters_and_joins_standingStatement :
    ((ofTable "users").after standingRun).Gives standingStatement ∧
      ∃ filters joins,
        ((ofTable "users").filterCalls standingRun).map Call.filter? = filters.map some ∧
        ((ofTable "users").joinCalls standingRun).map (Call.join? (ofTable "users").options) =
          joins.map some ∧
        standingStatement.Shows ((ofTable "users").after standingRun).draft joins filters ∧
        ((Clause.filters? filters).isSome = true ↔ (ofTable "users").filterCalls standingRun ≠ []) ∧
        (standingStatement.action = .update ∨ standingStatement.action = .delete →
          (ofTable "users").filterCalls standingRun ≠ [] →
          ∃ opening, standingStatement.sql =
            opening ++ " WHERE " ++ " AND ".intercalate (filters.map ResolvedFilter.text)) := by
  have hgives : ((ofTable "users").after standingRun).Gives standingStatement := Or.inl rfl
  exact ⟨hgives, shows_standing_filters_and_joins (create_text "users") standingRun hgives⟩

end Builder

end BoundSql
