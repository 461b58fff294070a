import BoundSql.Proofs.EmbeddedOperands

/-!
# Where raw SQL is bound

Raw SQL that is selected, assigned, or that a column is compared with is never bound as a value:
it is embedded with its text, and its own values are bound in its place. What is bound is raw SQL
within an operand, that is a bound of a range, a member of a list, or the value of a comparison
that was given as a condition. So the values of a statement contain raw SQL exactly when a filter
that stands in it has such an operand.
-/

namespace BoundSql

/-- The raw SQL that a value is, if it is some. -/
def Value.raw? : Value → Option (RawSql Value)
  | .raw expr => some expr
  | _ => none

/-- Whether a value is raw SQL. -/
def Value.isRaw (v : Value) : Bool :=
  v.raw?.isSome

/-- Whether none of the values of raw SQL is raw SQL itself. -/
def RawSql.isFlat (expr : RawSql Value) : Bool :=
  expr.bindings.all fun v => !v.isRaw

/-- Whether an operand binds raw SQL. -/
def PlacedOperand.bindsRaw (p : PlacedOperand) : Bool :=
  p.operand.params.any Value.isRaw

/-- Whether a value that a condition compares its column with is raw SQL, so that it is bound. -/
def Condition.bindsRaw : Condition Value → Bool
  | .compare _ value => value.isRaw
  | .between low high => low.isRaw || high.isRaw
  | .inSet first rest _ => first.isRaw || rest.any Value.isRaw
  | .rawCompare .. | .isNull _ => false

namespace Call

/-- The columns that a call gives to select. -/
def columns? : Call → Option (List Value)
  | .select columns => (Draft.columnsOf columns).toOption
  | _ => none

/-- Whether a call empties the columns to select. -/
def dropsColumns : Call → Bool
  | .clear .columns | .clearAll => true
  | _ => false

/-- The raw SQL that a call gives to be selected, assigned, or compared with a column. -/
def raws : Call → List (RawSql Value)
  | .filter _ (.mapping entries) => entries.filterMap fun e => e.2.rawOperand?
  | c => (c.columns?.getD [] ++ (c.rowPairs ++ c.duplicatePairs).map Prod.snd).filterMap Value.raw?

/-- Raw SQL among the columns that a call gives is raw SQL that it gives. -/
theorem mem_raws_of_mem_columns {c : Call} {columns : List Value} (h : c.columns? = some columns)
    {v : Value} (hv : v ∈ columns) {expr : RawSql Value} (hexpr : v.raw? = some expr) :
    expr ∈ c.raws := by
  have hmem : expr ∈ (c.columns?.getD [] ++
      (c.rowPairs ++ c.duplicatePairs).map Prod.snd).filterMap Value.raw? := by
    rw [h]
    exact List.mem_filterMap.2 ⟨v, List.mem_append_left _ hv, hexpr⟩
  cases c with
  | filter connective conditions => cases h
  | _ => exact hmem

/-- Raw SQL among the data that a call brings is raw SQL that it gives. -/
theorem mem_raws_of_mem_pairs {c : Call} {e : Value × Value}
    (h : e ∈ c.rowPairs ++ c.duplicatePairs) {expr : RawSql Value}
    (hexpr : e.2.raw? = some expr) : expr ∈ c.raws := by
  have hmem : expr ∈ (c.columns?.getD [] ++
      (c.rowPairs ++ c.duplicatePairs).map Prod.snd).filterMap Value.raw? :=
    List.mem_filterMap.2 ⟨e.2, List.mem_append_right _ (List.mem_map_of_mem h), hexpr⟩
  cases c with
  | filter connective conditions => cases h
  | _ => exact hmem

end Call

/-- A call empties the columns to select, or gives others, or leaves them as they are. -/
theorem Draft.columns_call (options : Options) (d : Draft) (c : Call) :
    (d.call options c).draft.columns =
      if c.dropsColumns then [] else (c.columns?.map id).getD d.columns := by
  have hother : ∀ part, c.part? = some part → part ≠ .columns →
      (d.call options c).draft.columns = d.columns := fun part hpart =>
    (sameBut_call options d hpart).columns_eq
  cases c with
  | select columns =>
    simp only [call, Call.columns?, Call.dropsColumns]
    cases columnsOf columns <;> rfl
  | clear clause =>
    cases clause with
    | columns => rfl
    | _ => exact hother _ rfl (by decide)
  | clearAll => rfl
  | _ => exact hother _ rfl (by decide)

namespace Condition

/-- A resolved condition keeps the raw SQL that its column is to be compared with. -/
theorem raw?_of_resolve {column value : Value} {c : Condition Value}
    (h : resolve column value = .ok c) : c.raw? = value.rawOperand? := by
  have hkept : ∀ expr, value.rawOperand? = some expr → c.raw? = some expr := by
    intro expr hexpr
    have hpair : ∀ first, ofItems column [first, .raw expr] = .ok c → c.raw? = some expr := by
      intro first hitems
      unfold ofItems at hitems
      split at hitems
      · next given operand hitem =>
        cases hitem
        obtain ⟨op, -, hchosen⟩ := Result.bind_eq_ok_iff.1 hitems
        cases hrole : op.role <;> rw [hrole] at hchosen <;> cases hchosen <;> rfl
      · cases hitems
    unfold Value.rawOperand? at hexpr
    split at hexpr
    · cases hexpr
      cases h
      rfl
    · next op found =>
      have hgiven : canonical column (.rawCompare op found) = .ok c := h
      rw [(canonical_of_canonical hgiven).2]
      exact hexpr
    · cases hexpr
      exact hpair _ h
    · cases hexpr
      exact hpair _ h
    · cases hexpr
  cases hvalue : value.rawOperand? with
  | some expr => exact hkept expr hvalue
  | none =>
    cases hraw : c.raw? with
    | none => rfl
    | some expr =>
      rw [(canonical_of_resolve h).2 expr hraw] at hvalue
      cases hvalue

end Condition

section BindsRaw

/-- Flat raw SQL binds no raw SQL. -/
theorem RawSql.isRaw_of_mem {expr : RawSql Value} (h : expr.isFlat = true) {v : Value}
    (hv : v ∈ expr.bindings) : v.isRaw = false := by
  have hnot := List.all_eq_true.1 h v hv
  simpa using hnot

/-- A value that is assigned is not bound when it is raw SQL. -/
theorem Operand.bindsRaw_ofValue (front : String) {v : Value}
    (h : ∀ expr, v.raw? = some expr → expr.isFlat = true) :
    PlacedOperand.bindsRaw ⟨front, .ofValue v⟩ = false := by
  cases v with
  | raw expr =>
    have hflat := h expr rfl
    apply List.any_eq_false.2
    intro v hv
    rw [RawSql.isRaw_of_mem hflat hv]
    exact Bool.false_ne_true
  | _ => rfl

/-- Assignments bind no raw SQL. -/
theorem Entries.bindsRaw_operands {data : Entries}
    (h : ∀ e ∈ data, ∀ expr, e.2.raw? = some expr → expr.isFlat = true) :
    ∀ p ∈ data.operands, p.bindsRaw = false := by
  intro p hp
  obtain ⟨e, he, rfl⟩ := List.mem_map.1 hp
  exact Operand.bindsRaw_ofValue _ (h e he)

/-- Columns to select bind no raw SQL. -/
theorem Value.bindsRaw_columnOperands {columns : List Value}
    (h : ∀ v ∈ columns, ∀ expr, v.raw? = some expr → expr.isFlat = true) :
    ∀ p ∈ columns.flatMap Value.columnOperands, p.bindsRaw = false := by
  intro p hp
  obtain ⟨v, hv, hp⟩ := List.mem_flatMap.1 hp
  cases v with
  | raw expr =>
    rw [List.mem_singleton.1 hp]
    exact Operand.bindsRaw_ofValue "" (h _ hv)
  | _ => cases hp

/-- A condition binds the raw SQL among the values that it compares its column with. -/
theorem Condition.any_bindsRaw_operands (column : String) {c : Condition Value}
    (h : ∀ expr, c.raw? = some expr → expr.isFlat = true) :
    (c.operands column).any PlacedOperand.bindsRaw = c.bindsRaw := by
  cases c with
  | compare op value => simp [operands, PlacedOperand.bindsRaw, Operand.params, bindsRaw]
  | rawCompare op expr =>
    have hraw := Operand.bindsRaw_ofValue (column ++ " " ++ written op ++ " ")
      (v := .raw expr) fun found hfound => h found hfound
    simp only [operands, List.any_cons, List.any_nil, Bool.or_false]
    exact hraw
  | between low high => simp [operands, PlacedOperand.bindsRaw, Operand.params, bindsRaw]
  | inSet first rest negated =>
    simp [operands, PlacedOperand.bindsRaw, Operand.params, bindsRaw, Function.comp_def]
  | isNull negated => rfl

/-- Filters bind raw SQL when one of their conditions does. -/
theorem ResolvedFilter.exists_bindsRaw_iff {filters : List ResolvedFilter}
    (h : ∀ f ∈ filters, ∀ e ∈ f.conditions, ∀ expr, e.2.raw? = some expr → expr.isFlat = true) :
    (∃ p ∈ filters.flatMap operands, p.bindsRaw = true) ↔
      ∃ f ∈ filters, ∃ e ∈ f.conditions, e.2.bindsRaw = true := by
  have hcondition : ∀ f ∈ filters, ∀ e ∈ f.conditions,
      (∃ p ∈ e.2.operands e.1.shown, p.bindsRaw = true) ↔ e.2.bindsRaw = true := by
    intro f hf e he
    rw [← List.any_eq_true, Condition.any_bindsRaw_operands _ (h f hf e he)]
  constructor
  · rintro ⟨p, hp, hraw⟩
    obtain ⟨f, hf, hp⟩ := List.mem_flatMap.1 hp
    obtain ⟨e, he, hp⟩ := List.mem_flatMap.1 hp
    exact ⟨f, hf, e, he, (hcondition f hf e he).1 ⟨p, hp, hraw⟩⟩
  · rintro ⟨f, hf, e, he, hraw⟩
    obtain ⟨p, hp, hraw⟩ := (hcondition f hf e he).2 hraw
    exact ⟨p, List.mem_flatMap.2 ⟨f, hf, List.mem_flatMap.2 ⟨e, he, hp⟩⟩, hraw⟩

/-- The operands of a draft bind raw SQL when a filter does that is written into the statement. -/
theorem Draft.exists_bindsRaw_iff {d : Draft} {filters : List ResolvedFilter}
    (hcolumns : ∀ v ∈ d.columns, ∀ expr, v.raw? = some expr → expr.isFlat = true)
    (hdata : ∀ e ∈ d.data ++ d.duplicateData, ∀ expr, e.2.raw? = some expr → expr.isFlat = true)
    (hfilters : ∀ f ∈ filters, ∀ e ∈ f.conditions, ∀ expr, e.2.raw? = some expr →
      expr.isFlat = true) (action : Action) :
    (∃ p ∈ d.operands filters action, p.bindsRaw = true) ↔
      action ≠ .insert ∧ ∃ f ∈ filters, ∃ e ∈ f.conditions, e.2.bindsRaw = true := by
  have hfree : ∀ {placed : List PlacedOperand}, (∀ p ∈ placed, p.bindsRaw = false) →
      ((∃ p ∈ placed, p.bindsRaw = true) ↔ False) := by
    intro placed h
    refine ⟨?_, False.elim⟩
    rintro ⟨p, hp, hraw⟩
    rw [h p hp] at hraw
    cases hraw
  have hselected := hfree (Value.bindsRaw_columnOperands hcolumns)
  have hrow := hfree (Entries.bindsRaw_operands fun e he => hdata e (List.mem_append_left _ he))
  have hduplicate := hfree
    (Entries.bindsRaw_operands fun e he => hdata e (List.mem_append_right _ he))
  have hwhere := ResolvedFilter.exists_bindsRaw_iff hfilters
  have happend : ∀ placed behind : List PlacedOperand,
      (∃ p ∈ placed ++ behind, p.bindsRaw = true) ↔
        (∃ p ∈ placed, p.bindsRaw = true) ∨ ∃ p ∈ behind, p.bindsRaw = true := by
    intro placed behind
    simp only [List.mem_append, or_and_right, exists_or]
  cases action with
  | select => simp only [operands, happend, hselected, hwhere, false_or]; simp
  | insert => simp only [operands, happend, hrow, hduplicate, or_self]; simp
  | update => simp only [operands, happend, hrow, hwhere, false_or]; simp
  | delete => simp only [operands, hwhere]; simp
  | count => simp only [operands, hwhere]; simp

end BindsRaw

namespace Builder

variable {table tableAlias options : Value} {sink : Option Sink} {b : Builder} {run : List Call}

/-- The columns to select after a run are those that were given last. -/
theorem columns_after (hb : Builder.create table tableAlias options sink = .ok b)
    (run : List Call) :
    (b.after run).draft.columns = Call.lastSet Call.dropsColumns Call.columns? [] run :=
  eq_lastSet_after Draft.columns id (congrArg Draft.columns (draft_of_create hb))
    (Draft.columns_call b.options) run

/-- Raw SQL among the columns to select after a run was given by a call of the run. -/
theorem isFlat_of_columns_after (hb : Builder.create table tableAlias options sink = .ok b)
    (hflat : ∀ c ∈ run, ∀ expr ∈ c.raws, expr.isFlat = true) :
    ∀ v ∈ (b.after run).draft.columns, ∀ expr, v.raw? = some expr → expr.isFlat = true := by
  intro v hv expr hexpr
  rw [columns_after hb] at hv
  rcases Call.lastSet_eq_or_exists Call.dropsColumns Call.columns? [] run with
    hnone | ⟨c, hc, hcolumns⟩
  · rw [hnone] at hv
    cases hv
  · exact hflat c hc expr (Call.mem_raws_of_mem_columns hcolumns hv hexpr)

/-- Raw SQL among data after a run was given by a call of the run. -/
theorem isFlat_of_entries_after {field : Draft → Entries} {pairs : Call → Entries}
    (hcall : ∀ options d c, field (Draft.call options d c).draft =
      if c.emptiesData then [] else (field d).putAll (pairs c))
    (hb : field b.draft = []) (hpairs : ∀ c ∈ run, ∀ e ∈ pairs c, ∀ expr, e.2.raw? = some expr →
      expr.isFlat = true) :
    ∀ e ∈ field (b.after run).draft, ∀ expr, e.2.raw? = some expr → expr.isFlat = true := by
  rw [entries_after hcall b hb]
  have hgiven : ∀ e ∈ Call.standingPairs pairs run, True ∧ ∀ expr, e.2.raw? = some expr →
      expr.isFlat = true := by
    intro e he
    obtain ⟨c, hc, he⟩ := List.mem_flatMap.1 he
    exact ⟨trivial, hpairs c ((List.rtakeWhile_suffix _ _).subset hc) e he⟩
  have hall := Entries.forall_mem_putAll (K := fun _ => True)
    (V := fun v => ∀ expr, v.raw? = some expr → expr.isFlat = true) (List.forall_mem_nil _) hgiven
  exact fun e he => (hall e he).2

/-- Raw SQL of a filter that stands after a run was given by a call of the run. -/
theorem isFlat_of_standingFilters (hflat : ∀ c ∈ run, ∀ expr ∈ c.raws, expr.isFlat = true) :
    ∀ f ∈ b.standingFilters run, ∀ e ∈ f.conditions, ∀ expr, e.2.raw? = some expr →
      expr.isFlat = true := by
  intro f hf e he expr hexpr
  obtain ⟨c, hc, hfilter⟩ := exists_call_of_mem_standingFilters hf
  obtain ⟨entries, value, rfl, hmem, -, hraw⟩ := Call.exists_entry_of_filter? hfilter he
  exact hflat _ hc expr (List.mem_filterMap.2 ⟨_, hmem, hraw expr hexpr⟩)

/-- A statement embeds its operands in order: each value as a question mark that binds it, and each
raw SQL with its text and its own values. Raw SQL that is selected, assigned, or that a column is
compared with is an operand of the second kind. So if none of it brings raw SQL among its own
values, the values of a statement contain raw SQL just when the statement is no insertion and a
condition that stands has raw SQL as a bound, as a member, or as the value of a comparison that was
given as a condition. -/
theorem embeds_raw_operands (hb : Builder.create table tableAlias options sink = .ok b)
    (hflat : ∀ c ∈ run, ∀ expr ∈ c.raws, expr.isFlat = true) {statement : Statement}
    (hgives : (b.after run).Gives statement) :
    Fragment.Embeds ⟨statement.sql, statement.params⟩
      ((b.after run).draft.operands (b.standingFilters run) statement.action) ∧
    (∀ f ∈ b.standingFilters run, ∃ entries, Call.filter f.connective (.mapping entries) ∈ run ∧
      List.Forall₂ (fun given e => given.1 = e.1 ∧ given.2.rawOperand? = e.2.raw?)
        entries f.conditions) ∧
    ((∃ v ∈ statement.params, v.isRaw = true) ↔
      statement.action ≠ .insert ∧
        ∃ f ∈ b.standingFilters run, ∃ e ∈ f.conditions, e.2.bindsRaw = true) := by
  have hstart := draft_of_create hb
  obtain ⟨hfilters, hparams⟩ := filters_after (congrArg Draft.filters hstart)
    (congrArg Draft.filterParams hstart) run
  have hembeds := Statement.embeds_of_ofDraft hfilters hparams (gives_iff.1 hgives)
  refine ⟨hembeds, ?_, ?_⟩
  · intro f hf
    obtain ⟨c, hc, hfilter⟩ := exists_call_of_mem_standingFilters hf
    obtain ⟨entries, rfl, hresolved⟩ := Call.filter?_eq_some_iff.1 hfilter
    exact ⟨entries, hc, (Filter.forall₂_of_resolved hresolved).imp fun _ _ hstands =>
      ⟨hstands.1, (Condition.raw?_of_resolve hstands.2).symm⟩⟩
  · have hpairs : ∀ c ∈ run, ∀ e ∈ c.rowPairs ++ c.duplicatePairs, ∀ expr,
        e.2.raw? = some expr → expr.isFlat = true := fun c hc e he expr hexpr =>
      hflat c hc expr (Call.mem_raws_of_mem_pairs he hexpr)
    have hdata : ∀ e ∈ (b.after run).draft.data ++ (b.after run).draft.duplicateData, ∀ expr,
        e.2.raw? = some expr → expr.isFlat = true := by
      intro e he
      rcases List.mem_append.1 he with he | he
      · exact isFlat_of_entries_after Draft.data_call (congrArg Draft.data hstart)
          (fun c hc e he => hpairs c hc e (List.mem_append_left _ he)) e he
      · exact isFlat_of_entries_after Draft.duplicateData_call
          (congrArg Draft.duplicateData hstart)
          (fun c hc e he => hpairs c hc e (List.mem_append_right _ he)) e he
    have hbinds := Draft.exists_bindsRaw_iff (isFlat_of_columns_after hb hflat) hdata
      (isFlat_of_standingFilters (b := b) hflat) statement.action
    rw [← hbinds]
    have hvalues : statement.params = _ := hembeds.params_eq
    rw [hvalues]
    simp only [List.mem_flatMap, PlacedOperand.bindsRaw, List.any_eq_true]
    constructor
    · rintro ⟨v, ⟨p, hp, hv⟩, hraw⟩
      exact ⟨p, hp, v, hv, hraw⟩
    · rintro ⟨p, hp, v, hv, hraw⟩
      exact ⟨v, ⟨p, hp, hv⟩, hraw⟩

/-- A run in which raw SQL is selected, compared with a column as it is and behind an operator, and
given as a bound of a range. -/
def rawRun : List Call :=
  [.select (.list [.text "name", .raw ⟨"COALESCE(nick, ?)", [.text "none"]⟩]),
    .filter .or (.mapping [(.text "a", .raw ⟨"NOW()", []⟩),
      (.text "b", .tuple [.text "not in", .raw ⟨"(SELECT 1)", []⟩])]),
    .filter .and (.mapping [(.text "c", .list [.text "between",
      .list [.raw ⟨"NOW()", []⟩, .int 5]])])]

/-- The selection that the run ends in binds the bound of the range. -/
def rawStatement : Statement where
  sql := "SELECT name, COALESCE(nick, ?) FROM users WHERE (a = NOW() OR b NOT IN (SELECT 1)) " ++
    "AND c BETWEEN ? AND ?"
  params := [.text "none", .raw ⟨"NOW()", []⟩, .int 5]
  action := .select

/-- The selection is given, and it embeds its operands. -/
theorem embeds_raw_operands_rawStatement :
    ((ofTable "users").after rawRun).Gives rawStatement ∧
      Fragment.Embeds ⟨rawStatement.sql, rawStatement.params⟩
        (((ofTable "users").after rawRun).draft.operands ((ofTable "users").standingFilters rawRun)
          .select) ∧
      ∃ f ∈ (ofTable "users").standingFilters rawRun, ∃ e ∈ f.conditions,
        e.2.bindsRaw = true := by
  have hgives : ((ofTable "users").after rawRun).Gives rawStatement := Or.inl rfl
  have hflat : ∀ c ∈ rawRun, ∀ expr ∈ c.raws, expr.isFlat = true := by decide
  obtain ⟨hembeds, -, hbinds⟩ := embeds_raw_operands (create_text "users") hflat hgives
  have hraw : ∃ v ∈ rawStatement.params, v.isRaw = true :=
    ⟨.raw ⟨"NOW()", []⟩, List.mem_cons_of_mem _ List.mem_cons_self, rfl⟩
  exact ⟨hgives, hembeds, (hbinds.1 hraw).2⟩

/-- Raw SQL without values of its own is bound when it is given as a bound of a range. -/
theorem raw_bound_of_range :
    ∃ statement, ((ofTable "users").after [.filter .and (.mapping [(.text "created_at",
        .tuple [.text "BETWEEN", .list [.raw ⟨"NOW()", []⟩, .int 5]])])]).Gives statement ∧
      statement.sql = "SELECT * FROM users WHERE created_at BETWEEN ? AND ?" ∧
      .raw ⟨"NOW()", []⟩ ∈ statement.params :=
  ⟨⟨"SELECT * FROM users WHERE created_at BETWEEN ? AND ?", [.raw ⟨"NOW()", []⟩, .int 5], .select⟩,
    Or.inl rfl, rfl, List.mem_cons_self⟩

end Builder

end BoundSql
