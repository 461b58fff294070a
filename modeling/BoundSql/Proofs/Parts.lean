import BoundSql.Proofs.Frame
import BoundSql.Proofs.Run

/-!
# The parts of a draft on their own

What a call does to its part of a draft, and whether it is refused, depends on that part
alone. A run of calls can therefore be followed on each part by itself, where only the
calls that concern the part are made. Two runs with the same calls on every part are
refused alike and end in the same builder, however calls on different parts take turns.
-/

namespace BoundSql

/-- Whether a call is one on a part of a draft. The call that empties all clauses is one on
every part. -/
def Call.concerns (part : DraftPart) (c : Call) : Bool :=
  match c.part? with
  | some own => own = part
  | none => true

namespace Draft

/-- A draft for the same table in which every part but one is empty. -/
def only (d : Draft) : DraftPart → Draft
  | .tableAlias => { table := d.table, tableAlias := d.tableAlias }
  | .columns => { table := d.table, columns := d.columns }
  | .joins => { table := d.table, joins := d.joins }
  | .filters => { table := d.table, filters := d.filters, filterParams := d.filterParams }
  | .groupBy => { table := d.table, groupBy := d.groupBy }
  | .orderBy => { table := d.table, orderBy := d.orderBy }
  | .paging => { table := d.table, limit := d.limit, offset := d.offset }
  | .content => { table := d.table, action := d.action, countColumn := d.countColumn,
                  data := d.data, duplicateData := d.duplicateData }

/-- The draft whose parts are taken from the drafts that stand for them. -/
def assembled (parts : DraftPart → Draft) : Draft where
  table := (parts .tableAlias).table
  tableAlias := (parts .tableAlias).tableAlias
  action := (parts .content).action
  columns := (parts .columns).columns
  joins := (parts .joins).joins
  filters := (parts .filters).filters
  filterParams := (parts .filters).filterParams
  groupBy := (parts .groupBy).groupBy
  orderBy := (parts .orderBy).orderBy
  limit := (parts .paging).limit
  offset := (parts .paging).offset
  data := (parts .content).data
  duplicateData := (parts .content).duplicateData
  countColumn := (parts .content).countColumn

/-- A draft is put together again from its parts. -/
theorem assembled_only (d : Draft) : assembled d.only = d := rfl

/-- Drafts with the same parts are the same. -/
theorem eq_of_only {d d' : Draft} (h : ∀ part, d.only part = d'.only part) : d = d' := by
  have hparts : d.only = d'.only := funext h
  rw [← assembled_only d, hparts, assembled_only]

/-- A change of one part is not seen in another one. -/
theorem SameBut.only_eq {d d' : Draft} {own part : DraftPart} (h : d.SameBut d' own)
    (hne : own ≠ part) : d'.only part = d.only part := by
  cases own with
  | _ =>
    dsimp only [SameBut] at h
    rw [h]
    cases part with
    | _ => first | rfl | exact absurd rfl hne

/-- What can be refused has the same effect on a part alone when the change has. -/
theorem settle_only {α : Type} {part : DraftPart} (d : Draft) (result : Except Refusal α)
    (change : Draft → α → Draft)
    (h : ∀ a, change (d.only part) a = (change d a).only part) :
    (d.only part).settle (result.map (change (d.only part))) =
      ⟨(d.settle (result.map (change d))).draft.only part,
        (d.settle (result.map (change d))).refusal?⟩ := by
  cases result with
  | error refusal => rfl
  | ok a =>
    have hchange := h a
    change (⟨change (d.only part) a, none⟩ : Outcome) = ⟨(change d a).only part, none⟩
    rw [hchange]

/-- A filter is added to the part of the filters alone as it is to the draft. -/
theorem withFilter_only (d : Draft) (connective : Connective) (filter : Fragment) :
    (d.only .filters).withFilter connective filter =
      (d.withFilter connective filter).only .filters := by
  unfold withFilter
  split
  · rfl
  · rfl

/-- The offset is set in the part of the paging alone as it is in the draft. -/
theorem setOffset_only (d : Draft) (offset : Value) :
    (d.only .paging).setOffset offset =
      ⟨(d.setOffset offset).draft.only .paging, (d.setOffset offset).refusal?⟩ :=
  settle_only d _ (fun d offset => { d with offset }) fun _ => rfl

/-- The limit and the offset are set in the part of the paging alone as they are in the
draft, also when the limit is accepted and the offset is not. -/
theorem setLimit_only (d : Draft) (limit offset : Value) :
    (d.only .paging).setLimit limit offset =
      ⟨(d.setLimit limit offset).draft.only .paging, (d.setLimit limit offset).refusal?⟩ := by
  unfold setLimit
  cases natural "limit" limit with
  | error refusal => rfl
  | ok n => exact setOffset_only { d with limit := n } offset

/-- A call on a part has the same effect on the part alone, and is refused for the same
reason. -/
theorem call_only (options : Options) (d : Draft) {c : Call} {part : DraftPart}
    (h : c.concerns part = true) :
    (d.only part).call options c =
      ⟨(d.call options c).draft.only part, (d.call options c).refusal?⟩ := by
  cases c with
  | clearAll => cases part <;> rfl
  | clear clause =>
    obtain rfl := of_decide_eq_true h
    cases clause <;> rfl
  | tableAlias given =>
    obtain rfl := of_decide_eq_true h
    exact settle_only d _ (fun d tableAlias => { d with tableAlias }) fun _ => rfl
  | select columns =>
    obtain rfl := of_decide_eq_true h
    exact settle_only d _ (fun d columns => { d with columns }) fun _ => rfl
  | join table condition given kind =>
    obtain rfl := of_decide_eq_true h
    exact settle_only d _ (fun d join => { d with joins := d.joins ++ [join] }) fun _ => rfl
  | filter connective conditions =>
    obtain rfl := of_decide_eq_true h
    exact settle_only d _ (fun d filter => d.withFilter connective filter)
      (withFilter_only d connective)
  | offset offset =>
    obtain rfl := of_decide_eq_true h
    exact setOffset_only d offset
  | limit limit offset =>
    obtain rfl := of_decide_eq_true h
    exact setLimit_only d limit offset
  | _ =>
    obtain rfl := of_decide_eq_true h
    rfl

/-- A call on another part leaves a part as it is. -/
theorem only_call_of_not_concerns (options : Options) (d : Draft) {c : Call} {part : DraftPart}
    (h : c.concerns part = false) : (d.call options c).draft.only part = d.only part := by
  unfold Call.concerns at h
  split at h
  · next own hown => exact (sameBut_call options d hown).only_eq (of_decide_eq_false h)
  · cases h

/-- What a call does to a part can be told from the part. -/
theorem only_call_congr (options : Options) {d d' : Draft} {part : DraftPart}
    (h : d.only part = d'.only part) (c : Call) :
    (d.call options c).draft.only part = (d'.call options c).draft.only part := by
  cases hc : c.concerns part with
  | true =>
    have hcall := congrArg Outcome.draft (call_only options d hc)
    have hcall' := congrArg Outcome.draft (call_only options d' hc)
    rw [h] at hcall
    exact hcall.symm.trans hcall'
  | false =>
    rw [only_call_of_not_concerns options d hc, only_call_of_not_concerns options d' hc, h]

end Draft

namespace Builder

/-- A builder for the same table in whose draft every part but one is empty. -/
def only (b : Builder) (part : DraftPart) : Builder :=
  { b with draft := b.draft.only part }

/-- Builders with the same parts are the same. -/
theorem eq_of_only {b b' : Builder} (h : ∀ part, b.only part = b'.only part) : b = b' := by
  have hdraft : b.draft = b'.draft :=
    Draft.eq_of_only fun part => congrArg Builder.draft (h part)
  calc
    b = ⟨(b.only .tableAlias).options, (b.only .tableAlias).sink, b.draft⟩ := rfl
    _ = ⟨(b'.only .tableAlias).options, (b'.only .tableAlias).sink, b'.draft⟩ := by
      rw [h .tableAlias, hdraft]
    _ = b' := rfl

/-- A call on a part has the same effect on the part alone. -/
theorem call_only (b : Builder) {c : Call} {part : DraftPart} (h : c.concerns part = true) :
    (b.only part).call c = ((b.call c).1.only part, (b.call c).2) := by
  have hcall := Draft.call_only b.options b.draft h
  unfold call only
  rw [hcall]

/-- A call on another part leaves a part as it is. -/
theorem only_call_of_not_concerns (b : Builder) {c : Call} {part : DraftPart}
    (h : c.concerns part = false) : (b.call c).1.only part = b.only part := by
  have hcall := Draft.only_call_of_not_concerns b.options b.draft h
  unfold call only
  rw [hcall]

/-- A run does to a part what the calls on it do to the part alone. -/
theorem only_after (b : Builder) (part : DraftPart) (run : List Call) :
    (b.after run).only part = (b.only part).after (run.filter (Call.concerns part)) := by
  induction run generalizing b with
  | nil => rfl
  | cons c rest ih =>
    have hrest := ih (b.call c).1
    cases hc : c.concerns part with
    | true =>
      have hcall := congrArg Prod.fst (b.call_only hc)
      rw [List.filter_cons_of_pos hc]
      change ((b.call c).1.after rest).only part = ((b.only part).call c).1.after _
      rw [hrest, hcall]
    | false =>
      have hcall := b.only_call_of_not_concerns hc
      rw [List.filter_cons_of_neg (by simp [hc])]
      change ((b.call c).1.after rest).only part = _
      rw [hrest, hcall]

/-- The calls of a run on a part are refused as they are on the part alone. -/
theorem filter_outcomes (b : Builder) (part : DraftPart) (run : List Call) :
    (b.outcomes run).filter (fun o => o.1.concerns part) =
      (b.only part).outcomes (run.filter (Call.concerns part)) := by
  induction run generalizing b with
  | nil => rfl
  | cons c rest ih =>
    have hrest := ih (b.call c).1
    rw [outcomes, List.filter_cons, List.filter_cons]
    cases hc : c.concerns part with
    | true =>
      have hcall := b.call_only hc
      rw [if_pos rfl, if_pos rfl, outcomes, hrest, hcall]
    | false =>
      have hcall := b.only_call_of_not_concerns hc
      rw [if_neg Bool.false_ne_true, if_neg Bool.false_ne_true, hrest, hcall]

/-- Runs with the same calls on every part end in the same builder. -/
theorem after_eq_of_filter_concerns (b : Builder) {run other : List Call}
    (h : ∀ part, run.filter (Call.concerns part) = other.filter (Call.concerns part)) :
    b.after run = b.after other := by
  apply eq_of_only
  intro part
  rw [only_after, only_after, h part]

/-- Calls on different parts can be made in any order. Two runs with the same calls on every
part, in the same order within the part, are refused alike, call by call, and end in the
same builder, which builds the same or refuses it for the same reason. -/
theorem after_eq_of_same_calls (b : Builder) {run other : List Call}
    (h : ∀ part, run.filter (Call.concerns part) = other.filter (Call.concerns part)) :
    (∀ part, (b.outcomes run).filter (fun o => o.1.concerns part) =
        (b.outcomes other).filter fun o => o.1.concerns part) ∧
      b.after run = b.after other ∧
      ∀ sink, (b.after run).build sink = (b.after other).build sink := by
  have houtcomes : ∀ part, (b.outcomes run).filter (fun o => o.1.concerns part) =
      (b.outcomes other).filter fun o => o.1.concerns part := by
    intro part
    rw [filter_outcomes, filter_outcomes, h part]
  have hafter := b.after_eq_of_filter_concerns h
  refine ⟨houtcomes, hafter, ?_⟩
  intro sink
  rw [hafter]

/-- A run in which a part is finished before the next one is begun. -/
def sortedRun : List Call :=
  [.filter .and (.mapping [(.text "id", .int 7)]),
    .filter .or (.mapping [(.text "age", .tuple [.text "between", .int 5])]),
    .filter .or (.mapping [(.text "role", .text "admin"), (.text "vip", .bool true)]),
    .limit (.int 10) (.int 0),
    .limit (.int 20) (.int (-1)),
    .update (.mapping [(.text "name", .text "Ann")]),
    .update (.list [.tuple [.text "seen", .int 1], .int 0])]

/-- The same calls with those on different parts in turns. -/
def alternatingRun : List Call :=
  [.update (.mapping [(.text "name", .text "Ann")]),
    .filter .and (.mapping [(.text "id", .int 7)]),
    .limit (.int 10) (.int 0),
    .filter .or (.mapping [(.text "age", .tuple [.text "between", .int 5])]),
    .update (.list [.tuple [.text "seen", .int 1], .int 0]),
    .limit (.int 20) (.int (-1)),
    .filter .or (.mapping [(.text "role", .text "admin"), (.text "vip", .bool true)])]

/-- The two runs, with a refused filter and a refused update and limit that leave a half of
their change, come to the same. -/
theorem after_eq_of_same_calls_alternatingRun :
    (∀ part, sortedRun.filter (Call.concerns part) =
        alternatingRun.filter (Call.concerns part)) ∧
      (∀ part, ((ofTable "users").outcomes sortedRun).filter (fun o => o.1.concerns part) =
        ((ofTable "users").outcomes alternatingRun).filter fun o => o.1.concerns part) ∧
      (ofTable "users").after sortedRun = (ofTable "users").after alternatingRun ∧
      ∀ sink, ((ofTable "users").after sortedRun).build sink =
        ((ofTable "users").after alternatingRun).build sink := by
  have hsame : ∀ part, sortedRun.filter (Call.concerns part) =
      alternatingRun.filter (Call.concerns part) := by
    intro part
    cases part <;> rfl
  exact ⟨hsame, after_eq_of_same_calls (ofTable "users") hsame⟩

end Builder

end BoundSql
