import BoundSql.Call

/-!
# What a call leaves alone

Every call but the one that empties all clauses belongs to one part of a draft. Made
on any draft, accepted or refused, it leaves every other part as it is.
-/

namespace BoundSql

/-- The parts of a draft that calls change on their own. -/
inductive DraftPart where
  /-- The alias of the table. -/
  | tableAlias
  /-- The columns to select. -/
  | columns
  /-- The joined tables. -/
  | joins
  /-- The filters and their values. -/
  | filters
  /-- The grouping. -/
  | groupBy
  /-- The order. -/
  | orderBy
  /-- The limit and the offset. -/
  | paging
  /-- The kind of statement, its data and what is counted. -/
  | content
deriving DecidableEq

/-- The part of a draft that the emptying of a clause belongs to. -/
def ClauseName.part : ClauseName → DraftPart
  | .filters => .filters
  | .columns => .columns
  | .joins => .joins
  | .groupBy => .groupBy
  | .orderBy => .orderBy
  | .limit => .paging
  | .data => .content

/-- The part of a draft that a call belongs to, unless it empties all clauses. -/
def Call.part? : Call → Option DraftPart
  | .tableAlias _ => some .tableAlias
  | .select _ => some .columns
  | .count _ | .insert _ | .update _ | .delete | .onDuplicate _ => some .content
  | .join .. => some .joins
  | .filter .. => some .filters
  | .groupBy _ => some .groupBy
  | .orderBy _ => some .orderBy
  | .limit .. | .offset _ => some .paging
  | .clear clause => some clause.part
  | .clearAll => none

namespace Draft

/-- A draft that differs from another one in no part but the given one. -/
def SameBut (d d' : Draft) : DraftPart → Prop
  | .tableAlias => d' = { d with tableAlias := d'.tableAlias }
  | .columns => d' = { d with columns := d'.columns }
  | .joins => d' = { d with joins := d'.joins }
  | .filters => d' = { d with filters := d'.filters, filterParams := d'.filterParams }
  | .groupBy => d' = { d with groupBy := d'.groupBy }
  | .orderBy => d' = { d with orderBy := d'.orderBy }
  | .paging => d' = { d with limit := d'.limit, offset := d'.offset }
  | .content => d' = { d with action := d'.action, countColumn := d'.countColumn,
                              data := d'.data, duplicateData := d'.duplicateData }

/-- A draft differs from itself in no part. -/
theorem SameBut.refl (d : Draft) (part : DraftPart) : d.SameBut d part := by
  cases part <;> rfl

/-- Drafts that differ in another part have the same filters with the same values. -/
theorem SameBut.filters_eq {d d' : Draft} {part : DraftPart} (h : d.SameBut d' part)
    (hpart : part ≠ .filters) : d'.filters = d.filters ∧ d'.filterParams = d.filterParams := by
  cases part with
  | filters => exact absurd rfl hpart
  | _ =>
    dsimp only [SameBut] at h
    rw [h]
    exact ⟨rfl, rfl⟩

/-- Drafts that differ in another part have the same joins. -/
theorem SameBut.joins_eq {d d' : Draft} {part : DraftPart} (h : d.SameBut d' part)
    (hpart : part ≠ .joins) : d'.joins = d.joins := by
  cases part with
  | joins => exact absurd rfl hpart
  | _ =>
    dsimp only [SameBut] at h
    rw [h]

/-- Drafts that differ in another part have the same limit and offset. -/
theorem SameBut.paging_eq {d d' : Draft} {part : DraftPart} (h : d.SameBut d' part)
    (hpart : part ≠ .paging) : d'.limit = d.limit ∧ d'.offset = d.offset := by
  cases part with
  | paging => exact absurd rfl hpart
  | _ =>
    dsimp only [SameBut] at h
    rw [h]
    exact ⟨rfl, rfl⟩

/-- Drafts that differ in one part are about the same table. -/
theorem SameBut.table_eq {d d' : Draft} {part : DraftPart} (h : d.SameBut d' part) :
    d'.table = d.table := by
  cases part <;>
    · dsimp only [SameBut] at h
      rw [h]

/-- Drafts that differ in another part have the same alias of the table. -/
theorem SameBut.tableAlias_eq {d d' : Draft} {part : DraftPart} (h : d.SameBut d' part)
    (hpart : part ≠ .tableAlias) : d'.tableAlias = d.tableAlias := by
  cases part with
  | tableAlias => exact absurd rfl hpart
  | _ =>
    dsimp only [SameBut] at h
    rw [h]

/-- Drafts that differ in another part have the same columns to select. -/
theorem SameBut.columns_eq {d d' : Draft} {part : DraftPart} (h : d.SameBut d' part)
    (hpart : part ≠ .columns) : d'.columns = d.columns := by
  cases part with
  | columns => exact absurd rfl hpart
  | _ =>
    dsimp only [SameBut] at h
    rw [h]

/-- Drafts that differ in another part have the same kind of statement. -/
theorem SameBut.action_eq {d d' : Draft} {part : DraftPart} (h : d.SameBut d' part)
    (hpart : part ≠ .content) : d'.action = d.action := by
  cases part with
  | content => exact absurd rfl hpart
  | _ =>
    dsimp only [SameBut] at h
    rw [h]

/-- A change of one part that may be refused changes no other part. -/
theorem sameBut_settle {α : Type} {part : DraftPart} (d : Draft) (result : Except Refusal α)
    (change : α → Draft) (h : ∀ a, d.SameBut (change a) part) :
    d.SameBut (d.settle (result.map change)).draft part := by
  cases result with
  | error refusal => exact SameBut.refl d part
  | ok a => exact h a

/-- Setting the offset leaves all else as it is. -/
theorem sameBut_setOffset (d : Draft) (offset : Value) :
    d.SameBut (d.setOffset offset).draft .paging :=
  sameBut_settle d _ _ fun _ => rfl

/-- Setting the limit and the offset leaves all else as it is, also when the limit is
accepted and the offset is not. -/
theorem sameBut_setLimit (d : Draft) (limit offset : Value) :
    d.SameBut (d.setLimit limit offset).draft .paging := by
  unfold setLimit
  cases natural "limit" limit with
  | error refusal => rfl
  | ok n =>
    have hoffset := sameBut_setOffset { d with limit := n } offset
    unfold SameBut at hoffset ⊢
    dsimp only at hoffset ⊢
    rw [hoffset]

/-- A filter changes nothing but the filters and their values. -/
theorem sameBut_withFilter (d : Draft) (connective : Connective) (filter : Fragment) :
    d.SameBut (d.withFilter connective filter) .filters := by
  unfold withFilter
  split
  · rfl
  · rfl

/-- Emptying a clause changes no other part. -/
theorem sameBut_clear (d : Draft) (clause : ClauseName) :
    d.SameBut (d.clear clause) clause.part := by
  cases clause <;> rfl

/-- A call changes no part of a draft but its own. -/
theorem sameBut_call (options : Options) (d : Draft) {c : Call} {part : DraftPart}
    (h : c.part? = some part) : d.SameBut (d.call options c).draft part := by
  cases c with
  | clearAll => cases h
  | clear clause =>
    cases h
    exact sameBut_clear d clause
  | limit limit offset =>
    cases h
    exact sameBut_setLimit d limit offset
  | offset offset =>
    cases h
    exact sameBut_setOffset d offset
  | filter connective conditions =>
    cases h
    exact sameBut_settle d _ _ fun filter => sameBut_withFilter d connective filter
  | tableAlias given =>
    cases h
    exact sameBut_settle d _ _ fun _ => rfl
  | select columns =>
    cases h
    exact sameBut_settle d _ _ fun _ => rfl
  | join table condition given kind =>
    cases h
    exact sameBut_settle d _ _ fun _ => rfl
  | _ =>
    cases h
    rfl

/-- No call changes what table a draft is about. -/
theorem table_call (options : Options) (d : Draft) (c : Call) :
    (d.call options c).draft.table = d.table := by
  cases hpart : c.part? with
  | some part => exact (sameBut_call options d hpart).table_eq
  | none =>
    cases c with
    | clearAll => rfl
    | _ => cases hpart

/-- No call but the one that sets it changes the alias of the table. -/
theorem tableAlias_call (options : Options) (d : Draft) {c : Call}
    (h : c.part? ≠ some .tableAlias) : (d.call options c).draft.tableAlias = d.tableAlias := by
  cases hpart : c.part? with
  | some part =>
    rw [hpart, ne_eq, Option.some.injEq] at h
    exact (sameBut_call options d hpart).tableAlias_eq h
  | none =>
    cases c with
    | clearAll => rfl
    | _ => cases hpart

end Draft

end BoundSql
