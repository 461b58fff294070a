import BoundSql.Proofs.Layout
import BoundSql.Proofs.Standing

/-!
# Settings that stand after a run

A call can set a part of a draft to a value of its own, and a later call can set it anew or put
it back to what it is in an empty draft. The value of the last call that sets it, since it was
last put back, is what stands after a run. The limit and the offset are set in this way, and
always to natural numbers. A limit stands as soon as it is accepted itself, even if the offset
that is given with it is refused.
-/

namespace BoundSql

namespace Call

section LastSet

variable {α : Type} {resets : Call → Bool} {sets : Call → Option α} {initial : α}

/-- The value that the last call of a run sets which sets any, behind the last one that puts the
setting back. -/
def lastSet (resets : Call → Bool) (sets : Call → Option α) (initial : α) (run : List Call) : α :=
  ((run.rtakeWhile fun c => !resets c).filterMap sets).getLast?.getD initial

/-- The last call of a run puts the setting back, or sets it, or leaves it as it stood. -/
theorem lastSet_concat (run : List Call) (c : Call) :
    lastSet resets sets initial (run ++ [c]) =
      if resets c then initial else (sets c).getD (lastSet resets sets initial run) := by
  unfold lastSet
  rw [List.rtakeWhile_concat]
  cases hresets : resets c with
  | true => rfl
  | false =>
    rw [if_pos (by decide), if_neg (by decide), List.filterMap_append]
    cases hsets : sets c with
    | none => simp [hsets]
    | some a => simp [hsets]

/-- What stands depends on what the calls of the run set alone. -/
theorem lastSet_congr {others : Call → Option α} {run : List Call}
    (h : ∀ c ∈ run, sets c = others c) :
    lastSet resets sets initial run = lastSet resets others initial run := by
  have hbehind : ∀ c ∈ run.rtakeWhile fun c => !resets c, sets c = others c :=
    fun c hc => h c ((List.rtakeWhile_suffix _ _).subset hc)
  unfold lastSet
  rw [List.filterMap_congr hbehind]

/-- Calls that do not put the setting back can be left out of a run when what they set is left
out of account. -/
theorem lastSet_filter {keep : Call → Bool} (hkeep : ∀ c, resets c = true → keep c = true)
    (run : List Call) :
    lastSet resets sets initial (run.filter keep) =
      lastSet resets (fun c => if keep c then sets c else none) initial run := by
  induction run using List.reverseRecOn with
  | nil => rfl
  | append_singleton run c ih =>
    rw [List.filter_append, lastSet_concat]
    cases hkept : keep c with
    | true =>
      rw [List.filter_cons_of_pos hkept, List.filter_nil, lastSet_concat, ih, if_pos rfl]
    | false =>
      have hresets : resets c = false := by
        cases h : resets c with
        | false => rfl
        | true => rw [hkeep c h] at hkept; cases hkept
      rw [List.filter_cons_of_neg (by simp [hkept]), List.filter_nil, List.append_nil, ih,
        hresets]
      rfl

/-- What was set last is what is set at first, or what a call of the run sets. -/
theorem lastSet_eq_or_exists (resets : Call → Bool) (sets : Call → Option α)
    (initial : α) (run : List Call) :
    lastSet resets sets initial run = initial ∨
      ∃ c ∈ run, sets c = some (lastSet resets sets initial run) := by
  unfold lastSet
  cases hlast : ((run.rtakeWhile fun c => !resets c).filterMap sets).getLast? with
  | none => exact Or.inl rfl
  | some a =>
    obtain ⟨c, hc, hsets⟩ := List.mem_filterMap.1 (List.mem_of_getLast? hlast)
    exact Or.inr ⟨c, (List.rtakeWhile_suffix _ _).subset hc, hsets⟩

end LastSet

end Call

/-- What the calls of a run set last stands in the draft behind the run. -/
theorem Builder.eq_lastSet_after {α β : Type} {b : Builder} (view : Draft → β) (shown : α → β)
    {resets : Call → Bool} {sets : Call → Option α} {initial : α}
    (hstart : view b.draft = shown initial)
    (hcall : ∀ (d : Draft) c, view (d.call b.options c).draft =
      if resets c then shown initial else ((sets c).map shown).getD (view d))
    (run : List Call) :
    view (b.after run).draft = shown (Call.lastSet resets sets initial run) := by
  induction run using List.reverseRecOn with
  | nil => exact hstart
  | append_singleton run c ih =>
    have hstep := hcall (b.after run).draft c
    rw [← options_after b run] at hstep
    rw [after_concat, Call.lastSet_concat]
    change view ((b.after run).draft.call _ c).draft = _
    rw [hstep, ih, Option.getD_map]
    split <;> rfl

/-- The natural number that a value is, if it is one. Truth values are none. -/
def Value.natural? : Value → Option Nat
  | .int (.ofNat n) => some n
  | _ => none

/-- A setting accepts the values that are natural numbers and keeps them. -/
theorem Draft.natural_eq (setting : String) (given : Value) :
    natural setting given = given.natural?.elim (.error (.notNatural setting given))
      fun n => .ok (.int n) := by
  cases given with
  | int n => cases n <;> rfl
  | _ => rfl

namespace Call

/-- The limit that a call sets, whether or not it goes on to set an offset. -/
def limitSet? : Call → Option Nat
  | .limit most _ => most.natural?
  | _ => none

/-- The limit that a call sets when the whole call is accepted. -/
def acceptedLimit? : Call → Option Nat
  | .limit most skipped => most.natural?.filter fun _ => skipped.natural?.isSome
  | _ => none

/-- The offset that a call sets. One that is given with a limit is set behind the limit. -/
def offsetSet? : Call → Option Nat
  | .limit most skipped => skipped.natural?.filter fun _ => most.natural?.isSome
  | .offset skipped => skipped.natural?
  | _ => none

/-- Whether a call sets the limit or the offset. -/
def setsPaging : Call → Bool
  | .limit .. | .offset _ => true
  | _ => false

/-- Whether a call empties the limit and the offset. -/
def resetsPaging : Call → Bool
  | .clear .limit | .clearAll => true
  | _ => false

/-- Whether a call is given a limit that is a natural number with an offset that is not. -/
def isHalfRefused : Call → Bool
  | .limit most skipped => most.natural?.isSome && skipped.natural?.isNone
  | _ => false

/-- Whether a call is given a limit or an offset that is not a natural number. -/
def isRefusedPaging : Call → Bool
  | .limit most skipped => most.natural?.isNone || skipped.natural?.isNone
  | .offset skipped => skipped.natural?.isNone
  | _ => false

/-- An offset is set only by a call that is accepted. -/
theorem offsetSet?_of_isRefusedPaging {c : Call} (h : c.isRefusedPaging = true) :
    c.offsetSet? = none := by
  cases c with
  | limit most skipped =>
    rcases Bool.or_eq_true_iff.1 h with h | h
    · simp [offsetSet?, Option.isNone_iff_eq_none.1 h]
    · simp [offsetSet?, Option.isNone_iff_eq_none.1 h]
  | offset skipped => exact Option.isNone_iff_eq_none.1 h
  | _ => rfl

/-- A limit is set by an accepted call, or by one of which the offset is refused. -/
theorem acceptedLimit?_eq (c : Call) :
    c.acceptedLimit? = if !c.isRefusedPaging then c.limitSet? else none := by
  cases c with
  | limit most skipped =>
    cases hmost : most.natural? <;> cases hskipped : skipped.natural? <;>
      simp [acceptedLimit?, limitSet?, isRefusedPaging, hmost, hskipped]
  | offset skipped => exact (ite_self _).symm
  | _ => rfl

/-- A call sets the limit as an accepted one would, unless it is refused for the offset alone. -/
theorem limitSet?_of_not_isHalfRefused {c : Call} (h : c.isHalfRefused = false) :
    c.limitSet? = c.acceptedLimit? := by
  cases c with
  | limit most skipped =>
    cases hmost : most.natural? <;> cases hskipped : skipped.natural? <;>
      simp_all [acceptedLimit?, limitSet?, isHalfRefused, Option.filter]
  | _ => rfl

end Call

namespace Draft

/-- A call empties the limit and the offset, or sets one of them or both, or leaves them as they
are. -/
theorem paging_call (options : Options) (d : Draft) (c : Call) :
    (d.call options c).draft.limit =
        (if c.resetsPaging then .int (0 : Nat)
          else (c.limitSet?.map fun n : Nat => Value.int n).getD d.limit) ∧
      (d.call options c).draft.offset =
        if c.resetsPaging then .int (0 : Nat)
        else (c.offsetSet?.map fun n : Nat => Value.int n).getD d.offset := by
  cases c with
  | limit limit offset =>
    simp only [Call.resetsPaging, Call.limitSet?, Call.offsetSet?, call, setLimit, setOffset,
      natural_eq]
    cases limit.natural? <;> cases offset.natural? <;> exact ⟨rfl, rfl⟩
  | offset offset =>
    simp only [Call.resetsPaging, Call.limitSet?, Call.offsetSet?, call, setOffset, natural_eq]
    cases offset.natural? <;> exact ⟨rfl, rfl⟩
  | clear clause =>
    cases clause with
    | limit => exact ⟨rfl, rfl⟩
    | _ => exact ⟨rfl, rfl⟩
  | clearAll => exact ⟨rfl, rfl⟩
  | _ => exact (sameBut_call options d rfl).paging_eq (by decide)

/-- A call that sets paging is refused when it is given something other than a natural number. -/
theorem isSome_refusal?_call (options : Options) (d : Draft) {c : Call}
    (hc : c.setsPaging = true) : (d.call options c).refusal?.isSome = c.isRefusedPaging := by
  cases c with
  | limit limit offset =>
    simp only [Call.isRefusedPaging, call, setLimit, setOffset, natural_eq]
    cases limit.natural? <;> cases offset.natural? <;> rfl
  | offset offset =>
    simp only [Call.isRefusedPaging, call, setOffset, natural_eq]
    cases offset.natural? <;> rfl
  | _ => cases hc

end Draft

/-- What stands behind the other clauses of a selection: a limit above zero, and then an offset
above zero. -/
def Clause.pagingEnd (limit offset : Nat) : String :=
  if limit = 0 then ""
  else " LIMIT " ++ toString limit ++ if offset = 0 then "" else " OFFSET " ++ toString offset

namespace Statement

/-- A selection ends in its limit and its offset. In front of them stand the other clauses of the
draft, which do not depend on the two. -/
def EndsInPaging (statement : Statement) (d : Draft) (limit offset : Nat) : Prop :=
  ∃ columns, Clause.columns d.columns = .ok columns ∧
    statement.sql =
      spaced (([columns] ++ Clause.rows d ++ [Clause.keyed "ORDER BY " d.orderBy]).map
        Fragment.sql?) ++ Clause.pagingEnd limit offset

/-- The columns to select are not without text. -/
theorem sql_columns_ne_empty {list : List Value} {f : Fragment}
    (h : Clause.columns list = .ok f) : f.sql ≠ "" := by
  unfold Clause.columns at h
  split at h
  · cases h
    decide
  · obtain ⟨fragments, -, h⟩ := Result.bind_eq_ok_iff.1 h
    cases h
    simp

/-- The text of a limit and an offset stands behind the other texts, or nothing does. -/
theorem spaced_concat_paging {texts : List (Option String)} (h : texts.reduceOption ≠ [])
    (n m : Nat) (paging : Fragment)
    (hpaging : paging.sql = if 0 < (n : Int) then
      "LIMIT " ++ toString (n : Int) ++ (if 0 < (m : Int) then " OFFSET " ++ toString (m : Int)
        else "") else "") :
    spaced (texts ++ [paging.sql?]) = spaced texts ++ Clause.pagingEnd n m := by
  have hdigits : ∀ k : Nat, toString (k : Int) = toString k := fun k => rfl
  have hpositive : ∀ k : Nat, 0 < (k : Int) ↔ k ≠ 0 := fun k => by omega
  simp only [hdigits, hpositive] at hpaging
  unfold Clause.pagingEnd
  by_cases hn : n = 0
  · have habsent : paging.sql? = none := if_pos (hpaging.trans (if_neg (not_not.2 hn)))
    rw [habsent, if_pos hn, String.append_empty]
    unfold spaced
    rw [List.reduceOption_append, List.reduceOption_singleton, Option.toList_none,
      List.append_nil]
  · rw [if_pos hn] at hpaging
    have hpresent : paging.sql ≠ "" := by rw [hpaging]; simp
    have hkeyword : spaced texts ++ " " ++ "LIMIT " = spaced texts ++ " LIMIT " :=
      String.append_assoc
    rw [Fragment.sql?_of_ne_empty hpresent, spaced_concat _ h, hpaging, if_neg hn]
    by_cases hm : m = 0
    · simp [hm, hkeyword, ← String.append_assoc]
    · simp [hm, hkeyword, ← String.append_assoc]

/-- A selection of a draft whose limit and offset are natural numbers ends in them. -/
theorem endsInPaging_of_ofDraft {d : Draft} {statement : Statement} {n m : Nat}
    (h : ofDraft d = .ok statement) (haction : statement.action = .select)
    (hlimit : d.limit = .int n) (hoffset : d.offset = .int m) :
    statement.EndsInPaging d n m := by
  obtain ⟨fragments, hfragments, hsql, -⟩ := exists_clauses_of_ofDraft h
  rw [haction] at hfragments
  obtain ⟨columns, hcolumns, hfragments⟩ := Result.bind_eq_ok_iff.1 hfragments
  obtain ⟨paging, hpaging, hfragments⟩ := Result.bind_eq_ok_iff.1 hfragments
  cases hfragments
  rw [Clause.paging_of_int hlimit hoffset] at hpaging
  cases hpaging
  have hpresent := Fragment.sql?_of_ne_empty (sql_columns_ne_empty hcolumns)
  refine ⟨columns, hcolumns, ?_⟩
  rw [hsql, ← spaced_concat_paging _ n m ⟨_, []⟩ rfl]
  · rfl
  · rw [List.append_assoc, List.singleton_append, List.map_cons, hpresent,
      List.reduceOption_cons_of_some]
    exact List.cons_ne_nil _ _

end Statement

namespace Builder

variable {table tableAlias options : Value} {sink : Option Sink} {b : Builder}

/-- The limit that stands after a run is the last one that was accepted itself, and the offset is
the last one that was set. -/
theorem paging_after (hb : Builder.create table tableAlias options sink = .ok b)
    (run : List Call) :
    (b.after run).draft.limit =
        .int (Call.lastSet Call.resetsPaging Call.limitSet? 0 run : Nat) ∧
      (b.after run).draft.offset =
        .int (Call.lastSet Call.resetsPaging Call.offsetSet? 0 run : Nat) := by
  have hstart := draft_of_create hb
  constructor
  · exact eq_lastSet_after Draft.limit (fun n : Nat => .int n)
      (congrArg Draft.limit hstart) (fun d c => (Draft.paging_call b.options d c).1) run
  · exact eq_lastSet_after Draft.offset (fun n : Nat => .int n)
      (congrArg Draft.offset hstart) (fun d c => (Draft.paging_call b.options d c).2) run

/-- A run without the calls that set the limit or the offset and that were refused in it. -/
def withoutRefusedPaging (b : Builder) (run : List Call) : List Call :=
  ((b.outcomes run).filter fun o => !(o.1.setsPaging && o.2.isSome)).map Prod.fst

/-- Which of the calls that set paging are refused can be told from what they are given. -/
theorem withoutRefusedPaging_eq_filter (b : Builder) (run : List Call) :
    b.withoutRefusedPaging run = run.filter fun c => !c.isRefusedPaging := by
  induction run generalizing b with
  | nil => rfl
  | cons c rest ih =>
    have hrest := ih (b.call c).1
    have hrefused : (c.setsPaging && (b.call c).2.isSome) = c.isRefusedPaging := by
      cases hc : c.setsPaging with
      | true => exact Draft.isSome_refusal?_call b.options b.draft hc
      | false => cases c <;> first | rfl | cases hc
    unfold withoutRefusedPaging at hrest ⊢
    rw [outcomes, List.filter_cons, List.filter_cons, hrefused, ← hrest]
    split <;> rfl

/-- Without the refused calls the offset is the same, and the limit is the last one of a call that
was accepted as a whole. -/
theorem paging_after_withoutRefusedPaging
    (hb : Builder.create table tableAlias options sink = .ok b) (run : List Call) :
    (b.after (b.withoutRefusedPaging run)).draft.limit =
        .int (Call.lastSet Call.resetsPaging Call.acceptedLimit? 0 run : Nat) ∧
      (b.after (b.withoutRefusedPaging run)).draft.offset = (b.after run).draft.offset := by
  have hkeep : ∀ c : Call, c.resetsPaging = true → (!c.isRefusedPaging) = true := by
    intro c hc
    cases c with
    | clear clause => rfl
    | clearAll => rfl
    | _ => cases hc
  have haccepted : (fun c : Call => if !c.isRefusedPaging then c.limitSet? else none) =
      Call.acceptedLimit? := funext fun c => c.acceptedLimit?_eq.symm
  have hoffset : (fun c : Call => if !c.isRefusedPaging then c.offsetSet? else none) =
      Call.offsetSet? := by
    funext c
    cases hc : c.isRefusedPaging with
    | true => exact (Call.offsetSet?_of_isRefusedPaging hc).symm
    | false => rfl
  obtain ⟨hlimit, hskipped⟩ := paging_after hb (b.withoutRefusedPaging run)
  rw [withoutRefusedPaging_eq_filter, Call.lastSet_filter hkeep] at hlimit hskipped
  rw [withoutRefusedPaging_eq_filter, hlimit, hskipped, haccepted, hoffset, (paging_after hb run).2]
  exact ⟨rfl, rfl⟩

/-- The limit and the offset are natural numbers after every run, and every selection that is
given then ends in them. The offset is the one that the run without its refused calls leaves. The
limit is the last one that was accepted itself, while the run without its refused calls leaves the
last one that an accepted call set. They are the same when no call of the run was given an
accepted limit with a refused offset. -/
theorem paging_stands (hb : Builder.create table tableAlias options sink = .ok b)
    (run : List Call) :
    ∃ limit offset : Nat,
      (b.after run).draft.limit = .int limit ∧ (b.after run).draft.offset = .int offset ∧
      (∀ statement, (b.after run).Gives statement → statement.action = .select →
        statement.EndsInPaging (b.after run).draft limit offset) ∧
      (b.after (b.withoutRefusedPaging run)).draft.offset = .int offset ∧
      limit = Call.lastSet Call.resetsPaging Call.limitSet? 0 run ∧
      (b.after (b.withoutRefusedPaging run)).draft.limit =
        .int (Call.lastSet Call.resetsPaging Call.acceptedLimit? 0 run : Nat) ∧
      ((∀ c ∈ run, c.isHalfRefused = false) →
        (b.after (b.withoutRefusedPaging run)).draft.limit = .int limit) := by
  obtain ⟨hlimit, hoffset⟩ := paging_after hb run
  obtain ⟨haccepted, hsame⟩ := paging_after_withoutRefusedPaging hb run
  refine ⟨_, _, hlimit, hoffset, ?_, hsame.trans hoffset, rfl, haccepted, ?_⟩
  · intro statement hgives haction
    exact Statement.endsInPaging_of_ofDraft (gives_iff.1 hgives) haction hlimit hoffset
  · intro hwhole
    rw [haccepted, Call.lastSet_congr fun c hc =>
      Call.limitSet?_of_not_isHalfRefused (hwhole c hc)]

/-- A run of which the last limit is refused for its offset, between calls that are accepted and
calls that are refused for their limit. -/
def halfRefusedRun : List Call :=
  [.limit (.int 5) (.int 2), .limit (.int (-3)) (.int 7), .limit (.int 10) (.int (-1)),
    .offset (.bool true)]

/-- After the run a selection ends in the limit of the refused call and the offset of the accepted
one. -/
theorem paging_stands_halfRefusedRun :
    Builder.create (.text "users") (.text "") .null none = .ok (ofTable "users") ∧
      ∃ limit offset : Nat,
        ((ofTable "users").after halfRefusedRun).draft.limit = .int limit ∧
        ((ofTable "users").after halfRefusedRun).draft.offset = .int offset ∧
        (∀ statement, ((ofTable "users").after halfRefusedRun).Gives statement →
          statement.action = .select →
          statement.EndsInPaging ((ofTable "users").after halfRefusedRun).draft limit offset) ∧
        ((ofTable "users").after
            ((ofTable "users").withoutRefusedPaging halfRefusedRun)).draft.offset = .int offset ∧
        limit = Call.lastSet Call.resetsPaging Call.limitSet? 0 halfRefusedRun ∧
        ((ofTable "users").after
            ((ofTable "users").withoutRefusedPaging halfRefusedRun)).draft.limit =
          .int (Call.lastSet Call.resetsPaging Call.acceptedLimit? 0 halfRefusedRun : Nat) ∧
        ((∀ c ∈ halfRefusedRun, c.isHalfRefused = false) →
          ((ofTable "users").after
            ((ofTable "users").withoutRefusedPaging halfRefusedRun)).draft.limit = .int limit) :=
  ⟨create_text "users", paging_stands (create_text "users") halfRefusedRun⟩

/-- A limit that is given with a refused offset stands although the call is refused. -/
theorem limit_stands_of_refused_offset :
    (ofTable "users").accepts (.limit (.int 10) (.int (-1))) = false ∧
      ((ofTable "users").after [.limit (.int 10) (.int (-1))]).draft.limit = .int 10 ∧
      ((ofTable "users").after
        ((ofTable "users").withoutRefusedPaging [.limit (.int 10) (.int (-1))])).draft.limit =
          .int 0 :=
  ⟨rfl, rfl, rfl⟩

end Builder

end BoundSql
