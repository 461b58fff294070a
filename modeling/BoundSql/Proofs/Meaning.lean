import BoundSql.Proofs.Standing
import BoundSql.Proofs.Truth

/-!
# The meaning of filters

The text of the filters of a statement is read by one tree of the grammar, whatever
filters and alternatives were added in whatever order. Its truth value is that of the
filters: the conjunction of what each of them says, which is that all of its conditions
hold or, for an alternative, that one of them does.
-/

namespace BoundSql

/-- The truth value of a filter when predicates have theirs. -/
def ResolvedFilter.meaning (τ : Grammar.Assignment) (f : ResolvedFilter) : Truth :=
  Truth.connectAll f.connective (f.conditions.map fun e => τ e.1.shown e.2)

/-- A filter on columns that are identifiers, with canonical operators and no raw SQL. -/
def ResolvedFilter.Plain (f : ResolvedFilter) : Prop :=
  ∀ e ∈ f.conditions, e.1.isIdentifier = true ∧ e.2.Canonical ∧ e.2.raw? = none

/-- A call that adds no filter but on columns that are identifiers and without raw SQL. -/
def Call.Plain : Call → Prop
  | .filter _ conditions => ∀ entries, conditions = .mapping entries →
    ∀ e ∈ entries, e.1.isIdentifier = true ∧ e.2.rawOperand? = none
  | _ => True

/-- The filter that a plain call adds is plain. -/
theorem Call.Plain.filter? {c : Call} (h : c.Plain) {f : ResolvedFilter}
    (hfilter : c.filter? = some f) : f.Plain := by
  intro e he
  obtain ⟨entries, value, rfl, hmem, hcanonical, hraw⟩ := Call.exists_entry_of_filter? hfilter he
  obtain ⟨hcolumn, hvalue⟩ := h entries rfl _ hmem
  refine ⟨hcolumn, hcanonical, ?_⟩
  cases hfound : e.2.raw? with
  | none => rfl
  | some expr =>
    rw [hraw expr hfound] at hvalue
    cases hvalue

namespace Grammar

open Lexeme Condition

/-- A tree, given by its lexemes and its truth values, reads a text with values in a
meaning: its lexemes are those of the text wherever the text can end, and its truth value
is the meaning when its question marks take the values. -/
structure Reads (tree : List Lexeme) (eval : Evaluation) (text : String) (values : List Value)
    (meaning : Assignment → Truth) : Prop where
  /-- The lexemes are those of the text. -/
  lexemes_append : ∀ rest, EndsBefore .name rest →
    lexemes (text.toList ++ rest) = tree ++ lexemes rest
  /-- The truth value is the meaning. -/
  eval_append : ∀ τ rest, eval τ (values ++ rest) = some (meaning τ, rest)

/-- A name ends before a blank and before a parenthesis. -/
theorem endsBefore_cons {c : Char} (h : kind c ≠ .name) (rest : List Char) :
    EndsBefore .name (c :: rest) := by
  intro d hd
  cases hd
  exact h

/-- A keyword between blanks is read as one lexeme. -/
theorem lexemes_keyword (connective : Connective) (rest : List Char) :
    lexemes ((" " ++ connective.keyword ++ " ").toList ++ rest) =
      connective.keyword.toList :: lexemes rest := by
  cases connective <;> rfl

/-- Two trees put together read their texts with the keyword between them. -/
theorem Reads.connect {T : Type} {connective : Connective} {parsed : T → List Lexeme}
    {eval : T → Evaluation} {append : T → T → T} (h : Connects connective parsed eval append)
    {c d : T} {text behind : String} {values others : List Value}
    {meaning meaning' : Assignment → Truth}
    (hc : Reads (parsed c) (eval c) text values meaning)
    (hd : Reads (parsed d) (eval d) behind others meaning') :
    Reads (parsed (append c d)) (eval (append c d))
      (text ++ (" " ++ connective.keyword ++ " ") ++ behind) (values ++ others)
      fun τ => Truth.connect connective (meaning τ) (meaning' τ) where
  lexemes_append := by
    intro rest hrest
    have hkeyword : EndsBefore .name
        ((" " ++ connective.keyword ++ " ").toList ++ (behind.toList ++ rest)) := by
      cases connective with
      | and => exact endsBefore_cons (by decide) _
      | or => exact endsBefore_cons (by decide) _
    rw [String.toList_append, String.toList_append, List.append_assoc, List.append_assoc,
      hc.lexemes_append _ hkeyword, lexemes_keyword, hd.lexemes_append rest hrest,
      h.lexemes_append, List.append_assoc, List.cons_append]
  eval_append := by
    intro τ rest
    rw [h.eval_append, connected, List.append_assoc, hc.eval_append]
    simp only [Option.bind_eq_bind, Option.bind_some]
    rw [hd.eval_append]
    rfl

/-- A disjunction in parentheses reads its text in parentheses. -/
theorem Reads.group {d : Disjunction} {text : String} {values : List Value}
    {meaning : Assignment → Truth} (h : Reads d.lexemes d.eval text values meaning) :
    Reads (Factor.group d).lexemes (Factor.group d).eval ("(" ++ text ++ ")") values meaning where
  lexemes_append := by
    intro rest _
    have hopening : ∀ tail, lexemes ("(".toList ++ tail) = ['('] :: lexemes tail := fun tail => rfl
    have hclosing : lexemes (")".toList ++ rest) = [')'] :: lexemes rest := rfl
    have hends : EndsBefore .name (")".toList ++ rest) := endsBefore_cons (by decide) rest
    have hinner := h.lexemes_append _ hends
    rw [hclosing] at hinner
    rw [String.toList_append, String.toList_append, List.append_assoc, List.append_assoc,
      hopening, hinner, Factor.lexemes, List.cons_append, List.cons_append, List.append_assoc]
    rfl
  eval_append := h.eval_append

/-- When each part is read by some tree, so are all parts with the keyword between
neighbours. -/
theorem exists_reads_intercalate {T α : Type} {connective : Connective}
    {parsed : T → List Lexeme} {eval : T → Evaluation} {append : T → T → T}
    (h : Connects connective parsed eval append) {text : α → String} {values : α → List Value}
    {meaning : Assignment → α → Truth} (first : α) (rest : List α)
    (hparts : ∀ a ∈ first :: rest, ∃ c, Reads (parsed c) (eval c) (text a) (values a)
      fun τ => meaning τ a) :
    ∃ c, Reads (parsed c) (eval c)
      ((" " ++ connective.keyword ++ " ").intercalate ((first :: rest).map text))
      ((first :: rest).flatMap values)
      fun τ => Truth.connectAll connective ((first :: rest).map (meaning τ)) := by
  induction rest generalizing first with
  | nil =>
    obtain ⟨c, hc⟩ := hparts first List.mem_cons_self
    refine ⟨c, ?_⟩
    simp only [List.map_cons, List.map_nil, String.intercalate_singleton, List.flatMap_cons,
      List.flatMap_nil, List.append_nil, Truth.connectAll, List.foldr_cons, List.foldr_nil,
      Truth.connect_neutral]
    exact hc
  | cons second rest ih =>
    obtain ⟨c, hc⟩ := hparts first List.mem_cons_self
    obtain ⟨d, hd⟩ := ih second fun a ha => hparts a (List.mem_cons_of_mem _ ha)
    refine ⟨append c d, ?_⟩
    have hboth := hc.connect h hd
    rw [List.map_cons, List.map_cons, String.intercalate_cons_cons, List.flatMap_cons]
    exact hboth

/-- The question marks of a list are read up to its end. -/
theorem lexemes_placeholders (first : Value) (others : List Value) (rest : List Char) :
    lexemes ((Condition.placeholders (first :: others)).toList ++ ')' :: rest) =
      mark :: Shape.marks others.length ++ [')'] :: lexemes rest := by
  induction others generalizing first with
  | nil =>
    have hsingle : Condition.placeholders [first] = "?" := String.intercalate_singleton
    rw [hsingle]
    rfl
  | cons second others ih =>
    have hstart : Condition.placeholders (first :: second :: others) =
        "?, " ++ Condition.placeholders (second :: others) := by
      unfold Condition.placeholders
      rw [List.map_cons, List.map_cons, String.intercalate_cons_cons]
      rfl
    have hmark : ∀ tail, lexemes ("?, ".toList ++ tail) = mark :: [','] :: lexemes tail :=
      fun tail => rfl
    rw [hstart, String.toList_append, List.append_assoc, hmark, ih]
    rfl

/-- An operator with a question mark behind it is read to its end. -/
theorem lexemes_operator (op : Operator) (rest : List Char) :
    lexemes (op.symbol.toList ++ (" ?".toList ++ rest)) =
      lexemes op.symbol.toList ++ mark :: lexemes rest := by
  cases op <;> rfl

/-- A list of values to look among is read to its end. -/
theorem lexemes_members (first : Value) (others : List Value) (negated : Bool)
    (rest : List Char) :
    lexemes (((if negated then "NOT IN (" else "IN (") ++
        Condition.placeholders (first :: others) ++ ")").toList ++ rest) =
      (Shape.members negated others.length).lexemes ++ lexemes rest := by
  have hopening : ∀ tail, lexemes ((if negated then "NOT IN (" else "IN (").toList ++ tail) =
      lexemes (Shape.members negated others.length).operator.symbol.toList ++
        ['('] :: lexemes tail := by
    intro tail
    cases negated with
    | true =>
      change lexemes ("NOT IN (".toList ++ tail) = lexemes "NOT IN".toList ++ _
      rfl
    | false =>
      change lexemes ("IN (".toList ++ tail) = lexemes "IN".toList ++ _
      rfl
  have hclose : ")".toList ++ rest = ')' :: rest := rfl
  rw [String.toList_append, String.toList_append, List.append_assoc, List.append_assoc, hclose,
    hopening, lexemes_placeholders]
  simp [Shape.lexemes, Shape.operand]

/-- A test for null is read to its end when its last word ends there. -/
theorem lexemes_null (negated : Bool) {rest : List Char} (hrest : EndsBefore .name rest) :
    lexemes ((if negated then "IS NOT NULL" else "IS NULL").toList ++ rest) =
      (Shape.null negated).lexemes ++ lexemes rest := by
  have hword : Identifier.isWellFormed "NULL".toList = true := by rfl
  have hnull : lexemes ("NULL".toList ++ rest) = "NULL".toList :: lexemes rest :=
    lexemes_append (by decide) (by decide) (Identifier.ne_nil hword)
      (Identifier.kind_of_mem hword) hrest
  have hopening : lexemes ((if negated then "IS NOT NULL" else "IS NULL").toList ++ rest) =
      lexemes (Shape.null negated).operator.symbol.toList ++ lexemes ("NULL".toList ++ rest) := by
    cases negated with
    | true =>
      change lexemes ("IS NOT NULL".toList ++ rest) = lexemes "IS NOT".toList ++ _
      rfl
    | false =>
      change lexemes ("IS NULL".toList ++ rest) = lexemes "IS".toList ++ _
      rfl
  rw [hopening, hnull, Shape.lexemes, List.append_assoc]
  rfl

/-- A predicate on a column that is an identifier reads the column with what stands behind
it, when its shape has the lexemes of that and takes the values. -/
theorem reads_predicate {s : String} (hs : Identifier.isWellFormed s.toList = true)
    {text behind : String} (htext : text = s ++ (" " ++ behind)) {shape : Shape}
    (hbehind : ∀ rest, EndsBefore .name rest →
      lexemes (behind.toList ++ rest) = shape.lexemes ++ lexemes rest)
    {c : Condition Value} {values : List Value}
    (hfill : ∀ rest, shape.fill (values ++ rest) = some (c, rest)) :
    Reads (Predicate.lexemes ⟨⟨s.toList, hs⟩, shape⟩) (Predicate.eval ⟨⟨s.toList, hs⟩, shape⟩)
      text values fun τ => τ s c where
  lexemes_append := by
    intro rest hrest
    have hsplit : text.toList ++ rest = s.toList ++ ' ' :: (behind.toList ++ rest) := by
      rw [htext, String.toList_append, String.toList_append, List.append_assoc,
        List.append_assoc]
      rfl
    rw [hsplit, Identifier.lexemes_append_blank hs, hbehind rest hrest]
    rfl
  eval_append := by
    intro τ rest
    unfold Predicate.eval
    rw [hfill, Option.map_some, String.ofList_toList]

/-- A condition without raw SQL on a column that is an identifier is read by a predicate. -/
theorem exists_predicate_reads {column : Value} (hcolumn : column.isIdentifier = true)
    {c : Condition Value} (hc : c.Canonical) (hraw : c.raw? = none) :
    ∃ p : Predicate, Reads p.lexemes p.eval (c.render column.shown).sql
      (c.render column.shown).params fun τ => τ column.shown c := by
  cases column with
  | text s =>
    cases c with
    | compare op value =>
      obtain ⟨o, rfl, hvalue⟩ := hc
      have htext : (render s (.compare o.symbol value)).sql =
          s ++ (" " ++ (o.symbol ++ " ?")) := by
        simp only [render, written_symbol, String.append_assoc]
      have hbehind : ∀ rest, EndsBefore .name rest →
          lexemes ((o.symbol ++ " ?").toList ++ rest) =
            (Shape.compare o hvalue).lexemes ++ lexemes rest := by
        intro rest _
        rw [String.toList_append, List.append_assoc, lexemes_operator]
        simp [Shape.lexemes, Shape.operator, Shape.operand]
      exact ⟨_, reads_predicate hcolumn htext hbehind fun _ => rfl⟩
    | rawCompare op expr => cases hraw
    | between low high =>
      have htext : (render s (.between low high)).sql = s ++ (" " ++ "BETWEEN ? AND ?") := rfl
      have hbehind : ∀ rest, EndsBefore .name rest →
          lexemes ("BETWEEN ? AND ?".toList ++ rest) = Shape.between.lexemes ++ lexemes rest :=
        fun _ _ => rfl
      exact ⟨_, reads_predicate hcolumn htext hbehind fun _ => rfl⟩
    | inSet first others negated =>
      have htext : (render s (.inSet first others negated)).sql =
          s ++ (" " ++ ((if negated then "NOT IN (" else "IN (") ++
            placeholders (first :: others) ++ ")")) := by
        cases negated <;> simp only [render, String.append_assoc] <;> rfl
      have hfill : ∀ rest, (Shape.members negated others.length).fill (first :: others ++ rest) =
          some (.inSet first others negated, rest) := by
        intro rest
        simp [Shape.fill]
      exact ⟨_, reads_predicate hcolumn htext
        (fun rest _ => lexemes_members first others negated rest) hfill⟩
    | isNull negated =>
      have htext : (render s (.isNull negated)).sql =
          s ++ (" " ++ if negated then "IS NOT NULL" else "IS NULL") := by
        cases negated <;> rfl
      exact ⟨_, reads_predicate hcolumn htext (fun _ hrest => lexemes_null negated hrest)
        fun _ => rfl⟩
  | _ => cases hcolumn

/-- A plain filter is read by a conjunction in its meaning. -/
theorem exists_conjunction_reads {f : ResolvedFilter} (h : f.Plain) :
    ∃ c : Conjunction, Reads c.lexemes c.eval f.text f.params f.meaning := by
  have hpredicates : ∀ e ∈ f.first :: f.rest, ∃ p : Predicate,
      Reads p.lexemes p.eval (e.2.render e.1.shown).sql (e.2.render e.1.shown).params
        fun τ => τ e.1.shown e.2 := by
    intro e he
    obtain ⟨hcolumn, hcanonical, hraw⟩ := h e he
    exact exists_predicate_reads hcolumn hcanonical hraw
  have hsql : f.fragment.sql = (" " ++ f.connective.keyword ++ " ").intercalate
      ((f.first :: f.rest).map fun e => (e.2.render e.1.shown).sql) := by
    unfold ResolvedFilter.fragment ResolvedFilter.parts Fragment.joined
    rw [List.map_map]
    rfl
  have hparams : f.params =
      (f.first :: f.rest).flatMap fun e => (e.2.render e.1.shown).params := by
    unfold ResolvedFilter.params ResolvedFilter.fragment ResolvedFilter.parts Fragment.joined
      Fragment.allParams
    rw [List.flatMap_map]
    rfl
  unfold ResolvedFilter.text ResolvedFilter.meaning ResolvedFilter.conditions
  rw [hsql, hparams]
  cases f.connective with
  | and =>
    apply exists_reads_intercalate Conjunction.connects
    intro e he
    obtain ⟨p, hp⟩ := hpredicates e he
    exact ⟨.last (.predicate p), hp⟩
  | or =>
    have hparts : ∀ e ∈ f.first :: f.rest, ∃ d : Disjunction,
        Reads d.lexemes d.eval (e.2.render e.1.shown).sql (e.2.render e.1.shown).params
          fun τ => τ e.1.shown e.2 := by
      intro e he
      obtain ⟨p, hp⟩ := hpredicates e he
      exact ⟨.last (.last (.predicate p)), hp⟩
    obtain ⟨d, hd⟩ := exists_reads_intercalate Disjunction.connects f.first f.rest hparts
    exact ⟨.last (.group d), hd.group⟩

end Grammar

namespace Builder

/-- The filters that stand after a run of plain calls are plain. -/
theorem plain_of_mem_standingFilters {b : Builder} {run : List Call}
    (hrun : ∀ c ∈ run, c.Plain) {f : ResolvedFilter} (hf : f ∈ b.standingFilters run) :
    f.Plain := by
  obtain ⟨c, hc, hfilter⟩ := exists_call_of_mem_standingFilters hf
  exact (hrun c hc).filter? hfilter

/-- A statement shows the filters that stand after a run of plain calls, and when there is
one, exactly one tree of the grammar has the lexemes of what stands behind the keyword.
With the values of the filters in the place of its question marks from left to right, none
of them left over, its truth value is the conjunction of the meanings of these filters,
whichever truth values the predicates have. -/
theorem reads_standing_filters {table tableAlias options : Value} {sink : Option Sink}
    {b : Builder} (hb : Builder.create table tableAlias options sink = .ok b) {run : List Call}
    (hrun : ∀ c ∈ run, c.Plain) :
    ∃ filters, (b.filterCalls run).map Call.filter? = filters.map some ∧
      (∀ statement, (b.after run).Gives statement →
        statement.Shows (b.after run).draft (b.after run).draft.joins filters) ∧
      (filters ≠ [] → ∃ tree : Grammar.Disjunction,
        tree.lexemes = lexemes (" AND ".intercalate (filters.map ResolvedFilter.text)).toList ∧
        (∀ other : Grammar.Disjunction,
          other.lexemes = lexemes (" AND ".intercalate (filters.map ResolvedFilter.text)).toList →
            other = tree) ∧
        ∀ τ, tree.eval τ (filters.flatMap ResolvedFilter.params) =
          some (Truth.connectAll .and (filters.map (ResolvedFilter.meaning τ)), [])) := by
  have hstart := draft_of_create hb
  have hfilters := filters_after (congrArg Draft.filters hstart)
    (congrArg Draft.filterParams hstart) run
  refine ⟨b.standingFilters run, map_filter?_filterCalls b run, ?_, ?_⟩
  · intro statement hgives
    exact Statement.shows_of_ofDraft (gives_iff.1 hgives) hfilters.1 hfilters.2
  · have hplain : ∀ f ∈ b.standingFilters run, f.Plain :=
      fun f hf => plain_of_mem_standingFilters hrun hf
    cases hstanding : b.standingFilters run with
    | nil => exact fun hne => absurd rfl hne
    | cons first rest =>
      intro _
      rw [hstanding] at hplain
      obtain ⟨c, hc⟩ := Grammar.exists_reads_intercalate Grammar.Conjunction.connects first rest
        fun f hf => Grammar.exists_conjunction_reads (hplain f hf)
      have hlexemes := hc.lexemes_append [] (fun d hd => by cases hd)
      have hend : lexemes [] = [] := rfl
      rw [List.append_nil, hend, List.append_nil] at hlexemes
      refine ⟨.last c, hlexemes.symm, ?_, ?_⟩
      · intro other hother
        exact Grammar.Disjunction.eq_of_lexemes (hother.trans hlexemes)
      · intro τ
        have heval := hc.eval_append τ []
        rwa [List.append_nil] at heval

/-- A run with a range, an alternative, an empty filter and a filter of two conditions. -/
def plainRun : List Call :=
  [.filter .and (.mapping [(.text "age", .list [.text "between", .tuple [.int 18, .int 65]])]),
    .filter .or (.mapping [(.text "u.role", .text "admin"),
      (.text "left_at", .list [.text "is not", .null])]),
    .filter .and (.mapping []),
    .filter .and (.mapping [(.text "id", .list [.text "not in", .list [.int 1, .int 2]]),
      (.text "name", .list [.text "not like", .text "x%"])])]

/-- The text of the filters of the run is read by one tree. -/
theorem reads_standing_filters_plainRun :
    ((ofTable "users").after plainRun).draft.filters =
        ["age BETWEEN ? AND ?", "(u.role = ? OR left_at IS NOT NULL)",
          "id NOT IN (?, ?) AND name NOT LIKE ?"] ∧
      ∃ filters, ((ofTable "users").filterCalls plainRun).map Call.filter? = filters.map some ∧
        (∀ statement, ((ofTable "users").after plainRun).Gives statement →
          statement.Shows ((ofTable "users").after plainRun).draft
            ((ofTable "users").after plainRun).draft.joins filters) ∧
        (filters ≠ [] → ∃ tree : Grammar.Disjunction,
          tree.lexemes = lexemes (" AND ".intercalate (filters.map ResolvedFilter.text)).toList ∧
          (∀ other : Grammar.Disjunction,
            other.lexemes = lexemes (" AND ".intercalate (filters.map ResolvedFilter.text)).toList →
              other = tree) ∧
          ∀ τ, tree.eval τ (filters.flatMap ResolvedFilter.params) =
            some (Truth.connectAll .and (filters.map (ResolvedFilter.meaning τ)), [])) := by
  have hplain : ∀ c ∈ plainRun, c.Plain := by
    intro c hc
    simp only [plainRun, List.mem_cons, List.not_mem_nil, or_false] at hc
    rcases hc with rfl | rfl | rfl | rfl
    all_goals
      intro entries hentries e he
      cases hentries
      simp only [List.mem_cons, List.not_mem_nil, or_false] at he
    · cases he
      exact ⟨by decide, rfl⟩
    · rcases he with rfl | rfl
      · exact ⟨by decide, rfl⟩
      · exact ⟨by decide, rfl⟩
    · rcases he with rfl | rfl
      · exact ⟨by decide, rfl⟩
      · exact ⟨by decide, rfl⟩
  exact ⟨rfl, reads_standing_filters (create_text "users") hplain⟩

end Builder

end BoundSql
