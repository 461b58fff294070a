import BoundSql.Proofs.IdentifierGrammar
import BoundSql.Proofs.Standing
import Mathlib.Data.List.Forall2

/-!
# Checked names of tables

While table names are checked, no run of calls brings a name into a draft that is not an
identifier, whatever is handed to the calls and however many of them are refused. So every
place of a statement where a table or an alias is named shows an identifier. The alias that
a join takes from the first letter of its table passes the check whenever the table does.
-/

namespace BoundSql

/-- An identifier, or an empty text for none. -/
def Value.IsAlias (v : Value) : Prop :=
  v = .text "" ∨ v.IsIdentifier

/-- A join whose table is an identifier and whose alias is one if it has any. -/
structure Join.Named (j : Join) : Prop where
  /-- The table is an identifier. -/
  table : j.table.IsIdentifier
  /-- The alias is an identifier or empty. -/
  tableAlias : j.tableAlias.IsAlias

/-- A draft all of whose tables are identifiers, and all of whose aliases that are not
empty. -/
structure Draft.Named (d : Draft) : Prop where
  /-- The table is an identifier. -/
  table : d.table.IsIdentifier
  /-- The alias of the table is an identifier or empty. -/
  tableAlias : d.tableAlias.IsAlias
  /-- The tables and the aliases of the joins are identifiers in the same way. -/
  joins : ∀ j ∈ d.joins, j.Named

namespace Draft

variable {options : Options}

/-- A checked name of a table is accepted when it is an identifier, and kept as it is. -/
theorem tableName_eq_ok_iff (hstrict : options.validateTableNames = true) {given name : Value} :
    tableName options given = .ok name ↔ given.IsIdentifier ∧ name = given := by
  unfold tableName
  rw [if_pos hstrict, Result.map_eq_ok_iff]
  constructor
  · rintro ⟨s, hchecked, rfl⟩
    obtain ⟨rfl, hs⟩ := checkedIdentifier_eq_ok_iff.1 hchecked
    exact ⟨(Value.isIdentifier_iff _).1 hs, rfl⟩
  · rintro ⟨hgiven, rfl⟩
    obtain ⟨s, rfl, hs⟩ := hgiven
    have hchecked := (Value.isIdentifier_iff _).2 ⟨s, rfl, hs⟩
    exact ⟨s, checkedIdentifier_eq_ok_iff.2 ⟨rfl, hchecked⟩, rfl⟩

/-- A checked alias is accepted when it is an identifier, or empty and then none. -/
theorem aliasName_eq_ok_iff (hstrict : options.validateTableNames = true) {given name : Value} :
    aliasName options given = .ok name ↔
      if given.isFull then given.IsIdentifier ∧ name = given else name = .text "" := by
  unfold aliasName
  split
  · exact tableName_eq_ok_iff hstrict
  · rw [Except.ok.injEq, eq_comm]

/-- An alias that is accepted is an identifier or empty. -/
theorem isAlias_of_aliasName (hstrict : options.validateTableNames = true) {given name : Value}
    (h : aliasName options given = .ok name) : name.IsAlias := by
  rw [aliasName_eq_ok_iff hstrict] at h
  split at h
  · obtain ⟨hgiven, rfl⟩ := h
    exact Or.inr hgiven
  · exact Or.inl h

/-- The table and the alias of a join that is accepted have passed the check. -/
theorem named_of_joinOf (hstrict : options.validateTableNames = true)
    {table condition given kind : Value} {j : Join}
    (h : joinOf options table condition given kind = .ok j) : j.Named := by
  unfold joinOf at h
  obtain ⟨matching, -, h⟩ := Result.bind_eq_ok_iff.1 h
  obtain ⟨asked, -, h⟩ := Result.bind_eq_ok_iff.1 h
  obtain ⟨name, hname, h⟩ := Result.bind_eq_ok_iff.1 h
  obtain ⟨short, hshort, h⟩ := Result.bind_eq_ok_iff.1 h
  cases h
  obtain ⟨htable, rfl⟩ := (tableName_eq_ok_iff hstrict).1 hname
  exact ⟨htable, isAlias_of_aliasName hstrict hshort⟩

/-- The alias that a join on a table takes when none is given. -/
def impliedAlias (options : Options) (table : String) : String :=
  if options.implicitJoinAlias then String.ofList (table.toList.take 1) else ""

/-- The alias that a join takes from an identifier passes the check by itself. -/
theorem aliasName_impliedAlias (hstrict : options.validateTableNames = true) {name : String}
    (hname : Identifier.IsIdentifier name.toList) :
    aliasName options (.text (impliedAlias options name)) =
      .ok (.text (impliedAlias options name)) := by
  unfold impliedAlias
  split
  · have hfirst : (Value.text (String.ofList (name.toList.take 1))).IsIdentifier :=
      ⟨_, rfl, Or.inl (by simpa using hname.take_one)⟩
    rw [aliasName_eq_ok_iff hstrict, if_pos hfirst.isFull]
    exact ⟨hfirst, rfl⟩
  · rfl

/-- A join without an alias on a checked table is refused for its kind alone. -/
theorem joinOf_of_not_isFull (hstrict : options.validateTableNames = true) {name : String}
    (hname : Identifier.IsIdentifier name.toList) (condition : Value) {given : Value}
    (hgiven : given.isFull = false) (kind : Value) :
    joinOf options (.text name) condition given kind =
      (joinKind kind).map fun kind =>
        ⟨kind, .text name, .text (impliedAlias options name), condition⟩ := by
  have htable : tableName options (.text name) = .ok (.text name) :=
    (tableName_eq_ok_iff hstrict).2 ⟨⟨name, rfl, hname⟩, rfl⟩
  have hshort : (joinAlias options (.text name) given >>= fun given => aliasName options given) =
      .ok (.text (impliedAlias options name)) := by
    cases himplicit : options.implicitJoinAlias with
    | true =>
      have hasked : joinAlias options (.text name) given =
          .ok (.text (impliedAlias options name)) := by
        simp [joinAlias, hgiven, himplicit, impliedAlias, Value.firstLetter, Except.mapError]
      rw [hasked]
      exact aliasName_impliedAlias hstrict hname
    | false =>
      have hasked : joinAlias options (.text name) given = .ok given := by
        simp [joinAlias, himplicit]
      rw [hasked]
      simp [bind, Except.bind, aliasName, hgiven, impliedAlias, himplicit]
  obtain ⟨asked, hasked, hshort⟩ := Result.bind_eq_ok_iff.1 hshort
  unfold joinOf
  rw [hasked, htable]
  cases joinKind kind with
  | error refusal => rfl
  | ok kind =>
    change (aliasName options asked >>= _) = _
    rw [hshort]
    rfl

/-- The join that a call adds has passed the check. -/
theorem named_of_join? (hstrict : options.validateTableNames = true) {c : Call} {j : Join}
    (h : c.join? options = some j) : j.Named := by
  cases c with
  | join table condition given kind =>
    simp only [Call.join?] at h
    cases hjoin : joinOf options table condition given kind with
    | error refusal =>
      rw [hjoin] at h
      cases h
    | ok added =>
      rw [hjoin] at h
      cases h
      exact named_of_joinOf hstrict hjoin
  | _ => cases h

/-- The alias that a call leaves has passed the check when the one before it has. -/
theorem isAlias_tableAlias_call (hstrict : options.validateTableNames = true) {d : Draft}
    (h : d.tableAlias.IsAlias) (c : Call) : (d.call options c).draft.tableAlias.IsAlias := by
  by_cases hpart : c.part? = some .tableAlias
  · cases c with
    | tableAlias given =>
      simp only [Draft.call]
      cases hshort : aliasName options given with
      | error refusal => exact h
      | ok short => exact isAlias_of_aliasName hstrict hshort
    | clear clause => cases clause <;> cases hpart
    | _ => cases hpart
  · rw [tableAlias_call options d hpart]
    exact h

/-- A call that is made while names are checked brings no other names into a draft. -/
theorem Named.call (hstrict : options.validateTableNames = true) {d : Draft} (h : d.Named)
    (c : Call) : (d.call options c).draft.Named := by
  constructor
  · rw [table_call]
    exact h.table
  · exact isAlias_tableAlias_call hstrict h.tableAlias c
  · intro j hj
    rw [joins_call] at hj
    split at hj
    · cases hj
    · rcases List.mem_append.1 hj with hj | hj
      · exact h.joins j hj
      · exact named_of_join? hstrict (Option.mem_toList.1 hj)

/-- A run of calls that is made while names are checked brings no other names into a draft. -/
theorem Named.calls (hstrict : options.validateTableNames = true) {d : Draft} (h : d.Named)
    (run : List Call) : (d.calls options run).Named := by
  induction run generalizing d with
  | nil => exact h
  | cons c rest ih => exact ih (h.call hstrict c)

end Draft

namespace Clause

/-- How a checked table is named in a statement: by its identifier, behind which the
identifier of its alias stands unless it has none. -/
inductive Reference (table tableAlias : Value) : String → Prop where
  /-- The table has no alias. -/
  | plain {name : String} (hname : table.Names name) (hshort : tableAlias = .text "") :
    Reference table tableAlias name
  /-- The table has an alias. -/
  | aliased {name short : String} (hname : table.Names name) (hshort : tableAlias.Names short) :
    Reference table tableAlias (name ++ " AS " ++ short)

/-- How a checked join stands in a statement. -/
def JoinReference (j : Join) (text : String) : Prop :=
  ∃ reference, Reference j.table j.tableAlias reference ∧
    text = j.kind.keyword ++ " JOIN " ++ reference ++ " ON " ++ j.condition.shown

/-- The clause of joins of the given texts, absent without any. -/
def joined? (texts : List String) : Option String :=
  if texts.isEmpty then none else some (" ".intercalate texts)

/-- A checked table with a checked alias is named by them. -/
theorem reference_aliased {table tableAlias : Value} (htable : table.IsIdentifier)
    (halias : tableAlias.IsAlias) : Reference table tableAlias (aliased table tableAlias) := by
  obtain ⟨name, hname⟩ := htable
  unfold aliased
  rw [hname.1, Value.shown_text]
  rcases halias with halias | halias
  · rw [halias]
    exact .plain ⟨rfl, hname.2⟩ rfl
  · have hfull := halias.isFull
    obtain ⟨short, hshort⟩ := halias
    rw [if_pos hfull, hshort.1, Value.shown_text]
    exact .aliased ⟨rfl, hname.2⟩ ⟨rfl, hshort.2⟩

/-- A checked join is shown by its identifiers. -/
theorem joinReference_join {j : Join} (h : j.Named) : JoinReference j (join j) :=
  ⟨_, reference_aliased h.table h.tableAlias, rfl⟩

/-- The joins of a draft are the clause of their texts. -/
theorem sql?_joins_eq_joined? (d : Draft) : (joins d).sql? = joined? (d.joins.map join) := by
  rw [sql?_joins]
  unfold joins? joined?
  rw [List.isEmpty_map]

/-- A row is written to the table that a draft is about. -/
theorem sql?_target {keyword : String} {d : Draft} {name : String} (hname : d.table.Names name) :
    (target keyword d).sql? = some (keyword ++ name ++ " SET") := by
  rw [Fragment.sql?_of_ne_empty (by simp [target])]
  unfold target
  rw [hname.1, Value.shown_text]

end Clause

namespace Statement

/-- A statement names tables and aliases by identifiers: its text is that of the clauses of
the draft in the order of the grammar, where the table is written as an identifier, with its
alias wherever rows are taken from it, and each join with the identifiers of its own. -/
def NamesTables (statement : Statement) (d : Draft) : Prop :=
  ∃ name source joins, d.table.Names name ∧ Clause.Reference d.table d.tableAlias source ∧
    List.Forall₂ Clause.JoinReference d.joins joins ∧
    match statement.action with
    | .select => ∃ columns paging,
        Clause.columns d.columns = .ok columns ∧ Clause.paging d = .ok paging ∧
        statement.sql = spaced [columns.sql?, some ("FROM " ++ source), Clause.joined? joins,
          (Clause.filters d).sql?, (Clause.keyed "GROUP BY " d.groupBy).sql?,
          (Clause.keyed "ORDER BY " d.orderBy).sql?, paging.sql?]
    | .count => statement.sql =
        spaced [(Clause.count d).sql?, some ("FROM " ++ source), Clause.joined? joins,
          (Clause.filters d).sql?, (Clause.keyed "GROUP BY " d.groupBy).sql?]
    | .insert => statement.sql =
        spaced [some ("INSERT INTO " ++ name ++ " SET"), (Clause.assignments d.data).sql?,
          (Clause.onDuplicate d).sql?]
    | .update => statement.sql =
        spaced [some ("UPDATE " ++ name ++ " SET"), (Clause.assignments d.data).sql?,
          (Clause.filters d).sql?]
    | .delete => statement.sql =
        spaced [some ("DELETE FROM " ++ source), (Clause.filters d).sql?]

/-- The statement of a draft with checked names shows these names. -/
theorem namesTables_of_ofDraft {d : Draft} {statement : Statement} (hd : d.Named)
    (h : ofDraft d = .ok statement) : statement.NamesTables d := by
  obtain ⟨name, hname⟩ := hd.table
  obtain ⟨fragments, hfragments, hsql, -⟩ := exists_clauses_of_ofDraft h
  have hjoins : List.Forall₂ Clause.JoinReference d.joins (d.joins.map Clause.join) := by
    rw [List.forall₂_map_right_iff]
    exact List.forall₂_same.2 fun j hj => Clause.joinReference_join (hd.joins j hj)
  refine ⟨name, Clause.aliased d.table d.tableAlias, d.joins.map Clause.join, hname,
    Clause.reference_aliased hd.table hd.tableAlias, hjoins, ?_⟩
  have hclause := Clause.sql?_joins_eq_joined? d
  have hsource := Clause.sql?_source "FROM " (by decide) d
  cases haction : statement.action with
  | select =>
    rw [haction] at hfragments
    obtain ⟨columns, hcolumns, hfragments⟩ := Result.bind_eq_ok_iff.1 hfragments
    obtain ⟨paging, hpaging, hfragments⟩ := Result.bind_eq_ok_iff.1 hfragments
    cases hfragments
    refine ⟨columns, paging, hcolumns, hpaging, ?_⟩
    rw [hsql, ← hclause, ← hsource]
    rfl
  | count =>
    rw [haction] at hfragments
    cases hfragments
    dsimp only
    rw [hsql, ← hclause, ← hsource]
    rfl
  | insert =>
    rw [haction] at hfragments
    obtain ⟨-, rfl⟩ := clauses_insert_eq_ok_iff.1 hfragments
    dsimp only
    rw [hsql, ← Clause.sql?_target hname]
    rfl
  | update =>
    rw [haction] at hfragments
    obtain ⟨-, rfl⟩ := clauses_update_eq_ok_iff.1 hfragments
    dsimp only
    rw [hsql, ← Clause.sql?_target hname]
    rfl
  | delete =>
    rw [haction] at hfragments
    cases hfragments
    have hsource := Clause.sql?_source "DELETE FROM " (by decide) d
    dsimp only
    rw [hsql, ← hsource]
    rfl

end Statement

namespace Builder

/-- With checked names, a builder is created exactly for an identifier with an alias that is
an identifier or empty, and it starts from an empty draft with these names. -/
theorem create_eq_ok_iff {options : Options} (hstrict : options.validateTableNames = true)
    {table tableAlias : Value} {sink : Option Sink} {b : Builder} :
    Builder.create table tableAlias (.options options) sink = .ok b ↔
      table.IsIdentifier ∧ ∃ short, Draft.aliasName options tableAlias = .ok short ∧
        b = ⟨options, sink, { table, tableAlias := short }⟩ := by
  unfold create
  constructor
  · intro h
    obtain ⟨switches, hswitches, h⟩ := Result.bind_eq_ok_iff.1 h
    cases hswitches
    obtain ⟨name, hname, h⟩ := Result.bind_eq_ok_iff.1 h
    obtain ⟨short, hshort, h⟩ := Result.bind_eq_ok_iff.1 h
    cases h
    obtain ⟨htable, rfl⟩ := (Draft.tableName_eq_ok_iff hstrict).1 hname
    exact ⟨htable, short, hshort, rfl⟩
  · rintro ⟨htable, short, hshort, rfl⟩
    have hname := (Draft.tableName_eq_ok_iff hstrict).2 ⟨htable, rfl⟩
    refine Result.bind_eq_ok_iff.2 ⟨options, rfl, Result.bind_eq_ok_iff.2 ⟨table, hname, ?_⟩⟩
    exact Result.bind_eq_ok_iff.2 ⟨short, hshort, rfl⟩

/-- With checked names, no builder comes from a table or an alias that is not an identifier,
apart from an empty alias. -/
theorem exists_create_iff {options : Options} (hstrict : options.validateTableNames = true)
    (table tableAlias : Value) (sink : Option Sink) :
    (∃ b, Builder.create table tableAlias (.options options) sink = .ok b) ↔
      table.IsIdentifier ∧ (tableAlias.isFull = true → tableAlias.IsIdentifier) := by
  simp only [create_eq_ok_iff hstrict, Draft.aliasName_eq_ok_iff hstrict]
  constructor
  · rintro ⟨b, htable, short, hshort, -⟩
    refine ⟨htable, fun hfull => ?_⟩
    rw [if_pos hfull] at hshort
    exact hshort.1
  · rintro ⟨htable, halias⟩
    by_cases hfull : tableAlias.isFull = true
    · exact ⟨_, htable, tableAlias, by rw [if_pos hfull]; exact ⟨halias hfull, rfl⟩, rfl⟩
    · exact ⟨_, htable, .text "", by rw [if_neg hfull], rfl⟩

/-- A builder with checked names stays one through a run of calls. -/
theorem named_after {options : Options} (hstrict : options.validateTableNames = true)
    {table tableAlias : Value} {sink : Option Sink} {b : Builder}
    (hb : Builder.create table tableAlias (.options options) sink = .ok b) (run : List Call) :
    (b.after run).draft.Named := by
  obtain ⟨htable, short, hshort, rfl⟩ := (create_eq_ok_iff hstrict).1 hb
  have hstart : Draft.Named { table, tableAlias := short } :=
    ⟨htable, Draft.isAlias_of_aliasName hstrict hshort, fun j hj => absurd hj List.not_mem_nil⟩
  rw [after_eq_calls]
  exact hstart.calls hstrict run

/-- While table names are checked, a builder is created exactly for an identifier with an
alias that is an identifier or empty. Through every run of calls, whatever their arguments
and however many are refused, its table is an identifier, and so are its alias, the tables
of its joins and their aliases, unless these aliases are empty; every statement it gives
names tables and aliases by these identifiers. A join without an alias on an identifier is
refused for its kind or not at all, so never for the alias that is taken from the table. -/
theorem names_only_identifiers {options : Options} (hstrict : options.validateTableNames = true)
    (table tableAlias : Value) (sink : Option Sink) :
    ((∃ b, Builder.create table tableAlias (.options options) sink = .ok b) ↔
        table.IsIdentifier ∧ (tableAlias.isFull = true → tableAlias.IsIdentifier)) ∧
      ∀ b, Builder.create table tableAlias (.options options) sink = .ok b → ∀ run,
        (b.after run).draft.Named ∧
        (∀ statement, (b.after run).Gives statement →
          statement.NamesTables (b.after run).draft) ∧
        ∀ joined condition given kind, joined.IsIdentifier → given.isFull = false →
          ∀ refusal, ((b.after run).call (.join joined condition given kind)).2 = some refusal ↔
            Draft.joinKind kind = .error refusal := by
  refine ⟨exists_create_iff hstrict table tableAlias sink, fun b hb run => ?_⟩
  have hnamed := named_after hstrict hb run
  refine ⟨hnamed, fun statement hgives => ?_, fun joined condition given kind hjoined hgiven => ?_⟩
  · exact Statement.namesTables_of_ofDraft hnamed (gives_iff.1 hgives)
  · obtain ⟨name, rfl, hname⟩ := hjoined
    obtain ⟨-, short, -, rfl⟩ := (create_eq_ok_iff hstrict).1 hb
    intro refusal
    rw [after_eq_calls]
    simp only [call, Draft.call, Draft.joinOf_of_not_isFull hstrict hname condition hgiven kind]
    cases Draft.joinKind kind with
    | error cause => simp [Except.map, Draft.settle]
    | ok kind => simp [Except.map, Draft.settle]

/-- A builder for a table with an alias that checks the names of tables. -/
def checkedBuilder : Builder :=
  ⟨{ validateTableNames := true }, none, { table := .text "users", tableAlias := .text "u" }⟩

/-- A run with a table and an alias that are refused among joins with and without aliases. -/
def checkedRun : List Call :=
  [.join (.text "posts") (.text "u.id = p.user_id") .null (.text "left"),
    .join (.text "notes; --") (.text "1 = 1") .null (.text "inner"),
    .tableAlias (.text "1u"),
    .join (.text "app.tags") (.text "u.id = t.user_id") (.text "t") (.text "inner")]

/-- The selection that the run ends in. -/
def checkedStatement : Statement where
  sql := "SELECT * FROM users AS u LEFT JOIN posts AS p ON u.id = p.user_id " ++
    "INNER JOIN app.tags AS t ON u.id = t.user_id"
  params := []
  action := .select

/-- The selection is given by a builder that checks names and shows identifiers alone; a join
on one more identifier is not refused behind it, and one of an unknown kind is. -/
theorem names_only_identifiers_checkedStatement :
    Builder.create (.text "users") (.text "u") (.options checkedBuilder.options) none =
        .ok checkedBuilder ∧
      (checkedBuilder.after checkedRun).Gives checkedStatement ∧
      (checkedBuilder.after checkedRun).draft.Named ∧
      checkedStatement.NamesTables (checkedBuilder.after checkedRun).draft ∧
      ((checkedBuilder.after checkedRun).call
        (.join (.text "logs") (.text "1 = 1") (.text "") (.text "full"))).2 = none ∧
      ((checkedBuilder.after checkedRun).call
        (.join (.text "logs") (.text "1 = 1") (.text "") (.text "cross"))).2 =
          some (.joinKind (.text "cross")) := by
  have hb : Builder.create (.text "users") (.text "u") (.options checkedBuilder.options) none =
      .ok checkedBuilder := rfl
  have hgives : (checkedBuilder.after checkedRun).Gives checkedStatement := Or.inl rfl
  have hlogs : (Value.text "logs").IsIdentifier := (Value.isIdentifier_iff _).1 rfl
  have hstrict : checkedBuilder.options.validateTableNames = true := rfl
  obtain ⟨-, hruns⟩ := names_only_identifiers hstrict (.text "users") (.text "u") none
  obtain ⟨hnamed, hnames, hjoin⟩ := hruns checkedBuilder hb checkedRun
  refine ⟨hb, hgives, hnamed, hnames _ hgives, ?_, ?_⟩
  · apply Option.eq_none_iff_forall_ne_some.2
    intro refusal hrefusal
    cases (hjoin _ _ _ _ hlogs rfl refusal).1 hrefusal
  · exact (hjoin _ _ _ _ hlogs rfl _).2 rfl

end Builder

end BoundSql
