import BoundSql.Proofs.Layout
import BoundSql.Proofs.Parts
import BoundSql.Proofs.Replayed

/-!
# Data that stands after a run

The data of a draft is what the calls of a run have put in since it was last emptied, each of
them up to the item for which it was refused if it was. So every column is written once in an
insertion or an update, in the order in which the columns were first given and with the value
that each was given last.
-/

namespace BoundSql

namespace Call

/-- The entries that a call puts into the data of the row. -/
def rowPairs : Call → Entries
  | .insert data | .update data => Entries.brought data
  | _ => []

/-- The entries that a call puts into the data of the update of a row that exists already. -/
def duplicatePairs : Call → Entries
  | .onDuplicate data => Entries.brought data
  | _ => []

/-- Whether a call empties the data. -/
def emptiesData : Call → Bool
  | .clear .data | .clearAll => true
  | _ => false

/-- The entries that the calls of a run put in since the data was last emptied. -/
def standingPairs (pairs : Call → Entries) (run : List Call) : Entries :=
  (run.rtakeWhile fun c => !c.emptiesData).flatMap pairs

/-- A call on another part does not bring data or empty it. -/
theorem bringsNone_of_not_concerns {c : Call} (h : c.concerns .content = false) :
    c.emptiesData = false ∧ c.rowPairs = [] ∧ c.duplicatePairs = [] := by
  cases c with
  | clear clause => cases clause <;> first | exact ⟨rfl, rfl, rfl⟩ | cases h
  | _ => first | exact ⟨rfl, rfl, rfl⟩ | cases h

/-- Behind the last call of a run stand its own entries and, unless it empties the data,
those that stood in front of it. -/
theorem standingPairs_concat (pairs : Call → Entries) (run : List Call) (c : Call) :
    standingPairs pairs (run ++ [c]) =
      if c.emptiesData then [] else standingPairs pairs run ++ pairs c := by
  unfold standingPairs
  cases h : c.emptiesData <;> simp [h]

end Call

namespace Draft

/-- A call on another part leaves the data as it is. -/
theorem data_call_of_not_concerns (options : Options) (d : Draft) {c : Call}
    (h : c.concerns .content = false) :
    (d.call options c).draft.data = d.data ∧
      (d.call options c).draft.duplicateData = d.duplicateData := by
  have hcontent := only_call_of_not_concerns options d h
  have hdata : ((d.call options c).draft.only .content).data = (d.only .content).data := by
    rw [hcontent]
  have hduplicate : ((d.call options c).draft.only .content).duplicateData =
      (d.only .content).duplicateData := by
    rw [hcontent]
  exact ⟨hdata, hduplicate⟩

/-- A call empties the data of the row or puts its own entries into it. -/
theorem data_call (options : Options) (d : Draft) (c : Call) :
    (d.call options c).draft.data =
      if c.emptiesData then [] else d.data.putAll c.rowPairs := by
  cases h : c.concerns .content with
  | false =>
    obtain ⟨hkeeps, hrow, -⟩ := Call.bringsNone_of_not_concerns h
    rw [hkeeps, hrow]
    exact (data_call_of_not_concerns options d h).1
  | true =>
    cases c with
    | insert data => exact Entries.fst_merge d.data data
    | update data => exact Entries.fst_merge d.data data
    | clear clause => cases clause <;> rfl
    | _ => first | rfl | cases h

/-- A call empties the data of the update or puts its own entries into it. -/
theorem duplicateData_call (options : Options) (d : Draft) (c : Call) :
    (d.call options c).draft.duplicateData =
      if c.emptiesData then [] else d.duplicateData.putAll c.duplicatePairs := by
  cases h : c.concerns .content with
  | false =>
    obtain ⟨hkeeps, -, hduplicate⟩ := Call.bringsNone_of_not_concerns h
    rw [hkeeps, hduplicate]
    exact (data_call_of_not_concerns options d h).2
  | true =>
    cases c with
    | onDuplicate data => exact Entries.fst_merge d.duplicateData data
    | clear clause => cases clause <;> rfl
    | _ => first | rfl | cases h

end Draft

/-- Texts of which the first two are present stand with a space between neighbours. -/
theorem spaced_of_two (first second : String) (third? : Option String) :
    spaced [some first, some second, third?] =
      first ++ " " ++ second ++ third?.elim "" fun third => " " ++ third := by
  cases third? <;> simp [spaced, List.reduceOption, String.append_assoc]

namespace Statement

/-- The assignments of entries, one for each, with a comma between neighbours. -/
def assignedText (entries : Entries) : String :=
  ", ".intercalate (entries.map fun e => (Clause.assignment e).sql)

/-- The values of the assignments of entries. -/
def assignedParams (entries : Entries) : List Value :=
  entries.flatMap fun e => (Clause.assignment e).params

/-- An insertion or an update assigns the data of a draft: one assignment for each entry, in
order, with its values in its place. -/
def Assigns (statement : Statement) (d : Draft) : Prop :=
  match statement.action with
  | .insert =>
      statement.sql = "INSERT INTO " ++ d.table.shown ++ " SET " ++ assignedText d.data ++
        (if d.duplicateData.isEmpty then ""
          else " ON DUPLICATE KEY UPDATE " ++ assignedText d.duplicateData) ∧
      statement.params = assignedParams d.data ++ assignedParams d.duplicateData
  | .update =>
      statement.sql = "UPDATE " ++ d.table.shown ++ " SET " ++ assignedText d.data ++
        (if d.filters.isEmpty then "" else " WHERE " ++ " AND ".intercalate d.filters) ∧
      statement.params = assignedParams d.data ++ (Clause.filters d).params
  | _ => True

/-- The clause of assignments is their text with their values. -/
theorem assignments_eq (entries : Entries) :
    Clause.assignments entries = ⟨assignedText entries, assignedParams entries⟩ := by
  simp [Clause.assignments, Fragment.joined, Fragment.allParams, assignedText, assignedParams,
    List.flatMap_map, Function.comp_def]

/-- The text of a target, of assignments and of what may stand behind them. -/
theorem spaced_target (keyword : String) (d : Draft) (hdata : d.data.isEmpty = false)
    (third : Fragment) :
    spaced ([Clause.target keyword d, Clause.assignments d.data, third].map Fragment.sql?) =
      keyword ++ d.table.shown ++ " SET " ++ assignedText d.data ++
        third.sql?.elim "" fun text => " " ++ text := by
  have htarget : (Clause.target keyword d).sql ≠ "" := by simp [Clause.target]
  have hassigned := Clause.sql_assignments_ne_empty hdata
  have hkeyword : " SET " = " SET" ++ " " := rfl
  simp only [List.map_cons, List.map_nil]
  rw [Fragment.sql?_of_ne_empty htarget, Fragment.sql?_of_ne_empty hassigned, spaced_of_two,
    assignments_eq, hkeyword]
  simp only [Clause.target, String.append_assoc]

/-- An insertion or an update of a draft assigns its data. -/
theorem assigns_of_ofDraft {d : Draft} {statement : Statement}
    (h : ofDraft d = .ok statement) : statement.Assigns d := by
  obtain ⟨fragments, hfragments, hsql, hparams⟩ := exists_clauses_of_ofDraft h
  unfold Assigns
  cases haction : statement.action with
  | insert =>
    rw [haction] at hfragments
    obtain ⟨hdata, rfl⟩ := clauses_insert_eq_ok_iff.1 hfragments
    rw [spaced_target _ d hdata] at hsql
    have hkeyword : ∀ text, " " ++ ("ON DUPLICATE KEY UPDATE " ++ text) =
        " ON DUPLICATE KEY UPDATE " ++ text := fun _ => String.append_assoc.symm
    rw [hsql, hparams]
    unfold Clause.onDuplicate
    cases hduplicate : d.duplicateData with
    | nil => simp [Fragment.sql?, Clause.target, assignments_eq, assignedParams]
    | cons e rest => simp [Fragment.sql?, Clause.target, assignments_eq, hkeyword]
  | update =>
    rw [haction] at hfragments
    obtain ⟨hdata, rfl⟩ := clauses_update_eq_ok_iff.1 hfragments
    rw [spaced_target _ d hdata] at hsql
    have hkeyword : ∀ text, " " ++ ("WHERE " ++ text) = " WHERE " ++ text :=
      fun _ => String.append_assoc.symm
    rw [hsql, hparams]
    unfold Clause.filters
    cases hfilters : d.filters with
    | nil => simp [Fragment.sql?, Clause.target, assignments_eq]
    | cons f rest => simp [Fragment.sql?, Clause.target, assignments_eq, hkeyword]
  | _ => trivial

end Statement

namespace Builder

/-- What each call of a run puts in, unless it empties the data, stands behind the run. -/
theorem entries_after {field : Draft → Entries} {pairs : Call → Entries}
    (hcall : ∀ options d c, field (Draft.call options d c).draft =
      if c.emptiesData then [] else (field d).putAll (pairs c))
    (b : Builder) (hb : field b.draft = []) (run : List Call) :
    field (b.after run).draft = Entries.putAll [] (Call.standingPairs pairs run) := by
  induction run using List.reverseRecOn with
  | nil => exact hb
  | append_singleton run c ih =>
    have hstep := hcall (b.after run).options (b.after run).draft c
    rw [after_concat, Call.standingPairs_concat]
    change field ((b.after run).draft.call _ c).draft = _
    rw [hstep, ih]
    split
    · rfl
    · rw [Entries.putAll_append]

/-- What the calls of a run put in is replayed when all of it is under keys. -/
theorem replays_after {field : Draft → Entries} {pairs : Call → Entries}
    (hcall : ∀ options d c, field (Draft.call options d c).draft =
      if c.emptiesData then [] else (field d).putAll (pairs c))
    (b : Builder) (hb : field b.draft = []) (run : List Call)
    (hkeys : ∀ c ∈ run, ∀ e ∈ pairs c, e.1.IsKey) :
    (field (b.after run).draft).Replays (Call.standingPairs pairs run) := by
  rw [entries_after hcall b hb run]
  apply Entries.replays_putAll
  intro e he
  obtain ⟨c, hc, he⟩ := List.mem_flatMap.1 he
  exact hkeys c ((List.rtakeWhile_suffix _ _).mem hc) e he

/-- A list can be cut into pieces that are brought by consecutive calls, when each of its items
gives an entry and what a call does is to put in what it brings. -/
theorem after_pieces {bring : Value → Call} (change : Builder → Entries → Builder)
    (hbring : ∀ b data, (call b (bring data)).1 = change b (Entries.brought data))
    (hchange : ∀ b given others, change (change b given) others = change b (given ++ others))
    (b : Builder) {pieces : List (List Value)} (hne : pieces ≠ [])
    (hpieces : ∀ item ∈ pieces.flatten, (Entries.given? item).isSome = true) :
    b.after (pieces.map fun piece => bring (.list piece)) =
      b.after [bring (.list pieces.flatten)] := by
  induction pieces generalizing b with
  | nil => exact absurd rfl hne
  | cons piece rest ih =>
    cases rest with
    | nil => rw [List.flatten_singleton, List.map_singleton]
    | cons next rest =>
      have hpiece : ∀ item ∈ piece, (Entries.given? item).isSome = true := fun item h =>
        hpieces item (by simp [h])
      have hrest : ∀ item ∈ (next :: rest).flatten, (Entries.given? item).isSome = true :=
        fun item h => hpieces item (List.mem_append_right _ h)
      have hbrought : Entries.brought (.list (piece :: next :: rest).flatten) =
          Entries.brought (.list piece) ++ Entries.brought (.list (next :: rest).flatten) :=
        Entries.leading_append hpiece _
      calc
        b.after ((piece :: next :: rest).map fun piece => bring (.list piece))
          = (b.call (bring (.list piece))).1.after
              ((next :: rest).map fun piece => bring (.list piece)) := rfl
        _ = (b.call (bring (.list piece))).1.after [bring (.list (next :: rest).flatten)] :=
            ih _ (List.cons_ne_nil _ _) hrest
        _ = b.after [bring (.list (piece :: next :: rest).flatten)] := by
            change (call _ (bring _)).1 = (call b (bring _)).1
            rw [hbring, hbring, hbring, hchange, hbrought]

/-- An insertion, an update or what is done to a row that exists already can be cut into
consecutive calls of the same kind that bring the pieces of a list. -/
theorem after_cut (b : Builder) {bring : Value → Call}
    (hbring : bring ∈ [Call.insert, Call.update, Call.onDuplicate]) {pieces : List (List Value)}
    (hne : pieces ≠ []) (hpieces : ∀ item ∈ pieces.flatten, (Entries.given? item).isSome = true) :
    b.after (pieces.map fun piece => bring (.list piece)) =
      b.after [bring (.list pieces.flatten)] := by
  have hrow : ∀ action, (∀ b data, (call b (bring data)).1 =
      { b with draft := (Draft.mergeData { b.draft with action } data).draft }) →
      b.after (pieces.map fun piece => bring (.list piece)) =
        b.after [bring (.list pieces.flatten)] := by
    intro action hcall
    refine after_pieces (fun b given =>
      { b with draft := { b.draft with action, data := b.draft.data.putAll given } }) ?_ ?_ b hne
      hpieces
    · intro b data
      rw [hcall, Draft.mergeData, Entries.fst_merge]
    · intro b given others
      rw [Entries.putAll_append]
  simp only [List.mem_cons, List.not_mem_nil, or_false] at hbring
  rcases hbring with rfl | rfl | rfl
  · exact hrow (.known .insert) fun _ _ => rfl
  · exact hrow (.known .update) fun _ _ => rfl
  · refine after_pieces (fun b given => { b with draft :=
      { b.draft with duplicateData := b.draft.duplicateData.putAll given } }) ?_ ?_ b hne hpieces
    · intro b data
      change { b with draft := (b.draft.mergeDuplicateData data).draft } = _
      rw [Draft.mergeDuplicateData, Entries.fst_merge]
    · intro b given others
      rw [Entries.putAll_append]

/-- The data of the row and the data of its update are what is left of the entries that the
calls of a run brought since the data was last emptied, refused calls included: the keys are
distinct, in the order in which they were first given, each with the value that it was given
last. An insertion or an update chooses the kind of statement also when it is refused. So an
insertion or an update that is built has one assignment for each key, in order, and names no
column twice when the columns are texts. A list can be brought in pieces by consecutive calls
of the same kind. -/
theorem assigns_replayed_data {table tableAlias options : Value} {sink : Option Sink} {b : Builder}
    (hb : Builder.create table tableAlias options sink = .ok b) (run : List Call)
    (hkeys : ∀ c ∈ run, ∀ e ∈ c.rowPairs ++ c.duplicatePairs, e.1.IsKey) :
    (b.after run).draft.data.Replays (Call.standingPairs Call.rowPairs run) ∧
      (b.after run).draft.duplicateData.Replays (Call.standingPairs Call.duplicatePairs run) ∧
      (∀ data, ((b.after run).call (.insert data)).1.draft.action = .known .insert ∧
        ((b.after run).call (.update data)).1.draft.action = .known .update) ∧
      (∀ statement, (b.after run).Gives statement → statement.Assigns (b.after run).draft) ∧
      (∀ entries ∈ [(b.after run).draft.data, (b.after run).draft.duplicateData],
        (∀ e ∈ entries, ∃ name, e.1 = .text name) → (entries.map fun e => e.1.shown).Nodup) ∧
      ∀ bring ∈ [Call.insert, Call.update, Call.onDuplicate], ∀ pieces : List (List Value),
        pieces ≠ [] → (∀ item ∈ pieces.flatten, (Entries.given? item).isSome = true) →
        (b.after run).after (pieces.map fun piece => bring (.list piece)) =
          (b.after run).after [bring (.list pieces.flatten)] := by
  have hempty := draft_of_create hb
  have hrow : (b.after run).draft.data.Replays (Call.standingPairs Call.rowPairs run) := by
    refine replays_after Draft.data_call b ?_ run fun c hc e he => ?_
    · rw [hempty]
    · exact hkeys c hc e (List.mem_append_left _ he)
  have hduplicate : (b.after run).draft.duplicateData.Replays
      (Call.standingPairs Call.duplicatePairs run) := by
    refine replays_after Draft.duplicateData_call b ?_ run fun c hc e he => ?_
    · rw [hempty]
    · exact hkeys c hc e (List.mem_append_right _ he)
  refine ⟨hrow, hduplicate, fun data => ⟨rfl, rfl⟩, ?_, ?_, ?_⟩
  · intro statement h
    exact Statement.assigns_of_ofDraft (gives_iff.1 h)
  · intro entries hentries htexts
    simp only [List.mem_cons, List.not_mem_nil, or_false] at hentries
    rcases hentries with rfl | rfl
    · exact hrow.nodup_shown htexts
    · exact hduplicate.nodup_shown htexts
  · intro bring hbring pieces hne hpieces
    exact (b.after run).after_cut hbring hne hpieces

/-- A run that empties its data once and then inserts columns again and again, also by a call
that is refused for its second item. -/
def repeatedRun : List Call :=
  [.update (.mapping [(.text "stale", .int 0)]),
    .clear .data,
    .insert (.mapping [(.text "name", .text "Ann"), (.text "age", .int 3)]),
    .onDuplicate (.list [.tuple [.text "seen", .int 1],
      .tuple [.text "seen", .raw ⟨"seen + ?", [.int 1]⟩]]),
    .insert (.list [.tuple [.text "age", .int 4], .int 0, .tuple [.text "role", .text "admin"]])]

/-- The first column of the repeated run keeps its place, the second one takes its new value, and
the third one stands behind a refused item. The list of the update can be cut in two. -/
theorem assigns_replayed_data_repeatedRun :
    Builder.create (.text "users") (.text "") .null none = .ok (ofTable "users") ∧
      (∀ c ∈ repeatedRun, ∀ e ∈ c.rowPairs ++ c.duplicatePairs, e.1.IsKey) ∧
      ((ofTable "users").after repeatedRun).draft.data.Replays
        [(.text "name", .text "Ann"), (.text "age", .int 3), (.text "age", .int 4)] ∧
      (∃ statement, ((ofTable "users").after repeatedRun).Gives statement ∧
        statement.Assigns ((ofTable "users").after repeatedRun).draft ∧
        statement.sql =
          "INSERT INTO users SET name = ?, age = ? ON DUPLICATE KEY UPDATE seen = seen + ?") ∧
      ((ofTable "users").after repeatedRun).after
          [.update (.list [.tuple [.text "age", .int 5]]),
            .update (.list [.tuple [.text "role", .null], .tuple [.text "age", .int 6]])] =
        ((ofTable "users").after repeatedRun).after
          [.update (.list [.tuple [.text "age", .int 5], .tuple [.text "role", .null],
            .tuple [.text "age", .int 6]])] := by
  have hatoms : ∀ c ∈ repeatedRun, ∀ e ∈ c.rowPairs ++ c.duplicatePairs, e.1.isAtom = true := by
    decide
  have hkeys : ∀ c ∈ repeatedRun, ∀ e ∈ c.rowPairs ++ c.duplicatePairs, e.1.IsKey :=
    fun c hc e he => .atom (hatoms c hc e he)
  obtain ⟨hrow, -, -, hassigns, -, hcut⟩ :=
    assigns_replayed_data (create_text "users") repeatedRun hkeys
  have hdata : Entries.putAll [] (Call.standingPairs Call.rowPairs repeatedRun) =
      [(.text "name", .text "Ann"), (.text "age", .int 4)] := by
    change Entries.putAll []
      [(.text "name", .text "Ann"), (.text "age", .int 3), (.text "age", .int 4)] = _
    simp [Entries.putAll, Entries.put, Value.same]
  have hduplicate : Entries.putAll [] (Call.standingPairs Call.duplicatePairs repeatedRun) =
      [(.text "seen", .raw ⟨"seen + ?", [.int 1]⟩)] := by
    change Entries.putAll [] [(.text "seen", .int 1), (.text "seen", _)] = _
    simp [Entries.putAll, Entries.put, Value.same]
  rw [← entries_after Draft.data_call (ofTable "users") rfl] at hdata
  rw [← entries_after Draft.duplicateData_call (ofTable "users") rfl] at hduplicate
  have hgives : ((ofTable "users").after repeatedRun).Gives
      ⟨"INSERT INTO users SET name = ?, age = ? ON DUPLICATE KEY UPDATE seen = seen + ?",
        [.text "Ann", .int 4, .int 1], .insert⟩ := by
    rw [gives_iff, Statement.ofDraft_of_known (a := .insert) rfl, Statement.clauses,
      Statement.insertClauses, Clause.onDuplicate, hdata, hduplicate]
    rfl
  refine ⟨rfl, hkeys, hrow, ⟨_, hgives, hassigns _ hgives, rfl⟩, ?_⟩
  exact hcut .update (by simp)
    [[.tuple [.text "age", .int 5]],
      [.tuple [.text "role", .null], .tuple [.text "age", .int 6]]] (by simp) (by decide)

end Builder

end BoundSql
