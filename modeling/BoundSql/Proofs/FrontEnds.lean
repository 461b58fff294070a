import BoundSql.Proofs.Contained

/-!
# Pairs and typed conditions

A condition can be given as an operator with its operand or as a condition of its kind. Both
ways are checked on their own, and they come to the same: what one of them describes the other
describes too. A resolved condition describes itself, so resolving it again changes nothing.
-/

namespace BoundSql

/-- The symbol of an operator spells it. -/
theorem Operator.speltBy_symbol (op : Operator) : op.SpeltBy op.symbol :=
  op.normalizedOperator_symbol

/-- What an operator describes together with an operand describes itself. -/
theorem Operator.Takes.describes_self {op : Operator} {operand : Value} {c : Condition Value}
    (h : op.Takes operand c) : (Value.condition c).Describes c := by
  cases h with
  | range _ => exact .between _ _
  | raw expr hrange => exact .rawCompare expr op.speltBy_symbol hrange
  | members negated _ _ => exact .inSet _ _ negated
  | null negated => exact .isNull negated
  | value _ hcompares => exact .compare op.speltBy_symbol hcompares

/-- What a value describes describes itself. -/
theorem Value.Describes.describes_self {v : Value} {c : Condition Value} (h : v.Describes c) :
    (Value.condition c).Describes c := by
  cases h with
  | between low high => exact .between low high
  | inSet first rest negated => exact .inSet first rest negated
  | isNull negated => exact .isNull negated
  | compare _ hcompares => exact .compare (Operator.speltBy_symbol _) hcompares
  | rawCompare expr _ hrange => exact .rawCompare expr (Operator.speltBy_symbol _) hrange
  | raw expr => exact .rawCompare expr Operator.equal.speltBy_symbol (by decide)
  | pair _ _ htakes => exact htakes.describes_self
  | scalar _ _ _ => exact .compare Operator.equal.speltBy_symbol (Operator.equal_comparesWith v)

namespace Condition

/-- A list or tuple of an operator and its operand is resolved as the two. -/
theorem resolve_pair (column : Value) {pair operand : Value} {given : String}
    (h : pair.IsSequence [.text given, operand]) :
    resolve column pair = ofPair column given operand :=
  resolve_of_isSequence column h

/-- A comparison with raw SQL is accepted when the operator is any but that of ranges. -/
theorem canonical_rawCompare_eq_ok_iff {column : Value} {given : String} {expr : RawSql Value}
    {c : Condition Value} :
    canonical column (.rawCompare given expr) = .ok c ↔
      ∃ op : Operator, op.SpeltBy given ∧ op ≠ .between ∧ c = .rawCompare op.symbol expr := by
  constructor
  · intro h
    cases describes_of_canonical h with
    | rawCompare _ hop hrange => exact ⟨_, hop, hrange, rfl⟩
    | scalar _ _ hcondition => exact absurd rfl (hcondition _)
    | pair hv _ _ => rcases hv with hv | hv <;> cases hv
  · rintro ⟨op, hop, hrange, rfl⟩
    exact canonical_rawCompare expr hop hrange

/-- An operator with raw SQL is accepted when it is any but that of ranges. -/
theorem ofPair_raw_eq_ok_iff {column : Value} {given : String} {expr : RawSql Value}
    {c : Condition Value} :
    ofPair column given (.raw expr) = .ok c ↔
      ∃ op : Operator, op.SpeltBy given ∧ op ≠ .between ∧ c = .rawCompare op.symbol expr := by
  constructor
  · intro h
    obtain ⟨op, hop, htakes⟩ := takes_of_ofPair h
    cases htakes with
    | range hoperand => rcases hoperand with hoperand | hoperand <;> cases hoperand
    | raw _ hrange => exact ⟨op, hop, hrange, rfl⟩
    | members _ hraw _ => exact absurd rfl (hraw expr)
    | value hraw _ => exact absurd rfl (hraw expr)
  · rintro ⟨op, hop, hrange, rfl⟩
    exact ofPair_of_takes hop (.raw expr hrange)

/-- A comparison with a value is accepted when its operator compares with the value. -/
theorem canonical_compare_eq_ok_iff {column : Value} {given : String} {value : Value}
    {c : Condition Value} :
    canonical column (.compare given value) = .ok c ↔
      ∃ op : Operator, op.SpeltBy given ∧ op.ComparesWith value ∧
        c = .compare op.symbol value := by
  constructor
  · intro h
    cases describes_of_canonical h with
    | compare hop hcompares => exact ⟨_, hop, hcompares, rfl⟩
    | scalar _ _ hcondition => exact absurd rfl (hcondition _)
    | pair hv _ _ => rcases hv with hv | hv <;> cases hv
  · rintro ⟨op, hop, hcompares, rfl⟩
    exact canonical_compare_of_comparesWith hop hcompares

/-- A condition is a comparison with a value. -/
def IsComparison (c : Condition Value) : Prop :=
  ∃ op value, c = .compare op value

/-- An operator with an operand other than raw SQL is a comparison when it compares with the
operand. -/
theorem ofPair_eq_ok_and_isComparison_iff {column : Value} {given : String} {operand : Value}
    (hraw : ∀ expr, operand ≠ .raw expr) {c : Condition Value} :
    ofPair column given operand = .ok c ∧ c.IsComparison ↔
      ∃ op : Operator, op.SpeltBy given ∧ op.ComparesWith operand ∧
        c = .compare op.symbol operand := by
  constructor
  · rintro ⟨h, symbol, value, hc⟩
    obtain ⟨op, hop, htakes⟩ := takes_of_ofPair h
    cases htakes with
    | value _ hcompares => exact ⟨op, hop, hcompares, rfl⟩
    | _ => cases hc
  · rintro ⟨op, hop, hcompares, rfl⟩
    exact ⟨ofPair_of_takes hop (.value hraw hcompares), _, _, rfl⟩

/-- A list or tuple of an operator and an operand that says the same as a condition. -/
inductive HasPair : Condition Value → Value → Prop where
  /-- A comparison with raw SQL, which is the operand. -/
  | rawCompare {given : String} {expr : RawSql Value} {pair : Value}
    (h : pair.IsSequence [.text given, .raw expr]) : HasPair (.rawCompare given expr) pair
  /-- A comparison with a value, which is the operand, unless it stands there for
  something else. -/
  | compare {given : String} {value pair : Value} (hraw : ∀ expr, value ≠ .raw expr)
    (hcompares : ∀ op : Operator, op.SpeltBy given → op.ComparesWith value)
    (h : pair.IsSequence [.text given, value]) : HasPair (.compare given value) pair
  /-- A range condition: the two bounds are the operand. -/
  | between {given : String} {low high operand pair : Value} (hop : Operator.between.SpeltBy given)
    (hoperand : operand.IsSequence [low, high]) (h : pair.IsSequence [.text given, operand]) :
    HasPair (.between low high) pair
  /-- A membership condition: the values are the operand. -/
  | inSet {given : String} {first operand pair : Value} {rest : List Value} {negated : Bool}
    (hop : (Operator.membership negated).SpeltBy given)
    (hoperand : operand.IsSequence (first :: rest))
    (h : pair.IsSequence [.text given, operand]) : HasPair (.inSet first rest negated) pair
  /-- A null test: the operand is the missing value. -/
  | isNull {given : String} {pair : Value} {negated : Bool}
    (hop : (Operator.nullTest negated).SpeltBy given) (h : pair.IsSequence [.text given, .null]) :
    HasPair (.isNull negated) pair

end Condition

/-- The values of a list or tuple are what it holds to look among. -/
theorem Value.IsSequence.holds {operand : Value} {values : List Value}
    (h : operand.IsSequence values) : operand.Holds values := by
  rcases h with rfl | rfl
  · exact .read rfl rfl rfl
  · exact .read rfl rfl rfl

/-- A list or tuple is not raw SQL. -/
theorem Value.IsSequence.ne_raw {operand : Value} {values : List Value}
    (h : operand.IsSequence values) (expr : RawSql Value) : operand ≠ .raw expr := by
  rcases h with rfl | rfl
  · exact Value.noConfusion
  · exact Value.noConfusion

namespace Condition

/-- A pair of the operator of ranges and two bounds is resolved to the range condition. -/
theorem resolve_between_pair (column : Value) {given : String} {low high operand pair : Value}
    (hop : Operator.between.SpeltBy given) (hoperand : operand.IsSequence [low, high])
    (h : pair.IsSequence [.text given, operand]) :
    resolve column pair = .ok (.between low high) := by
  rw [resolve_pair column h]
  exact ofPair_of_takes hop (.range hoperand)

/-- A pair of an operator of membership and a list or tuple of values is resolved to the
membership condition. -/
theorem resolve_inSet_pair (column : Value) {given : String} {first operand pair : Value}
    {rest : List Value} {negated : Bool} (hop : (Operator.membership negated).SpeltBy given)
    (hoperand : operand.IsSequence (first :: rest))
    (h : pair.IsSequence [.text given, operand]) :
    resolve column pair = .ok (.inSet first rest negated) := by
  rw [resolve_pair column h]
  exact ofPair_of_takes hop (.members negated hoperand.ne_raw hoperand.holds)

/-- A pair of an operator that tests for null and the missing value is resolved to the null
test. -/
theorem resolve_isNull_pair (column : Value) {given : String} {pair : Value} {negated : Bool}
    (hop : (Operator.nullTest negated).SpeltBy given) (h : pair.IsSequence [.text given, .null]) :
    resolve column pair = .ok (.isNull negated) := by
  rw [resolve_pair column h]
  exact ofPair_of_takes hop (.null negated)

/-- A pair of an operator and raw SQL is resolved as the comparison of the two. -/
theorem resolve_raw_pair_iff {column pair : Value} {given : String} {expr : RawSql Value}
    (h : pair.IsSequence [.text given, .raw expr]) {c : Condition Value} :
    resolve column pair = .ok c ↔
      resolve column (.condition (.rawCompare given expr)) = .ok c := by
  rw [resolve_pair column h]
  exact ofPair_raw_eq_ok_iff.trans canonical_rawCompare_eq_ok_iff.symm

/-- A comparison with a value is resolved as the pair of the two, when this is a comparison. -/
theorem resolve_compare_iff {column value pair : Value} {given : String}
    (hraw : ∀ expr, value ≠ .raw expr) (h : pair.IsSequence [.text given, value])
    {c : Condition Value} :
    resolve column (.condition (.compare given value)) = .ok c ↔
      resolve column pair = .ok c ∧ c.IsComparison := by
  rw [resolve_pair column h]
  exact canonical_compare_eq_ok_iff.trans (ofPair_eq_ok_and_isComparison_iff hraw).symm

/-- A condition is resolved as each pair that says the same. -/
theorem HasPair.resolve_iff {given : Condition Value} {pair : Value} (h : given.HasPair pair)
    (column : Value) (c : Condition Value) :
    resolve column (.condition given) = .ok c ↔ resolve column pair = .ok c := by
  cases h with
  | rawCompare h => exact (resolve_raw_pair_iff h).symm
  | compare hraw hcompares h =>
    -- The operator compares with the operand, so what the pair describes is a comparison.
    have hcomparison : resolve column pair = .ok c → c.IsComparison := by
      intro hc
      rw [resolve_pair column h] at hc
      obtain ⟨op, hop, -⟩ := takes_of_ofPair hc
      rw [ofPair_of_takes hop (.value hraw (hcompares op hop))] at hc
      cases hc
      exact ⟨_, _, rfl⟩
    rw [resolve_compare_iff hraw h]
    exact ⟨And.left, fun hc => ⟨hc, hcomparison hc⟩⟩
  | between hop hoperand h => rw [resolve_between_pair column hop hoperand h]; rfl
  | inSet hop hoperand h => rw [resolve_inSet_pair column hop hoperand h]; rfl
  | isNull hop h => rw [resolve_isNull_pair column hop h]; rfl

end Condition

namespace Filter

/-- Two columns with values say the same: they are one column with one value, or with a
condition and a pair for it. -/
def SaysSame (e other : Value × Value) : Prop :=
  e.1 = other.1 ∧ (e.2 = other.2 ∨ ∃ c, e.2 = .condition c ∧ c.HasPair other.2)

/-- Columns with values that say the same are resolved to the same conditions. -/
theorem SaysSame.resolve_iff {e other : Value × Value} (h : SaysSame e other)
    (c : Condition Value) :
    Condition.resolve e.1 e.2 = .ok c ↔ Condition.resolve other.1 other.2 = .ok c := by
  obtain ⟨hcolumn, hvalue | ⟨given, hgiven, hpair⟩⟩ := h
  · rw [hcolumn, hvalue]
  · rw [hcolumn, hgiven]
    exact hpair.resolve_iff other.1 c

/-- The fragments of a filter are those of the first column and of the others. -/
theorem parts_cons_eq_ok_iff {e : Value × Value} {rest : List (Value × Value)}
    {items : List Fragment} :
    parts (e :: rest) = .ok items ↔
      ∃ c others, Condition.resolve e.1 e.2 = .ok c ∧ parts rest = .ok others ∧
        items = c.render e.1.shown :: others := by
  constructor
  · intro h
    obtain ⟨c, hc, h⟩ := Result.bind_eq_ok_iff.1 h
    obtain ⟨others, hothers, h⟩ := Result.bind_eq_ok_iff.1 h
    cases h
    exact ⟨c, others, hc, hothers, rfl⟩
  · rintro ⟨c, others, hc, hothers, rfl⟩
    exact Result.bind_eq_ok_iff.2 ⟨c, hc, Result.bind_eq_ok_iff.2 ⟨others, hothers, rfl⟩⟩

/-- Filters that say the same have the same fragments. -/
theorem parts_eq_ok_iff_of_saysSame {entries others : List (Value × Value)}
    (h : List.Forall₂ SaysSame entries others) (items : List Fragment) :
    parts entries = .ok items ↔ parts others = .ok items := by
  induction h generalizing items with
  | nil => rfl
  | @cons e other entries others hfirst _ ih =>
    have hcolumn : e.1 = other.1 := hfirst.1
    have hresolve := hfirst.resolve_iff
    rw [hcolumn] at hresolve
    rw [parts_cons_eq_ok_iff, parts_cons_eq_ok_iff]
    simp only [hcolumn, hresolve, ih]

/-- Filters that say the same are the same fragment. -/
theorem ofValue_eq_ok_iff_of_saysSame {entries others : List (Value × Value)}
    (h : List.Forall₂ SaysSame entries others) (connective : Connective) (f : Fragment) :
    ofValue connective (.mapping entries) = .ok f ↔
      ofValue connective (.mapping others) = .ok f := by
  change (parts entries).map _ = .ok f ↔ (parts others).map _ = .ok f
  rw [Result.map_eq_ok_iff, Result.map_eq_ok_iff]
  simp only [parts_eq_ok_iff_of_saysSame h]

end Filter

namespace Condition

/-- A resolved condition is resolved to itself. A pair of an operator and raw SQL is resolved as
their comparison, and a comparison with another value as the pair of the two when this is a
comparison at all. Range conditions, null tests and membership conditions are what pairs of
their operators with the bounds, the missing value or the values are resolved to. So a mapping
with pairs and one with the conditions for them are the same filter, or both are none. -/
theorem front_ends_agree (column : Value) :
    (∀ v c, resolve column v = .ok c → resolve column (.condition c) = .ok c) ∧
    (∀ given expr pair, pair.IsSequence [.text given, .raw expr] → ∀ c,
      resolve column pair = .ok c ↔
        resolve column (.condition (.rawCompare given expr)) = .ok c) ∧
    (∀ given value pair, (∀ expr, value ≠ .raw expr) → pair.IsSequence [.text given, value] →
      ∀ c, resolve column (.condition (.compare given value)) = .ok c ↔
        resolve column pair = .ok c ∧ c.IsComparison) ∧
    (∀ given low high operand pair, Operator.between.SpeltBy given →
      operand.IsSequence [low, high] → pair.IsSequence [.text given, operand] →
        resolve column (.condition (.between low high)) = .ok (.between low high) ∧
          resolve column pair = .ok (.between low high)) ∧
    (∀ given negated pair, (Operator.nullTest negated).SpeltBy given →
      pair.IsSequence [.text given, .null] →
        resolve column (.condition (.isNull negated)) = .ok (.isNull negated) ∧
          resolve column pair = .ok (.isNull negated)) ∧
    (∀ given first rest negated operand pair, (Operator.membership negated).SpeltBy given →
      operand.IsSequence (first :: rest) → pair.IsSequence [.text given, operand] →
        resolve column (.condition (.inSet first rest negated)) = .ok (.inSet first rest negated) ∧
          resolve column pair = .ok (.inSet first rest negated)) ∧
    (∀ connective typed pairs, List.Forall₂ Filter.SaysSame typed pairs → ∀ f,
      Filter.ofValue connective (.mapping typed) = .ok f ↔
        Filter.ofValue connective (.mapping pairs) = .ok f) := by
  refine ⟨?_, ?_, ?_, ?_, ?_, ?_, ?_⟩
  · intro v c h
    exact resolve_eq_ok_iff.2 (resolve_eq_ok_iff.1 h).describes_self
  · intro given expr pair h c
    exact resolve_raw_pair_iff h
  · intro given value pair hraw h c
    exact resolve_compare_iff hraw h
  · intro given low high operand pair hop hoperand h
    exact ⟨rfl, resolve_between_pair column hop hoperand h⟩
  · intro given negated pair hop h
    exact ⟨rfl, resolve_isNull_pair column hop h⟩
  · intro given first rest negated operand pair hop hoperand h
    exact ⟨rfl, resolve_inSet_pair column hop hoperand h⟩
  · intro connective typed pairs h f
    exact Filter.ofValue_eq_ok_iff_of_saysSame h connective f

/-- Conditions of all kinds on five columns. -/
def typedEntries : List (Value × Value) :=
  [(.text "seen", .condition (.rawCompare " in" ⟨"(SELECT ?)", [.int 6]⟩)),
    (.text "name", .condition (.compare "not  like" (.text "J%"))),
    (.text "age", .condition (.between (.int 18) (.raw ⟨"MAX(?)", [.null]⟩))),
    (.text "gone", .condition (.isNull true)),
    (.text "role", .condition (.inSet (.text "mod") [.null] true))]

/-- Pairs that say the same. -/
def pairedEntries : List (Value × Value) :=
  [(.text "seen", .tuple [.text " in", .raw ⟨"(SELECT ?)", [.int 6]⟩]),
    (.text "name", .list [.text "not  like", .text "J%"]),
    (.text "age", .tuple [.text "Between", .list [.int 18, .raw ⟨"MAX(?)", [.null]⟩]]),
    (.text "gone", .list [.text "is not", .null]),
    (.text "role", .tuple [.text "NOT\tIN", .tuple [.text "mod", .null]])]

/-- The filter that both are. -/
def pairedFilter : Fragment where
  sql := "seen IN (SELECT ?) AND name NOT LIKE ? AND age BETWEEN ? AND ? AND gone IS NOT NULL " ++
    "AND role NOT IN (?, ?)"
  params := [.int 6, .text "J%", .int 18, .raw ⟨"MAX(?)", [.null]⟩, .text "mod", .null]

/-- The conditions and the pairs say the same one by one, and they are the same filter. -/
theorem front_ends_agree_pairedEntries :
    List.Forall₂ Filter.SaysSame typedEntries pairedEntries ∧
      Filter.ofValue .and (.mapping typedEntries) = .ok pairedFilter ∧
      Filter.ofValue .and (.mapping pairedEntries) = .ok pairedFilter ∧
      resolve (.text "name") (.condition (.compare "NOT LIKE" (.text "J%"))) =
        .ok (.compare "NOT LIKE" (.text "J%")) := by
  have hspelt : ∀ op : Operator, op.SpeltBy "not  like" → op.ComparesWith (.text "J%") := by
    intro op hop
    have hlike : op = .notLike := by
      unfold Operator.SpeltBy at hop
      have hnormal : normalizedOperator "not  like" = "NOT LIKE" := by decide +kernel
      rw [hnormal] at hop
      cases op <;> first | rfl | exact absurd hop (by decide)
    subst hlike
    exact Operator.comparesWith_of_role (by decide) (by decide) fun _ h => by cases h
  have hsame : List.Forall₂ Filter.SaysSame typedEntries pairedEntries := by
    refine .cons ⟨rfl, .inr ⟨_, rfl, .rawCompare (.inr rfl)⟩⟩ (.cons ⟨rfl, .inr ⟨_, rfl, ?_⟩⟩
      (.cons ⟨rfl, .inr ⟨_, rfl, ?_⟩⟩ (.cons ⟨rfl, .inr ⟨_, rfl, ?_⟩⟩
        (.cons ⟨rfl, .inr ⟨_, rfl, ?_⟩⟩ .nil))))
    · exact .compare (fun _ h => by cases h) hspelt (.inl rfl)
    · exact .between (by unfold Operator.SpeltBy; decide +kernel) (.inl rfl) (.inr rfl)
    · exact .isNull (by unfold Operator.SpeltBy; decide +kernel) (.inl rfl)
    · exact .inSet (by unfold Operator.SpeltBy; decide +kernel) (.inr rfl) (.inr rfl)
  have htyped : Filter.ofValue .and (.mapping typedEntries) = .ok pairedFilter := rfl
  have hname : resolve (.text "name") (.list [.text "not  like", .text "J%"]) =
      .ok (.compare "NOT LIKE" (.text "J%")) := rfl
  obtain ⟨hself, -, -, -, -, -, hfilter⟩ := front_ends_agree (.text "name")
  exact ⟨hsame, htyped, (hfilter .and typedEntries pairedEntries hsame pairedFilter).1 htyped,
    hself _ _ hname⟩

end Condition

end BoundSql
