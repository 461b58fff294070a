import BoundSql.Proofs.Described
import BoundSql.Proofs.ResolvedFilter
import Mathlib.Data.List.Forall2

/-!
# Operators in the text of filters

The text of a filter has one item for each column. Behind the column stands a canonical
operator with question marks or raw SQL, in a form that the condition on the column fixes,
and the list of a membership operator is never empty. A filter whose operators are
respelled in canonical form is the same filter, so nothing of a caller's own spelling of an
operator is in the text.
-/

namespace BoundSql

namespace Condition

/-- What the fragment of a condition puts behind its column, with the values that go with it. -/
inductive Behind : Condition Value → String → List Value → Prop where
  /-- An operator that compares with a value, and its question mark. -/
  | value {op : Operator} {value : Value} (h : op.ComparesWith value) :
    Behind (.compare op.symbol value) (op.symbol ++ " ?") [value]
  /-- An operator and raw SQL, which brings its own values. -/
  | raw {op : Operator} (expr : RawSql Value) (h : op ≠ .between) :
    Behind (.rawCompare op.symbol expr) (op.symbol ++ " " ++ expr.sql) expr.bindings
  /-- The operator of ranges and its two question marks. -/
  | range (low high : Value) : Behind (.between low high) "BETWEEN ? AND ?" [low, high]
  /-- An operator of membership and a question mark for each of one or more values. -/
  | members (first : Value) (rest : List Value) (negated : Bool) :
    Behind (.inSet first rest negated)
      ((Operator.membership negated).symbol ++ " (" ++
        ", ".intercalate (List.replicate (rest.length + 1) "?") ++ ")")
      (first :: rest)
  /-- An operator that tests for null, without a value. -/
  | null (negated : Bool) :
    Behind (.isNull negated) ((Operator.nullTest negated).symbol ++ " NULL") []

/-- What can stand behind a column stands there. -/
def Contained (c : Condition Value) : Prop :=
  ∀ column, ∃ text, c.Behind text (c.render column).params ∧
    (c.render column).sql = column ++ " " ++ text

/-- A comparison by an operator that compares with the value. -/
theorem contained_compare {op : Operator} {value : Value} (h : op.ComparesWith value) :
    (compare op.symbol value).Contained := by
  intro column
  refine ⟨_, .value h, ?_⟩
  simp only [render, written_symbol, String.append_assoc]

/-- A comparison with raw SQL by any operator but that of ranges. -/
theorem contained_rawCompare {op : Operator} (expr : RawSql Value) (h : op ≠ .between) :
    (rawCompare op.symbol expr).Contained := by
  intro column
  refine ⟨_, .raw expr h, ?_⟩
  simp only [render, written_symbol, String.append_assoc]

/-- A range condition. -/
theorem contained_between (low high : Value) : (between low high).Contained := by
  intro column
  refine ⟨_, .range low high, ?_⟩
  simp only [render, String.append_assoc]
  rfl

/-- A membership condition. -/
theorem contained_inSet (first : Value) (rest : List Value) (negated : Bool) :
    (inSet first rest negated).Contained := by
  intro column
  refine ⟨_, .members first rest negated, ?_⟩
  have hmarks : placeholders (first :: rest) =
      ", ".intercalate (List.replicate (rest.length + 1) "?") := by
    unfold placeholders
    rw [List.map_const', List.length_cons]
  have hkeyword : (if negated then " NOT IN (" else " IN (") =
      " " ++ ((Operator.membership negated).symbol ++ " (") := by
    cases negated <;> rfl
  simp only [render, hmarks, hkeyword, String.append_assoc]

/-- A null test. -/
theorem contained_isNull (negated : Bool) : (isNull negated).Contained := by
  intro column
  refine ⟨_, .null negated, ?_⟩
  have hkeyword : (if negated then " IS NOT NULL" else " IS NULL") =
      " " ++ ((Operator.nullTest negated).symbol ++ " NULL") := by
    cases negated <;> rfl
  simp only [render, hkeyword, String.append_assoc]

/-- The condition that an operator and its operand describe. -/
theorem contained_of_takes {op : Operator} {operand : Value} {c : Condition Value}
    (h : op.Takes operand c) : c.Contained := by
  cases h with
  | range _ => exact contained_between _ _
  | raw expr hrange => exact contained_rawCompare expr hrange
  | members negated _ _ => exact contained_inSet _ _ negated
  | null negated => exact contained_isNull negated
  | value _ hcompares => exact contained_compare hcompares

/-- The condition that a value describes. -/
theorem contained_of_describes {v : Value} {c : Condition Value} (h : v.Describes c) :
    c.Contained := by
  cases h with
  | between low high => exact contained_between low high
  | inSet first rest negated => exact contained_inSet first rest negated
  | isNull negated => exact contained_isNull negated
  | compare _ hcompares => exact contained_compare hcompares
  | rawCompare expr _ hrange => exact contained_rawCompare expr hrange
  | raw expr => exact contained_rawCompare expr (by decide : Operator.equal ≠ .between)
  | pair _ _ htakes => exact contained_of_takes htakes
  | scalar _ _ _ => exact contained_compare (Operator.equal_comparesWith v)

end Condition

/-- The normal form of a symbol is the symbol. -/
theorem Operator.normalizedOperator_symbol (op : Operator) :
    normalizedOperator op.symbol = op.symbol := by
  cases op <;> decide +kernel

/-- An operator that a text spells is spelt by the normal form of the text. -/
theorem Operator.SpeltBy.normalized {op : Operator} {given : String} (h : op.SpeltBy given) :
    op.SpeltBy (normalizedOperator given) := by
  unfold SpeltBy at h ⊢
  rw [h, normalizedOperator_symbol]

namespace Value

/-- A value in the place of a condition with the normal form of its operator in the place of
the operator. -/
def respelt : Value → Value
  | .condition (.compare given value) => .condition (.compare (normalizedOperator given) value)
  | .condition (.rawCompare given expr) =>
    .condition (.rawCompare (normalizedOperator given) expr)
  | .list [.text given, operand] => .list [.text (normalizedOperator given), operand]
  | .tuple [.text given, operand] => .tuple [.text (normalizedOperator given), operand]
  | v => v

/-- A list or tuple of an operator and its operand stays one. -/
theorem IsSequence.respelt {v operand : Value} {given : String}
    (h : v.IsSequence [.text given, operand]) :
    v.respelt.IsSequence [.text (normalizedOperator given), operand] := by
  rcases h with rfl | rfl
  · exact .inl rfl
  · exact .inr rfl

/-- A value describes the same condition when its operator is respelt. -/
theorem Describes.respelt {v : Value} {c : Condition Value} (h : v.Describes c) :
    v.respelt.Describes c := by
  cases h with
  | between low high => exact .between low high
  | inSet first rest negated => exact .inSet first rest negated
  | isNull negated => exact .isNull negated
  | compare hop hcompares => exact .compare hop.normalized hcompares
  | rawCompare expr hop hrange => exact .rawCompare expr hop.normalized hrange
  | raw expr => exact .raw expr
  | pair hv hop htakes => exact .pair hv.respelt hop.normalized htakes
  | scalar hsequence hraw hcondition =>
    have hsame : v.respelt = v := by
      cases v with
      | condition c => exact absurd rfl (hcondition c)
      | list items => exact absurd (.inl rfl) (hsequence items)
      | tuple items => exact absurd (.inr rfl) (hsequence items)
      | _ => rfl
    rw [hsame]
    exact .scalar hsequence hraw hcondition

end Value

namespace Filter

/-- The item of a column in the text of a filter, with its values: the column, a blank, and
what can stand behind the column for the condition that the value describes. -/
def IsItem (e : Value × Value) (item : Fragment) : Prop :=
  ∃ c text, e.2.Describes c ∧ c.Behind text item.params ∧ item.sql = e.1.shown ++ " " ++ text

/-- The fragments of a filter are the items of its columns, in order. -/
theorem isItem_of_parts {entries : List (Value × Value)} {items : List Fragment}
    (h : parts entries = .ok items) : List.Forall₂ IsItem entries items := by
  induction entries generalizing items with
  | nil =>
    cases h
    exact .nil
  | cons e rest ih =>
    obtain ⟨column, value⟩ := e
    obtain ⟨c, hc, h⟩ := Result.bind_eq_ok_iff.1 h
    obtain ⟨others, hothers, h⟩ := Result.bind_eq_ok_iff.1 h
    cases h
    have hdescribes := Condition.resolve_eq_ok_iff.1 hc
    obtain ⟨text, hbehind, hsql⟩ := Condition.contained_of_describes hdescribes column.shown
    exact .cons ⟨c, text, hdescribes, hbehind, hsql⟩ (ih hothers)

/-- The fragments of a filter are the same when the operators are respelt. -/
theorem parts_respelt {entries : List (Value × Value)} {items : List Fragment}
    (h : parts entries = .ok items) :
    parts (entries.map fun e => (e.1, e.2.respelt)) = .ok items := by
  induction entries generalizing items with
  | nil => exact h
  | cons e rest ih =>
    obtain ⟨column, value⟩ := e
    obtain ⟨c, hc, h⟩ := Result.bind_eq_ok_iff.1 h
    obtain ⟨others, hothers, h⟩ := Result.bind_eq_ok_iff.1 h
    have hrespelt := Condition.resolve_eq_ok_iff.1 hc |>.respelt
    refine Result.bind_eq_ok_iff.2 ⟨c, Condition.resolve_eq_ok_iff.2 hrespelt, ?_⟩
    exact Result.bind_eq_ok_iff.2 ⟨others, ih hothers, h⟩

/-- The text of a filter is one item for each column, in order, with the connective between
neighbours, and its values are those of the items in the same order. An item is its column and
behind it a canonical operator with question marks or raw SQL, as the condition on the column
asks for; a membership operator has one or more question marks. The filter is the same when its
operators are given in normal form, so a caller's own spelling of an operator has no effect on
it. -/
theorem contains_canonical_operators {connective : Connective} {entries : List (Value × Value)}
    {f : Fragment} (h : ofValue connective (.mapping entries) = .ok f) :
    (∃ items, List.Forall₂ IsItem entries items ∧
      f.sql = (" " ++ connective.keyword ++ " ").intercalate (items.map fun item => item.sql) ∧
      f.params = items.flatMap fun item => item.params) ∧
    ofValue connective (.mapping (entries.map fun e => (e.1, e.2.respelt))) = .ok f := by
  obtain ⟨items, hitems, rfl⟩ := Result.map_eq_ok_iff.1 h
  refine ⟨⟨items, isItem_of_parts hitems, rfl, rfl⟩, ?_⟩
  exact Result.map_eq_ok_iff.2 ⟨items, parts_respelt hitems, rfl⟩

/-- Conditions of all kinds with their operators in several spellings. -/
def spelledEntries : List (Value × Value) :=
  [(.text "age", .tuple [.text " between ", .list [.int 18, .int 65]]),
    (.text "role", .list [.text "not  in", .tuple [.text "x' OR 1=1 --", .null]]),
    (.text "name", .condition (.compare "Not Like" (.text "J%"))),
    (.text "seen", .tuple [.text "<", .raw ⟨"NOW(?)", [.int 6]⟩]),
    (.text "gone", .tuple [.text "is", .null])]

/-- The filter in which one of these conditions holds. -/
def spelledFilter : Fragment where
  sql := "age BETWEEN ? AND ? OR role NOT IN (?, ?) OR name NOT LIKE ? OR seen < NOW(?) OR " ++
    "gone IS NULL"
  params := [.int 18, .int 65, .text "x' OR 1=1 --", .null, .text "J%", .int 6]

/-- The filter has an item for each of the five columns, with canonical operators alone. -/
theorem contains_canonical_operators_spelledFilter :
    ofValue .or (.mapping spelledEntries) = .ok spelledFilter ∧
      (∃ items, List.Forall₂ IsItem spelledEntries items ∧
        spelledFilter.sql = (" " ++ Connective.or.keyword ++ " ").intercalate
          (items.map fun item => item.sql) ∧
        spelledFilter.params = items.flatMap fun item => item.params) ∧
      ofValue .or (.mapping (spelledEntries.map fun e => (e.1, e.2.respelt))) =
        .ok spelledFilter := by
  have h : ofValue .or (.mapping spelledEntries) = .ok spelledFilter := rfl
  exact ⟨h, contains_canonical_operators h⟩

end Filter

end BoundSql
