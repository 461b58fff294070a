import BoundSql.Value.Number

/-!
# Equality of values and what may be a key

Numbers of different kinds are equal when they stand for the same number, sets
and views of keys when they have the same members, mappings when they have the
same entries in any order. Only values that cannot change may be keys.
-/

namespace BoundSql

/-- How many integers a range holds. -/
def rangeLength (start stop step : Int) : Nat :=
  if 0 < step then ((stop - start + step - 1) / step).toNat
  else ((start - stop - step - 1) / -step).toNat

/-- Whether two ranges hold the same integers. -/
def sameRange (start stop step start' stop' step' : Int) : Bool :=
  let length := rangeLength start stop step
  length == rangeLength start' stop' step' &&
    (length == 0 || start == start' && (length == 1 || step == step'))

/-- The members of a set or of a view of keys. -/
def Value.setMembers? : Value → Option (List Value)
  | .set _ members => some members
  | .keys members => some members
  | _ => none

mutual

/-- Whether two values are equal. -/
def Value.same : Value → Value → Bool
  | .null, .null => true
  | .bool b, other => sameNumber (.ofInt (if b then 1 else 0)) other
  | .int n, other => sameNumber (.ofInt n) other
  | .float literal, other => sameNumber (.ofLiteral literal) other
  | .text s, .text t => s == t
  | .bytes bs, .bytes cs => bs == cs
  | .list items, .list others => sameItems items others
  | .tuple items, .tuple others => sameItems items others
  | .mapping entries, .mapping others =>
    entries.length == others.length && entriesAmong entries others
  | .set _ members, other => sameMembers members other.setMembers?
  | .keys members, other => sameMembers members other.setMembers?
  | .range start stop step, .range start' stop' step' =>
    sameRange start stop step start' stop' step'
  | .raw expr, .raw other => sameRaw expr other
  | .condition c, .condition other => sameCondition c other
  | .options o, .options other => o == other
  | .statement sql params action, .statement sql' params' action' =>
    sql.same sql' && params.same params' && action.same action'
  | _, _ => false
where
  /-- Whether a value stands for the given number. -/
  sameNumber (n : Number) (other : Value) : Bool :=
    match other.number? with
    | some m => n.same m
    | none => false

/-- Whether two lists hold equal values in the same order. -/
def sameItems : List Value → List Value → Bool
  | [], [] => true
  | v :: rest, w :: others => v.same w && sameItems rest others
  | _, _ => false

/-- Whether the values of the first list are the members of a set. -/
def sameMembers (members : List Value) (others? : Option (List Value)) : Bool :=
  match others? with
  | none => false
  | some others => members.length == others.length && itemsAmong members others

/-- Whether each value of the first list is equal to one of the second. -/
def itemsAmong : List Value → List Value → Bool
  | [], _ => true
  | v :: rest, others => others.any (fun w => v.same w) && itemsAmong rest others

/-- Whether each entry of the first mapping is one of the second. -/
def entriesAmong : List (Value × Value) → List (Value × Value) → Bool
  | [], _ => true
  | e :: rest, others => entryAmong e others && entriesAmong rest others

/-- Whether an entry is one of a mapping. -/
def entryAmong : Value × Value → List (Value × Value) → Bool
  | (k, v), others => others.any fun other => k.same other.1 && v.same other.2

/-- Whether two pieces of raw SQL are equal. -/
def sameRaw : RawSql Value → RawSql Value → Bool
  | ⟨sql, bindings⟩, other => sql == other.sql && sameItems bindings other.bindings

/-- Whether two conditions are equal. -/
def sameCondition : Condition Value → Condition Value → Bool
  | .compare op value, .compare op' value' => op == op' && value.same value'
  | .rawCompare op raw, .rawCompare op' raw' => op == op' && sameRaw raw raw'
  | .between low high, .between low' high' => low.same low' && high.same high'
  | .inSet first rest negated, .inSet first' rest' negated' =>
    first.same first' && sameItems rest rest' && negated == negated'
  | .isNull negated, .isNull negated' => negated == negated'
  | _, _ => false

end

mutual

/-- Whether a value may be a key of a mapping or a member of a set. -/
def Value.canBeKey : Value → Bool
  | .list _ => false
  | .mapping _ => false
  | .set frozen _ => frozen
  | .keys _ => false
  | .tuple items => canBeKeys items
  | .raw expr => rawCanBeKey expr
  | .condition c => conditionCanBeKey c
  | .statement sql params action => sql.canBeKey && params.canBeKey && action.canBeKey
  | _ => true

/-- Whether all values of a list may be keys. -/
def canBeKeys : List Value → Bool
  | [] => true
  | v :: rest => v.canBeKey && canBeKeys rest

/-- Whether raw SQL may be a key. -/
def rawCanBeKey : RawSql Value → Bool
  | ⟨_, bindings⟩ => canBeKeys bindings

/-- Whether a condition may be a key. -/
def conditionCanBeKey : Condition Value → Bool
  | .compare _ value => value.canBeKey
  | .rawCompare _ raw => rawCanBeKey raw
  | .between low high => low.canBeKey && high.canBeKey
  | .inSet first rest _ => first.canBeKey && canBeKeys rest
  | .isNull _ => true

end

end BoundSql
