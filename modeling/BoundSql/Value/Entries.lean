import BoundSql.Value.Items
import BoundSql.Value.Order

/-!
# Entries under distinct keys

Entries keep the order in which their keys were first given. A key that is
given again keeps its place and takes the new value. Entries are merged from a
mapping or from any items that are pairs, one after the other, so that those
before an item that is no pair, or that cannot be read, have been merged when it
is refused.
-/

namespace BoundSql

/-- Entries in the order in which their keys were first given. -/
abbrev Entries : Type := List (Value × Value)

namespace Entries

/-- The entries with a value under a key. -/
def put (key value : Value) : Entries → Entries
  | [] => [(key, value)]
  | (k, v) :: rest =>
    if k.same key then (k, value) :: rest else (k, v) :: put key value rest

/-- The two items of a pair. -/
def pair (item : Value) : Except Misuse (Value × Value) := do
  match ← item.items with
  | [key, value] => return (key, value)
  | _ => throw .notPair

/-- The entries with the pairs of a list put in one after the other, up to the first
item that is no pair with a key in front. -/
def putPairs (entries : Entries) : List Value → Entries × Option Misuse
  | [] => (entries, none)
  | item :: rest =>
    match pair item with
    | .error misuse => (entries, some misuse)
    | .ok (key, value) =>
      if key.canBeKey then putPairs (entries.put key value) rest
      else (entries, some .notKey)

/-- The entries with those of a mapping, or the pairs that are read of another value,
put in. -/
def merge (entries : Entries) (data : Value) : Entries × Option Misuse :=
  match data with
  | .mapping added => (added.foldl (fun entries e => entries.put e.1 e.2) entries, none)
  | data =>
    match putPairs entries data.reading.1 with
    | (merged, none) => (merged, data.reading.2)
    | (merged, some misuse) => (merged, some misuse)

/-- The entries with a value under a key that has to be fit for one. -/
def add (entries : Entries) (key value : Value) : Except Misuse Entries :=
  if key.canBeKey then .ok (entries.put key value) else .error .notKey

/-- Distinct entries from a list in which keys may be repeated. -/
def ofList (given : List (Value × Value)) : Except Misuse Entries :=
  given.foldlM (fun entries e => entries.add e.1 e.2) []

/-- Putting in a value changes no key, and adds the key behind the others when none of
them is equal to it. -/
theorem map_fst_put (key value : Value) (entries : Entries) :
    (entries.put key value).map Prod.fst =
      if entries.any fun e => e.1.same key then entries.map Prod.fst
      else entries.map Prod.fst ++ [key] := by
  induction entries with
  | nil => rfl
  | cons e rest ih =>
    obtain ⟨k, v⟩ := e
    simp only [put, List.any_cons]
    by_cases h : k.same key = true
    · simp [h]
    · simp only [h, Bool.false_or, Bool.false_eq_true, if_false, List.map_cons, ih]
      split <;> rfl

/-- Pairs can be put in in two runs, of which the second is left out when the first is
refused. -/
theorem putPairs_append (entries : Entries) (items others : List Value) :
    entries.putPairs (items ++ others) =
      match entries.putPairs items with
      | (merged, none) => merged.putPairs others
      | (merged, some misuse) => (merged, some misuse) := by
  induction items generalizing entries with
  | nil => rfl
  | cons item rest ih =>
    simp only [List.cons_append, putPairs]
    split
    · rfl
    · split
      · exact ih _
      · rfl

/-- Putting in a value adds at most one entry. -/
theorem length_put_le (key value : Value) (entries : Entries) :
    (entries.put key value).length ≤ entries.length + 1 := by
  induction entries with
  | nil => simp [put]
  | cons e rest ih =>
    obtain ⟨k, v⟩ := e
    simp only [put]
    split
    · simp
    · simpa using ih

end Entries

/-- The distinct values of a list, the first of equal ones kept. -/
def distinct (values : List Value) : List Value :=
  (values.foldl (fun entries v =>
    if entries.any fun w => w.same v then entries else v :: entries) []).reverse

/-- A set of the values of a list, in ascending order when they have one. -/
def Value.setOf (frozen : Bool) (values : List Value) : Except Misuse Value :=
  if values.all Value.canBeKey then
    let members := distinct values
    .ok (.set frozen ((ascending? members).getD members))
  else .error .notKey

/-- A view of the distinct keys of a list. -/
def Value.keysOf (given : List Value) : Except Misuse Value :=
  (Entries.ofList (given.map fun k => (k, .null))).map fun entries =>
    .keys (entries.map Prod.fst)

/-- The integers from one on in steps that are not zero, short of another. -/
def Value.rangeOf (start stop step : Int) : Except Misuse Value :=
  if step = 0 then .error .zeroStep else .ok (.range start stop step)

end BoundSql
