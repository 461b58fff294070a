import BoundSql.Sorting.Pending
import BoundSql.Value.Equality

/-!
# The order of values

Numbers are ordered among themselves, and so are texts by code point, strings
of bytes by byte, and tuples by their first members that differ. Sets and views
of keys are ordered by inclusion, so that of two of them neither need be less
than the other. Two values of any other kinds have no order. Values are sorted by
merging ascending runs, and they have no sorted form when a comparison on the way
fails.
-/

namespace BoundSql

mutual

/-- Whether the first value is less than the second, if the two can be compared. -/
def Value.less? : Value → Value → Option Bool
  | .bool b, other => numberLess? (.ofInt (if b then 1 else 0)) other
  | .int n, other => numberLess? (.ofInt n) other
  | .float literal, other => numberLess? (.ofLiteral literal) other
  | .text s, .text t => some (decide (s < t))
  | .bytes bs, .bytes cs => some (decide (bs < cs))
  | .tuple items, .tuple others => itemsLess? items others
  | .set _ members, other => membersLess? members other
  | .keys members, other => membersLess? members other
  | _, _ => none
where
  /-- Whether a number is less than the one that a value stands for. -/
  numberLess? (n : Number) (other : Value) : Option Bool :=
    other.number?.map n.less
  /-- Whether a set has all of some members and one more. -/
  membersLess? (members : List Value) (other : Value) : Option Bool :=
    other.setMembers?.map fun others =>
      decide (members.length < others.length) && itemsAmong members others

/-- Whether the first of two lists comes first by the first members that differ. -/
def itemsLess? : List Value → List Value → Option Bool
  | [], [] => some false
  | [], _ :: _ => some true
  | _ :: _, [] => some false
  | v :: rest, w :: others => if v.same w then itemsLess? rest others else v.less? w

end

/-- The values in ascending order. -/
def ascending? (values : List Value) : Option (List Value) :=
  Sorting.sorted? Value.less? values

/-- Sorting keeps all values. -/
theorem perm_of_ascending? {values sorted : List Value} (h : ascending? values = some sorted) :
    sorted.Perm values :=
  Sorting.perm_of_sorted? h

end BoundSql
