import BoundSql.Value

/-!
# The number that a value stands for

Truth values, integers and floating-point numbers are compared exactly. The
decimal text of a floating-point number stands for the nearest multiple of a
power of two with a 53-bit coefficient, so that it can be compared with an
integer of any size.
-/

namespace BoundSql

/-- A rational number, one of the two infinities, or no number at all. -/
inductive Number where
  /-- Negative infinity. -/
  | least
  /-- A rational number. -/
  | rational (q : Rat)
  /-- Positive infinity. -/
  | greatest
  /-- No number, which is neither equal to nor less than anything. -/
  | undefined
deriving DecidableEq

namespace Number

/-- Whether the numbers are equal. -/
def same : Number → Number → Bool
  | least, least => true
  | rational p, rational q => p == q
  | greatest, greatest => true
  | _, _ => false

/-- Whether the first number is less than the second. -/
def less : Number → Number → Bool
  | undefined, _ => false
  | _, undefined => false
  | least, least => false
  | least, _ => true
  | rational p, rational q => decide (p < q)
  | rational _, greatest => true
  | _, _ => false

/-- The quotient rounded to the nearest natural number, a half to the even one. -/
def roundHalfEven (num den : Nat) : Nat :=
  let q := num / den
  let r := num % den
  if 2 * r < den then q else if den < 2 * r then q + 1 else q + q % 2

/-- The exponent of the greatest power of two that is not above the quotient. -/
def binaryExponent (num den : Nat) : Int :=
  let k : Int := (Nat.log2 num : Int) - (Nat.log2 den : Int)
  if num <<< (-k).toNat < den <<< k.toNat then k - 1 else k

/-- The floating-point number nearest to the quotient. -/
def nearestBinary (num den : Nat) : Rat :=
  if num = 0 then 0
  else
    let e := max (-1074) (binaryExponent num den - 52)
    let coefficient := roundHalfEven (num <<< (-e).toNat) (den <<< e.toNat)
    mkRat (coefficient <<< e.toNat) (1 <<< (-e).toNat)

/-- The number that a run of decimal digits writes. -/
def ofDigits (digits : List Char) : Nat :=
  digits.foldl (fun n d => 10 * n + (d.toNat - 48)) 0

/-- The integer that digits behind an optional sign write. -/
def ofSignedDigits : List Char → Int
  | '-' :: digits => -(ofDigits digits : Int)
  | '+' :: digits => ofDigits digits
  | digits => ofDigits digits

/-- The floating-point number that an unsigned decimal text writes. -/
def ofDecimal (text : List Char) : Rat :=
  let whole := text.takeWhile Char.isDigit
  let afterWhole := text.dropWhile Char.isDigit
  let fraction :=
    match afterWhole with
    | '.' :: rest => rest.takeWhile Char.isDigit
    | _ => []
  let exponent :=
    match text.dropWhile (· != 'e') with
    | 'e' :: rest => ofSignedDigits rest
    | _ => 0
  let scale : Int := exponent - fraction.length
  nearestBinary (ofDigits (whole ++ fraction) * Nat.pow 10 scale.toNat)
    (Nat.pow 10 (-scale).toNat)

/-- The number that the text of a floating-point number writes. -/
def ofLiteral (literal : String) : Number :=
  match literal.toList with
  | ['n', 'a', 'n'] => undefined
  | ['i', 'n', 'f'] => greatest
  | ['-', 'i', 'n', 'f'] => least
  | '-' :: rest => rational (-ofDecimal rest)
  | text => rational (ofDecimal text)

/-- The number of an integer. -/
def ofInt (n : Int) : Number :=
  rational n

/-- Equality is symmetric. -/
theorem same_comm (a b : Number) : same a b = same b a := by
  cases a <;> cases b <;> simp [same, Bool.beq_comm]

/-- No number is less than itself. -/
theorem less_irrefl (a : Number) : less a a = false := by
  cases a with
  | rational q => exact decide_eq_false Rat.lt_irrefl
  | _ => rfl

end Number

/-- The number that a value stands for, if it is of a kind that counts as a number. -/
def Value.number? : Value → Option Number
  | .bool b => some (.ofInt (if b then 1 else 0))
  | .int n => some (.ofInt n)
  | .float literal => some (.ofLiteral literal)
  | _ => none

end BoundSql
