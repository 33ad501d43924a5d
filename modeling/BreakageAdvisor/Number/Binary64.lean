/-!
# Binary floating-point numbers of 64 bits

A finite number is `± mantissa · 2 ^ exponent` with a mantissa below `2 ^ 53` and an exponent from
-1074 to 971; the mantissa reaches `2 ^ 52` unless the exponent is the least one, so every value
has one form. Rounding goes to the nearest value, ties to the even mantissa, and is computed on
exact integers.
-/

namespace BreakageAdvisor

/-- A power with a natural exponent, and one where the exponent is negative. -/
def power (base : Nat) (exponent : Int) : Nat := Nat.pow base exponent.toNat

/-- A floating-point number of 64 bits. All not-a-numbers are one. -/
inductive Binary64 where
  | finite (negative : Bool) (mantissa : Nat) (exponent : Int)
  | infinite (negative : Bool)
  | nan
  deriving DecidableEq, Repr

namespace Binary64

/-- The quotient of two natural numbers, rounded to the nearest, ties to even. -/
def roundQuotient (num den : Nat) : Nat :=
  let quotient := num / den
  match compare (2 * (num % den)) den with
  | .lt => quotient
  | .gt => quotient + 1
  | .eq => if quotient % 2 = 0 then quotient else quotient + 1

/-- Whether `num / den` is at least `2 ^ e`. -/
def atLeastPower (num den : Nat) (e : Int) : Bool :=
  den * power 2 e ≤ num * power 2 (-e)

/-- The number nearest to `num / den`. -/
def ofRatio (negative : Bool) (num den : Nat) : Binary64 :=
  if num = 0 then .finite negative 0 (-1074)
  else
    let guess : Int := (num.log2 : Int) - den.log2
    let top := if atLeastPower num den guess then guess else guess - 1
    let exponent := max (top - 52) (-1074)
    let mantissa := roundQuotient (num * power 2 (-exponent)) (den * power 2 exponent)
    let (mantissa, exponent) :=
      if mantissa = power 2 53 then (power 2 52, exponent + 1) else (mantissa, exponent)
    if 971 < exponent then .infinite negative else .finite negative mantissa exponent

/-- The number nearest to `± digits · 10 ^ exponent`. Powers far outside the range are not
computed. -/
def ofDecimal (negative : Bool) (digits : Nat) (exponent : Int) : Binary64 :=
  if digits = 0 then .finite negative 0 (-1074)
  else if exponent + (digits.log2 / 3 : Nat) < -400 then .finite negative 0 (-1074)
  else if 400 < exponent then .infinite negative
  else ofRatio negative (digits * power 10 exponent) (power 10 (-exponent))

/-- The number nearest to an integer, if it is in range. -/
def ofInt? (n : Int) : Option Binary64 :=
  match ofRatio (n < 0) n.natAbs 1 with
  | .infinite _ => none
  | x => some x

/-- The integer part of a finite number, towards zero. -/
def truncate (negative : Bool) (mantissa : Nat) (exponent : Int) : Int :=
  let size := mantissa * power 2 exponent / power 2 (-exponent)
  if negative then -(size : Int) else size

/-- Whether the number is zero, of either sign. -/
def isZero : Binary64 → Bool
  | .finite _ mantissa _ => mantissa == 0
  | _ => false

/-- Whether the number has exactly the value of an integer. -/
def equalsInt : Binary64 → Int → Bool
  | .finite negative mantissa exponent, n =>
    mantissa * power 2 exponent % power 2 (-exponent) == 0
      && truncate negative mantissa exponent == n
  | _, _ => false

/-- Equality of values: the two zeros are equal, not-a-number equals nothing. -/
def same : Binary64 → Binary64 → Bool
  | .finite s m e, .finite t n f => (m == 0 && n == 0) || (s == t && m == n && e == f)
  | .infinite s, .infinite t => s == t
  | _, _ => false

end Binary64

end BreakageAdvisor
