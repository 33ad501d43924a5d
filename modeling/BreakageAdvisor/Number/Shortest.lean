import BreakageAdvisor.Number.Binary64

/-!
# The shortest decimal of a floating-point number

The decimal written for a number is the one with the fewest digits among those that read back to
the number; of several with as few digits the nearest one, and of two equally near ones the one
that ends in an even digit.
-/

namespace BreakageAdvisor

/-- A positive decimal, `digits · 10 ^ exponent`. -/
structure Decimal where
  digits : Nat
  exponent : Int
  deriving DecidableEq, Repr

namespace Decimal

/-- Compares `a · 10 ^ i` with `n · 2 ^ j`. -/
def compareScaled (a : Nat) (i : Int) (n : Nat) (j : Int) : Ordering :=
  compare (a * power 10 i * power 2 (-j)) (n * power 2 j * power 10 (-i))

/-- Whether a decimal is among the reals that round to `mantissa · 2 ^ exponent`: between the
midpoints to both neighbours, ends included when the mantissa is even. The neighbour below a power
of two is at half the distance. -/
def readsBackTo (mantissa : Nat) (exponent : Int) (d : Decimal) : Bool :=
  let narrow := mantissa == power 2 52 && exponent != -1074
  let low := if narrow then 4 * mantissa - 1 else 4 * mantissa - 2
  let high := 4 * mantissa + 2
  let closed := mantissa % 2 == 0
  let above := compareScaled d.digits d.exponent low (exponent - 2)
  let below := compareScaled d.digits d.exponent high (exponent - 2)
  (above == .gt || (closed && above == .eq)) && (below == .lt || (closed && below == .eq))

/-- The least `k` with `mantissa · 2 ^ exponent < 10 ^ k`, found near an estimate from the binary
logarithm. -/
def magnitude (mantissa : Nat) (exponent : Int) : Int :=
  let guess := Int.fdiv (((mantissa.log2 : Int) + exponent) * 30103) 100000
  if compareScaled 1 guess mantissa exponent == .gt then guess
  else if compareScaled 1 (guess + 1) mantissa exponent == .gt then guess + 1
  else guess + 2

/-- The better of the two neighbours of `mantissa · 2 ^ exponent` among the multiples of
`10 ^ grid`, if one of them reads back. -/
def onGrid? (mantissa : Nat) (exponent : Int) (grid : Int) : Option Decimal :=
  let num := mantissa * power 2 exponent * power 10 (-grid)
  let den := power 2 (-exponent) * power 10 grid
  let floor := num / den
  let lower : Decimal := ⟨floor, grid⟩
  let upper : Decimal := ⟨floor + 1, grid⟩
  match floor != 0 && readsBackTo mantissa exponent lower, readsBackTo mantissa exponent upper with
  | true, true =>
    match compare (2 * num) ((2 * floor + 1) * den) with
    | .lt => some lower
    | .gt => some upper
    | .eq => some (if floor % 2 = 0 then lower else upper)
  | true, false => some lower
  | false, true => some upper
  | false, false => none

/-- The same decimal without trailing zeros; `fuel` bounds their number. -/
def stripZeros : Nat → Decimal → Decimal
  | 0, d => d
  | fuel + 1, d =>
    if d.digits ≠ 0 ∧ d.digits % 10 = 0 then stripZeros fuel ⟨d.digits / 10, d.exponent + 1⟩ else d

/-- The exact decimal of `mantissa · 2 ^ exponent`. -/
def exact (mantissa : Nat) (exponent : Int) : Decimal :=
  ⟨mantissa * power 2 exponent * power 5 (-exponent), -((-exponent).toNat : Int)⟩

/-- The shortest decimal that reads back to a positive number. Seventeen digits always suffice;
the exact decimal stands for that bound. -/
def shortest (mantissa : Nat) (exponent : Int) : Decimal :=
  let top := magnitude mantissa exponent
  let found := (List.range 17).findSome? fun n => onGrid? mantissa exponent (top - (n + 1 : Nat))
  let d := found.getD (exact mantissa exponent)
  stripZeros 400 d

end Decimal

end BreakageAdvisor
