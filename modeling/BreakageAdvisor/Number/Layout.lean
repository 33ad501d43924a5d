import BreakageAdvisor.Number.Shortest
import BreakageAdvisor.Text.Basic

/-!
# The text of a floating-point number

Numbers are written with their shortest digits: positionally, with at least one place after the
point, when the leading digit stands between `10 ^ -4` and `10 ^ 15`, otherwise with an exponent of
a sign and at least two digits.
-/

namespace BreakageAdvisor

namespace Decimal

/-- The text of a positive decimal. -/
def layout (d : Decimal) : Text :=
  let digits := Text.ofNat d.digits
  let zero : CodePoint := '0'
  let point : CodePoint := '.'
  let lead := d.exponent + digits.length - 1
  if -4 ≤ lead ∧ lead < 16 then
    if 0 ≤ d.exponent then digits ++ List.replicate d.exponent.toNat zero ++ [point, zero]
    else
      let places := (-d.exponent).toNat
      if places < digits.length then
        digits.take (digits.length - places) ++ [point] ++ digits.drop (digits.length - places)
      else [zero, point] ++ List.replicate (places - digits.length) zero ++ digits
  else
    let fraction := if digits.length = 1 then [] else point :: digits.drop 1
    let sign : CodePoint := if lead < 0 then '-' else '+'
    let mark : CodePoint := 'e'
    digits.take 1 ++ fraction ++ [mark, sign] ++ Text.ofDigits 10 2 lead.natAbs

end Decimal

namespace Binary64

/-- The words for the values that have no digits. -/
structure Words where
  nan : Text
  infinity : Text

/-- The text of a number, with the given words for the values that have no digits. -/
def write (words : Words) : Binary64 → Text
  | .nan => words.nan
  | .infinite negative =>
    if negative then CodePoint.ofChar '-' :: words.infinity else words.infinity
  | .finite negative mantissa exponent =>
    let size : Text :=
      if mantissa = 0 then "0.0" else (Decimal.shortest mantissa exponent).layout
    if negative then CodePoint.ofChar '-' :: size else size

end Binary64

end BreakageAdvisor
