import BreakageAdvisor.Text.LetterCase

/-!
# Encoded labels of domain names

A label of a domain name that begins with `xn--` writes a label with code points beyond ASCII: the
ASCII code points, then variable-length numbers in base 36 that say where to insert the others.
-/

namespace BreakageAdvisor

namespace Punycode

/-- The value of a digit in base 36, letters first. -/
def digit? (c : CodePoint) : Option Nat :=
  if 97 ≤ c.val ∧ c.val ≤ 122 then some (c.val - 97)
  else if 65 ≤ c.val ∧ c.val ≤ 90 then some (c.val - 65)
  else if 48 ≤ c.val ∧ c.val ≤ 57 then some (c.val - 22)
  else none

/-- The least digit that does not end a number, at a position of it. -/
def threshold (position bias : Nat) : Nat := min 26 (max 1 (36 * (position + 1) - bias))

/-- Scales a distance down; the number of divisions, times 36, and what remains. -/
def scale : Nat → Nat → Nat → Nat × Nat
  | 0, delta, divisions => (divisions, delta)
  | fuel + 1, delta, divisions =>
    if 455 < delta then scale fuel (delta / 35) (divisions + 36) else (divisions, delta)

/-- The bias after a number. -/
def adapt (delta : Nat) (first : Bool) (size : Nat) : Nat :=
  let delta := if first then delta / 700 else delta / 2
  let delta := delta + delta / size
  let (divisions, delta) := scale delta delta 0
  divisions + 36 * delta / (delta + 38)

/-- The state of decoding: the label so far, the code point and the place of the latest insertion,
the bias, and the number that is being read. -/
structure State where
  label : Text
  point : Nat
  place : Int
  bias : Nat
  first : Bool
  value : Nat
  weight : Nat
  position : Nat

/-- Inserts the code point that a finished number gives. -/
def insert? (s : State) (delta : Nat) : Option State :=
  let size := s.label.length + 1
  let place := (s.place + delta + 1).toNat
  let point := s.point + place / size
  if 0x10FFFF < point then none
  else
    let place := place % size
    let label := s.label.take place ++ [CodePoint.ofNat point] ++ s.label.drop place
    some ⟨label, point, place, adapt delta s.first size, false, 0, 1, 0⟩

/-- Reads the numbers of an encoded label. -/
def readNumbers? : State → Text → Option Text
  | s, [] => if s.position = 0 then some s.label else none
  | s, c :: rest =>
    match digit? c with
    | none => none
    | some digit =>
      let limit := threshold s.position s.bias
      let value := s.value + digit * s.weight
      if digit < limit then (insert? s value).bind fun s => readNumbers? s rest
      else readNumbers?
        { s with value, weight := s.weight * (36 - limit), position := s.position + 1 } rest

/-- Decodes what follows the mark of an encoded label. -/
def decode? (t : Text) : Option Text :=
  let numbers := Text.afterLast '-' t
  let label := if numbers.length = t.length then [] else t.take (t.length - numbers.length - 1)
  if t.isEmpty || t.getLast? == some '-' || label.any (128 ≤ ·.val) then none
  else readNumbers? ⟨label, 0x80, -1, 72, true, 0, 1, 0⟩ numbers

/-- A label in lower case, decoded if it is encoded and can be decoded. -/
def normalLabel (label : Text) : Text :=
  let small := label.lower
  match Text.dropPrefix? "xn--" small with
  | some encoded => (decode? encoded).getD small
  | none => small

end Punycode

end BreakageAdvisor
