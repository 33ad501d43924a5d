/-!
# Code points and texts

Texts come from JSON documents, whose escapes can name any code point, also one half of a
surrogate pair. So a text is a list of code points, and the halves are told apart by `isScalar`.
-/

namespace BreakageAdvisor

/-- A Unicode code point, surrogates included. -/
abbrev CodePoint := Fin 0x110000

/-- There are code points. -/
instance CodePoint.instNeZero : @NeZero Nat Zero.ofOfNat0 0x110000 := ⟨Nat.succ_ne_zero 0x10FFFF⟩

/-- A text: a list of code points. -/
abbrev Text := List CodePoint

/-- Equal texts are the same text. -/
instance Text.instLawfulBEq : LawfulBEq Text := inferInstance

/-- The code point of a character. -/
def CodePoint.ofChar (c : Char) : CodePoint :=
  if h : c.toNat < 0x110000 then ⟨c.toNat, h⟩ else 0

instance : Coe Char CodePoint := ⟨CodePoint.ofChar⟩

/-- Whether a code point is a Unicode scalar value, that is no surrogate. -/
def CodePoint.isScalar (c : CodePoint) : Bool := c.val < 0xD800 || 0xE000 ≤ c.val

namespace Text

/-- The text of a string literal. -/
def ofString (s : String) : Text := s.toList.map CodePoint.ofChar

instance : Coe String Text := ⟨ofString⟩

/-- The string of a text; surrogates, which no string holds, become U+FFFD. -/
def toString (t : Text) : String :=
  String.ofList (t.map fun c => if c.isScalar then Char.ofNat c.val else Char.ofNat 0xFFFD)

/-- Whether a text can be encoded, that is holds no surrogate. -/
def isScalar (t : Text) : Bool := t.all (·.isScalar)

/-- The text without a given beginning, if it begins so. -/
def dropPrefix? : Text → Text → Option Text
  | [], t => some t
  | _ :: _, [] => none
  | p :: ps, c :: t => if p = c then dropPrefix? ps t else none

/-- Whether the first text is the beginning of the second. -/
def isPrefixOf (p t : Text) : Bool := (dropPrefix? p t).isSome

/-- Whether the first text occurs in the second. -/
def occursIn (p : Text) : Text → Bool
  | [] => p.isEmpty
  | c :: t => isPrefixOf p (c :: t) || occursIn p t

/-- The parts between the places where a code point satisfies `p`: one more than such places. -/
def splitWhere (p : CodePoint → Bool) : Text → List Text
  | [] => [[]]
  | c :: t =>
    match splitWhere p t with
    | [] => [[]]
    | first :: rest => if p c then [] :: first :: rest else (c :: first) :: rest

/-- Texts joined with a separator. -/
def join (separator : Text) : List Text → Text
  | [] => []
  | [t] => t
  | t :: ts => t ++ separator ++ join separator ts

/-- The part before the first occurrence of a code point and the part after it, if it occurs. -/
def splitFirst? (c : CodePoint) : Text → Option (Text × Text)
  | [] => none
  | d :: t =>
    if d = c then some ([], t)
    else match splitFirst? c t with
      | some (before, after) => some (d :: before, after)
      | none => none

/-- What follows the last occurrence of a code point, or the whole text. -/
def afterLast (c : CodePoint) (t : Text) : Text :=
  (t.reverse.takeWhile (· != c)).reverse

/-- The digits of a number in a base up to 16, at least `width` of them. -/
def ofDigits (base width n : Nat) : Text :=
  let digits := (Nat.toDigits base n).map CodePoint.ofChar
  List.replicate (width - digits.length) (CodePoint.ofChar '0') ++ digits

/-- A natural number in decimal. -/
def ofNat (n : Nat) : Text := ofDigits 10 1 n

/-- An integer in decimal. -/
def ofInt (n : Int) : Text :=
  if n < 0 then CodePoint.ofChar '-' :: ofNat n.natAbs else ofNat n.natAbs

/-- The order of texts by code point. -/
def before : Text → Text → Bool
  | _, [] => false
  | [], _ :: _ => true
  | a :: s, b :: t => if a = b then before s t else a.val < b.val

/-- Carriage returns, alone or before a line feed, read as line feeds. -/
def unifyNewlines : Text → Text
  | [] => []
  | c :: t =>
    if c.val = 13 then
      match t with
      | d :: rest =>
        if d.val = 10 then 10 :: unifyNewlines rest else 10 :: unifyNewlines (d :: rest)
      | [] => [10]
    else c :: unifyNewlines t

end Text

end BreakageAdvisor
