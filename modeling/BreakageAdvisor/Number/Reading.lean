import BreakageAdvisor.Json.Display
import BreakageAdvisor.Text.CharacterClass

/-!
# Numbers read from values

Where a message or a setting has to give a number, an integer, a truth value or a text of digits is
accepted. Digits of every script count, single underscores may stand between digits, and blanks
around the text are ignored.
-/

namespace BreakageAdvisor

/-- Why a value gives no number. -/
inductive NumberError where
  /-- The text is no integer; it is shown as quoted text. -/
  | badInteger (shown : Text)
  /-- The text is no number. -/
  | badNumber (shown : Text)
  /-- An integer of too many digits. -/
  | tooManyDigits (count : Nat)
  /-- A value that is neither number nor text, where an integer is due. -/
  | noInteger (kind : Json.Kind)
  /-- A value that is neither number nor text, where a number is due. -/
  | noNumber (kind : Json.Kind)
  | infinityAsInteger
  | nanAsInteger
  /-- An integer beyond all floating-point numbers. -/
  | outOfRange
  /-- An integer that would be written with too many digits. -/
  | hugeInteger
  deriving DecidableEq, Repr

/-- The most digits an integer may be read from or written with. -/
def maxIntegerDigits : Nat := 4300

namespace NumberError

/-- The wording of an error. -/
def message : NumberError → Text
  | badInteger shown => "invalid literal for int() with base 10: " ++ shown.take 200
  | badNumber shown => "could not convert string to float: " ++ shown
  | tooManyDigits count =>
    "Exceeds the limit (4300 digits) for integer string conversion: value has "
      ++ Text.ofNat count ++ " digits; use sys.set_int_max_str_digits() to increase the limit"
  | noInteger kind =>
    "int() argument must be a string, a bytes-like object or a real number, not '"
      ++ kind.name ++ "'"
  | noNumber kind =>
    "float() argument must be a string or a real number, not '" ++ kind.name ++ "'"
  | infinityAsInteger => "cannot convert float infinity to integer"
  | nanAsInteger => "cannot convert float NaN to integer"
  | outOfRange => "int too large to convert to float"
  | hugeInteger =>
    "Exceeds the limit (4300 digits) for integer string conversion; use "
      ++ "sys.set_int_max_str_digits() to increase the limit"

end NumberError

/-- The blanks that may surround a number: all but the four ASCII separators. -/
def CodePoint.surroundsNumber (c : CodePoint) : Bool :=
  c.isBlank && !(0x1C ≤ c.val && c.val ≤ 0x1F)

namespace Text

/-- A text without the blanks that may surround a number. -/
def stripAroundNumber (t : Text) : Text :=
  ((t.dropWhile (·.surroundsNumber)).reverse.dropWhile (·.surroundsNumber)).reverse

/-- An optional sign, whether it is a minus, and the rest. -/
def splitSign : Text → Bool × Text
  | [] => (false, [])
  | c :: t => if c = '-' then (true, t) else if c = '+' then (false, t) else (false, c :: t)

/-- The digits of a text in which single underscores may stand between digits; `before` says
whether a digit stands directly before. -/
def groupedDigits? (before : Bool) : Text → Option (List Nat)
  | [] => if before then some [] else none
  | c :: t =>
    match c.digitValue? with
    | some d => (groupedDigits? true t).map (d :: ·)
    | none => if c = '_' ∧ before then groupedDigits? false t else none

/-- The number that decimal digits write. -/
def digitsValue (digits : List Nat) : Nat := digits.foldl (fun n d => 10 * n + d) 0

/-- Removes single underscores between digits; none when one stands elsewhere. `previous` is the
code point before, none at the beginning. -/
def ungroup? (previous : Option CodePoint) : Text → Option Text
  | [] => if previous = some (CodePoint.ofChar '_') then none else some []
  | c :: t =>
    let afterDigit := (previous.bind CodePoint.asciiDigitValue?).isSome
    let afterMark := previous = some (CodePoint.ofChar '_')
    if c = '_' then (if afterDigit then ungroup? (some c) t else none)
    else if afterMark && !c.isAsciiDigit then none
    else (ungroup? (some c) t).map (c :: ·)

/-- Digits of every script as ASCII digits. -/
def westernDigits (t : Text) : Text :=
  t.map fun c => match c.digitValue? with
    | some d => CodePoint.ofChar (Nat.digitChar d)
    | none => c

end Text

namespace Binary64

/-- Reads an unsigned decimal with optional fraction and exponent, in ASCII digits. -/
def ofUnsignedText? (negative : Bool) (t : Text) : Option Binary64 :=
  let whole := t.takeWhile CodePoint.isAsciiDigit
  let rest := t.dropWhile CodePoint.isAsciiDigit
  let (fraction, rest) := match rest with
    | c :: r =>
      if c = '.' then
        (r.takeWhile CodePoint.isAsciiDigit, r.dropWhile CodePoint.isAsciiDigit)
      else ([], rest)
    | [] => ([], [])
  if whole.isEmpty && fraction.isEmpty then none
  else
    let digits := Text.digitsValue ((whole ++ fraction).filterMap CodePoint.asciiDigitValue?)
    let value (exponent : Int) := ofDecimal negative digits (exponent - fraction.length)
    match rest with
    | [] => some (value 0)
    | c :: r =>
      if c = 'e' ∨ c = 'E' then
        let (minus, exponent) := Text.splitSign r
        if exponent.isEmpty || !exponent.all CodePoint.isAsciiDigit then none
        else
          let size : Int := Text.digitsValue (exponent.filterMap CodePoint.asciiDigitValue?)
          some (value (if minus then -size else size))
      else none

/-- Reads a signed decimal, or one of the words for infinity and not-a-number in any case. -/
def ofText? (t : Text) : Option Binary64 :=
  let (negative, size) := Text.splitSign t
  let word := size.map fun c => if 65 ≤ c.val ∧ c.val ≤ 90 then c + 32 else c
  if word = Text.ofString "inf" ∨ word = Text.ofString "infinity" then some (.infinite negative)
  else if word = Text.ofString "nan" then some .nan
  else ofUnsignedText? negative size

end Binary64

namespace Json

/-- The integer that a value gives: numbers are cut towards zero, texts are read. -/
def toInteger : Json → Except NumberError Int
  | .int n => .ok n
  | .bool b => .ok (if b then 1 else 0)
  | .float (.finite negative mantissa exponent) =>
    .ok (Binary64.truncate negative mantissa exponent)
  | .float (.infinite _) => .error .infinityAsInteger
  | .float .nan => .error .nanAsInteger
  | .text t =>
    let (negative, size) := Text.splitSign t.stripAroundNumber
    match Text.groupedDigits? false size with
    | none => .error (.badInteger t.quoted)
    | some digits =>
      if maxIntegerDigits < digits.length then .error (.tooManyDigits digits.length)
      else
        let n : Int := Text.digitsValue digits
        .ok (if negative then -n else n)
  | x => .error (.noInteger x.kind)

/-- The floating-point number that a value gives. -/
def toNumber : Json → Except NumberError Binary64
  | .float x => .ok x
  | .int n => match Binary64.ofInt? n with
    | some x => .ok x
    | none => .error .outOfRange
  | .bool b => .ok (Binary64.ofRatio false (if b then 1 else 0) 1)
  | .text t =>
    match (Text.ungroup? none t.westernDigits.stripAroundNumber).bind Binary64.ofText? with
    | some x => .ok x
    | none => .error (.badNumber t.quoted)
  | x => .error (.noNumber x.kind)

end Json

end BreakageAdvisor
