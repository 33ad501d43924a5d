import BreakageAdvisor.Number.Reading

/-!
# Reading JSON

A document is one value between blanks. Beyond the standard the words NaN, Infinity and -Infinity
are numbers. Errors give their place as line, column and offset in code points.
-/

namespace BreakageAdvisor

namespace Json

/-- What is wrong at a place of a document. -/
inductive SyntaxError where
  | expectedValue
  | expectedKey
  | expectedColon
  | expectedComma
  | extraData
  | unterminatedText
  | controlCharacter
  | badEscape
  | badUnicodeEscape
  | byteOrderMark
  deriving DecidableEq, Repr

/-- The wording of a syntax error. -/
def SyntaxError.message : SyntaxError → Text
  | expectedValue => "Expecting value"
  | expectedKey => "Expecting property name enclosed in double quotes"
  | expectedColon => "Expecting ':' delimiter"
  | expectedComma => "Expecting ',' delimiter"
  | extraData => "Extra data"
  | unterminatedText => "Unterminated string starting at"
  | controlCharacter => "Invalid control character at"
  | badEscape => "Invalid \\escape"
  | badUnicodeEscape => "Invalid \\uXXXX escape"
  | byteOrderMark => "Unexpected UTF-8 BOM (decode using utf-8-sig)"

/-- Why a document cannot be read. -/
inductive ReadError where
  | malformed (what : SyntaxError) (line column offset : Nat)
  /-- An integer of too many digits. -/
  | tooManyDigits (count : Nat)
  deriving DecidableEq, Repr

/-- The wording of an error, with its place. -/
def ReadError.message : ReadError → Text
  | malformed what line column offset =>
    what.message ++ ": line " ++ Text.ofNat line ++ " column " ++ Text.ofNat column
      ++ " (char " ++ Text.ofNat offset ++ ")"
  | tooManyDigits count => (NumberError.tooManyDigits count).message

/-- An error found while scanning; its place is the number of code points from there to the end. -/
inductive Fault where
  | malformed (what : SyntaxError) (remaining : Nat)
  | tooManyDigits (count : Nat)

/-- The blanks of JSON. -/
def isBlank (c : CodePoint) : Bool := c.val = 32 || c.val = 9 || c.val = 10 || c.val = 13

/-- A text without its leading blanks. -/
def skipBlanks (t : Text) : Text := t.dropWhile isBlank

/-- What the scan of a text is within. -/
inductive TextMode where
  | plain
  | escape
  /-- Within the four digits of a numeric escape: the place of its letter, what was read, how many
  digits are left. -/
  | hex (place value left : Nat)

/-- The code point of a simple escape. -/
def simpleEscape? (c : CodePoint) : Option CodePoint :=
  match Char.ofNat c.val with
  | '"' => some '"'
  | '\\' => some '\\'
  | '/' => some '/'
  | 'b' => some 8
  | 'f' => some 12
  | 'n' => some 10
  | 'r' => some 13
  | 't' => some 9
  | _ => none

/-- Adds the code point of a numeric escape to the code points read, the last first. A low
surrogate directly after an escaped high one makes one code point with it. -/
def addEscaped (afterHigh : Bool) (read : Text) (value : Nat) : Text :=
  match afterHigh && 0xDC00 ≤ value && value ≤ 0xDFFF, read with
  | true, high :: rest =>
    Fin.ofNat _ (0x10000 + (high.val - 0xD800) * 0x400 + (value - 0xDC00)) :: rest
  | _, _ => Fin.ofNat _ value :: read

/-- Scans a text after its opening quote, which stands at `start`. `read` holds the code points
read, the last first; `afterHigh` says that the last one is an escaped high surrogate. -/
def scanText (start : Nat) : TextMode → Bool → Text → Text → Except Fault (Text × Text)
  | .plain, _, _, [] => .error (.malformed .unterminatedText start)
  | .plain, afterHigh, read, c :: t =>
    if c = '"' then .ok (read.reverse, t)
    else if c = '\\' then scanText start .escape afterHigh read t
    else if c.val < 32 then .error (.malformed .controlCharacter (t.length + 1))
    else scanText start .plain false (c :: read) t
  | .escape, _, _, [] => .error (.malformed .unterminatedText start)
  | .escape, afterHigh, read, c :: t =>
    if c = 'u' then scanText start (.hex (t.length + 1) 0 4) afterHigh read t
    else match simpleEscape? c with
      | some d => scanText start .plain false (d :: read) t
      | none => .error (.malformed .badEscape (t.length + 2))
  | .hex place _ _, _, _, [] => .error (.malformed .badUnicodeEscape place)
  | .hex place value left, afterHigh, read, c :: t =>
    match c.hexValue? with
    | none => .error (.malformed .badUnicodeEscape place)
    | some digit =>
      let value := 16 * value + digit
      if left = 1 then
        if t.isEmpty then .error (.malformed .badUnicodeEscape place)
        else
          let high := 0xD800 ≤ value && value ≤ 0xDBFF
          scanText start .plain high (addEscaped afterHigh read value) t
      else scanText start (.hex place value (left - 1)) afterHigh read t

/-- The fraction of a number: a point with at least one digit after it. -/
def splitFraction (t : Text) : Text × Text :=
  match t with
  | c :: r =>
    if c = '.' ∧ (r.takeWhile CodePoint.isAsciiDigit).isEmpty = false then
      (r.takeWhile CodePoint.isAsciiDigit, r.dropWhile CodePoint.isAsciiDigit)
    else ([], t)
  | [] => ([], [])

/-- The exponent of a number: its mark, a sign if any, and at least one digit. -/
def splitExponent (t : Text) : Option Int × Text :=
  match t with
  | c :: r =>
    let (negative, digits) := Text.splitSign r
    let size := digits.takeWhile CodePoint.isAsciiDigit
    if (c = 'e' ∨ c = 'E') ∧ size.isEmpty = false then
      let n : Int := Text.digitsValue (size.filterMap CodePoint.asciiDigitValue?)
      (some (if negative then -n else n), digits.dropWhile CodePoint.isAsciiDigit)
    else (none, t)
  | [] => (none, [])

/-- The integer part of a number: a zero alone, or digits that start with another one. -/
def splitWhole (t : Text) : Text × Text :=
  match t with
  | c :: r =>
    if c = '0' then ([c], r)
    else (t.takeWhile CodePoint.isAsciiDigit, t.dropWhile CodePoint.isAsciiDigit)
  | [] => ([], [])

/-- Reads a number without its sign, if one stands here. -/
def scanNumber (negative : Bool) (t : Text) : Except Fault (Option (Json × Text)) :=
  let (whole, afterWhole) := splitWhole t
  if whole.isEmpty then .ok none
  else
    let (fraction, afterFraction) := splitFraction afterWhole
    let (exponent, rest) := splitExponent afterFraction
    let size := Text.digitsValue ((whole ++ fraction).filterMap CodePoint.asciiDigitValue?)
    if fraction.isEmpty && exponent.isNone then
      if maxIntegerDigits < whole.length then .error (.tooManyDigits whole.length)
      else .ok (some (.int (if negative then -(size : Int) else size), rest))
    else
      let power := exponent.getD 0 - fraction.length
      .ok (some (.float (.ofDecimal negative size power), rest))

/-- The words that are values. -/
def words : List (Text × Json) :=
  [("null", .null), ("true", .bool true), ("false", .bool false), ("NaN", .float .nan),
   ("Infinity", .float (.infinite false)), ("-Infinity", .float (.infinite true))]

/-- Reads one of the words that are values. -/
def scanWord? (t : Text) : Option (Json × Text) :=
  words.findSome? fun word => (Text.dropPrefix? word.1 t).map fun rest => (word.2, rest)

mutual

/-- Reads one value that starts here. Every step takes a code point away, so twice the length of
the text is fuel enough. -/
def scanValue : Nat → Text → Except Fault (Json × Text)
  | 0, t => .error (.malformed .expectedValue t.length)
  | _ + 1, [] => .error (.malformed .expectedValue 0)
  | fuel + 1, c :: t =>
    if c = '"' then do
      let (value, rest) ← scanText (t.length + 1) .plain false [] t
      return (.text value, rest)
    else if c = '[' then do
      let t := skipBlanks t
      match t with
      | d :: rest =>
        if d = ']' then return (.list [], rest)
        let (items, rest) ← scanItems fuel t
        return (.list items, rest)
      | [] => .error (.malformed .expectedValue 0)
    else if c = '\x7b' then do
      let t := skipBlanks t
      match t with
      | d :: rest =>
        if d = '\x7d' then return (.object [], rest)
        let (members, rest) ← scanMembers fuel t
        return (.object (Fields.ofList members), rest)
      | [] => .error (.malformed .expectedKey 0)
    else match scanWord? (c :: t) with
      | some found => .ok found
      | none => do
        let (negative, digits) := if c = '-' then (true, t) else (false, c :: t)
        match ← scanNumber negative digits with
        | some found => return found
        | none => .error (.malformed .expectedValue (t.length + 1))

/-- Reads the items of a list from the first one to the closing bracket. -/
def scanItems : Nat → Text → Except Fault (List Json × Text)
  | 0, t => .error (.malformed .expectedValue t.length)
  | fuel + 1, t => do
    let (item, rest) ← scanValue fuel t
    match skipBlanks rest with
    | c :: rest =>
      if c = ']' then return ([item], rest)
      else if c = ',' then
        let (items, rest) ← scanItems fuel (skipBlanks rest)
        return (item :: items, rest)
      else .error (.malformed .expectedComma (rest.length + 1))
    | [] => .error (.malformed .expectedComma 0)

/-- Reads the members of an object from the first key to the closing brace. -/
def scanMembers : Nat → Text → Except Fault (List (Text × Json) × Text)
  | 0, t => .error (.malformed .expectedKey t.length)
  | _ + 1, [] => .error (.malformed .expectedKey 0)
  | fuel + 1, c :: t => do
    if c = '"' then
      let (key, rest) ← scanText (t.length + 1) .plain false [] t
      match skipBlanks rest with
      | d :: rest =>
        if d = ':' then
          let (value, rest) ← scanValue fuel (skipBlanks rest)
          match skipBlanks rest with
          | e :: rest =>
            if e = '\x7d' then return ([(key, value)], rest)
            else if e = ',' then
              let (members, rest) ← scanMembers fuel (skipBlanks rest)
              return ((key, value) :: members, rest)
            else .error (.malformed .expectedComma (rest.length + 1))
          | [] => .error (.malformed .expectedComma 0)
        else .error (.malformed .expectedColon (rest.length + 1))
      | [] => .error (.malformed .expectedColon 0)
    else .error (.malformed .expectedKey (t.length + 1))

end

/-- The fault of a document with its place in it. -/
def Fault.locate (document : Text) : Fault → ReadError
  | .tooManyDigits count => .tooManyDigits count
  | .malformed what remaining =>
    let offset := document.length - remaining
    let before := document.take offset
    let lastLine := before.reverse.takeWhile (·.val != 10)
    .malformed what (before.countP (·.val == 10) + 1) (lastLine.length + 1) offset

/-- Reads a document. -/
def read (document : Text) : Except ReadError Json :=
  match document with
  | c :: _ =>
    if c.val = 0xFEFF then .error (.malformed .byteOrderMark 1 1 0)
    else readFrom document
  | [] => readFrom document
where
  /-- Reads a document that has no byte order mark. -/
  readFrom (document : Text) : Except ReadError Json :=
    match scanValue (2 * document.length + 2) (skipBlanks document) with
    | .error fault => .error (fault.locate document)
    | .ok (value, rest) =>
      match skipBlanks rest with
      | [] => .ok value
      | rest => .error ((Fault.malformed .extraData rest.length).locate document)

end Json

end BreakageAdvisor
