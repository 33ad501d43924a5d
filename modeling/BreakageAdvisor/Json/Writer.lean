import BreakageAdvisor.Json.Value
import BreakageAdvisor.Number.Reading

/-!
# Writing JSON

Two forms are written: the compact one of frames, in which code points beyond ASCII stand for
themselves, and the spaced one of stored documents, which is ASCII throughout.
-/

namespace BreakageAdvisor

namespace Json

/-- The decisions in which written forms of JSON differ. -/
structure Form where
  itemSeparator : Text
  keySeparator : Text
  /-- Whether all but printable ASCII is escaped. -/
  asciiOnly : Bool

/-- The form of frames. -/
def Form.compact : Form := ⟨",", ":", false⟩

/-- The form of stored documents. -/
def Form.spaced : Form := ⟨", ", ": ", true⟩

/-- Floating-point words in documents. -/
def documentWords : Binary64.Words := ⟨"NaN", "Infinity"⟩

/-- The numeric escape of a 16-bit unit. -/
def unitEscape (n : Nat) : Text :=
  CodePoint.ofChar '\\' :: CodePoint.ofChar 'u' :: Text.ofDigits 16 4 n

/-- The numeric escapes of a code point: a pair of surrogates above U+FFFF. -/
def numericEscape (c : CodePoint) : Text :=
  if c.val < 0x10000 then unitEscape c.val
  else unitEscape (0xD800 + (c.val - 0x10000) / 0x400) ++ unitEscape (0xDC00 + c.val % 0x400)

/-- The written form of one code point of a text. -/
def writePoint (asciiOnly : Bool) (c : CodePoint) : Text :=
  match c.val with
  | 34 => "\\\""
  | 92 => "\\\\"
  | 10 => "\\n"
  | 13 => "\\r"
  | 9 => "\\t"
  | 8 => "\\b"
  | 12 => "\\f"
  | n => if n < 32 || (asciiOnly && 126 < n) then numericEscape c else [c]

/-- The written form of a text. -/
def writeText (asciiOnly : Bool) (t : Text) : Text :=
  CodePoint.ofChar '"' :: t.flatMap (writePoint asciiOnly) ++ [CodePoint.ofChar '"']

mutual

/-- The written form of a value. -/
def write (form : Form) : Json → Text
  | .null => "null"
  | .bool true => "true"
  | .bool false => "false"
  | .int n => Text.ofInt n
  | .float x => x.write documentWords
  | .text t => writeText form.asciiOnly t
  | .list items => "[" ++ Text.join form.itemSeparator (writeItems form items) ++ "]"
  | .object fields => "\x7b" ++ Text.join form.itemSeparator (writeFields form fields) ++ "\x7d"

/-- The written forms of the items of a list. -/
def writeItems (form : Form) : List Json → List Text
  | [] => []
  | x :: xs => write form x :: writeItems form xs

/-- The written forms of the fields of an object. -/
def writeFields (form : Form) : List (Text × Json) → List Text
  | [] => []
  | (k, v) :: rest =>
    (writeText form.asciiOnly k ++ form.keySeparator ++ write form v) :: writeFields form rest

end

mutual

/-- Whether a value holds an integer, however deep, that has more digits than may be written. -/
def hasHugeInteger : Json → Bool
  | .int n => maxIntegerDigits < (Text.ofNat n.natAbs).length
  | .list items => haveHugeInteger items
  | .object fields => fieldsHaveHugeInteger fields
  | _ => false

/-- Whether one of some values holds such an integer. -/
def haveHugeInteger : List Json → Bool
  | [] => false
  | x :: xs => hasHugeInteger x || haveHugeInteger xs

/-- Whether one of some fields holds such an integer. -/
def fieldsHaveHugeInteger : List (Text × Json) → Bool
  | [] => false
  | (_, v) :: rest => hasHugeInteger v || fieldsHaveHugeInteger rest

end

end Json

end BreakageAdvisor
