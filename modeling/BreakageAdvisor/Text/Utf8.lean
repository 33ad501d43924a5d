import BreakageAdvisor.Text.Basic

/-!
# UTF-8

Encoding refuses surrogates, decoding refuses everything that is not the shortest encoding of a
scalar value. Errors give the offending range and why it is refused.
-/

namespace BreakageAdvisor

/-- A sequence of bytes. -/
abbrev Bytes := List UInt8

/-- Why bytes are not UTF-8. -/
inductive DecodeError where
  /-- A byte that starts no code point, and its offset. -/
  | badStart (byte : UInt8) (offset : Nat)
  /-- A code point broken off by a byte that does not continue it: the first byte, its offset, and
  how many bytes went well. -/
  | badContinuation (byte : UInt8) (offset count : Nat)
  /-- The bytes end within a code point. -/
  | truncated (byte : UInt8) (offset count : Nat)
  deriving DecidableEq, Repr

/-- Why a text has no UTF-8 encoding: surrogates at an offset. -/
structure EncodeError where
  surrogate : CodePoint
  offset : Nat
  count : Nat
  deriving DecidableEq, Repr

namespace DecodeError

/-- The offending bytes, for messages. -/
private def place (byte : UInt8) (offset count : Nat) : Text :=
  if count = 1 then
    "byte 0x" ++ Text.ofDigits 16 2 byte.toNat ++ " in position " ++ Text.ofNat offset
  else
    "bytes in position " ++ Text.ofNat offset ++ "-" ++ Text.ofNat (offset + count - 1)

/-- The wording of an error. -/
def message : DecodeError → Text
  | badStart byte offset =>
    "'utf-8' codec can't decode " ++ place byte offset 1 ++ ": invalid start byte"
  | badContinuation byte offset count =>
    "'utf-8' codec can't decode " ++ place byte offset count ++ ": invalid continuation byte"
  | truncated byte offset count =>
    "'utf-8' codec can't decode " ++ place byte offset count ++ ": unexpected end of data"

end DecodeError

/-- The wording of an encoding error. -/
def EncodeError.message (e : EncodeError) : Text :=
  if e.count = 1 then
    "'utf-8' codec can't encode character '\\u" ++ Text.ofDigits 16 4 e.surrogate.val
      ++ "' in position " ++ Text.ofNat e.offset ++ ": surrogates not allowed"
  else
    "'utf-8' codec can't encode characters in position " ++ Text.ofNat e.offset ++ "-"
      ++ Text.ofNat (e.offset + e.count - 1) ++ ": surrogates not allowed"

namespace Text

/-- The bytes of one scalar value. -/
def encodePoint (c : CodePoint) : Bytes :=
  let n := c.val
  let low (shift : Nat) : UInt8 := UInt8.ofNat (0x80 + n / Nat.pow 2 shift % 0x40)
  if n < 0x80 then [UInt8.ofNat n]
  else if n < 0x800 then [UInt8.ofNat (0xC0 + n / 0x40), low 0]
  else if n < 0x10000 then [UInt8.ofNat (0xE0 + n / 0x1000), low 6, low 0]
  else [UInt8.ofNat (0xF0 + n / 0x40000), low 12, low 6, low 0]

/-- The UTF-8 encoding of a text. -/
def encode (t : Text) : Except EncodeError Bytes :=
  match t.dropWhile (·.isScalar) with
  | [] => .ok (t.flatMap encodePoint)
  | c :: rest =>
    .error ⟨c, t.length - rest.length - 1, 1 + (rest.takeWhile (!·.isScalar)).length⟩

/-- Whether a byte continues a code point. -/
def continues (b : UInt8) : Bool := 0x80 ≤ b.toNat && b.toNat < 0xC0

/-- Whether the second byte fits the first one: no overlong form, no surrogate, nothing above
U+10FFFF. -/
def continuesFirst (first second : UInt8) : Bool :=
  continues second &&
    match first.toNat with
    | 0xE0 => 0xA0 ≤ second.toNat
    | 0xED => second.toNat < 0xA0
    | 0xF0 => 0x90 ≤ second.toNat
    | 0xF4 => second.toNat < 0x90
    | _ => true

/-- The code point that a first byte and its continuation bytes write. -/
def assemble (start : Nat) (rest : List UInt8) : CodePoint :=
  Fin.ofNat _ (rest.foldl (fun n b => n * 0x40 + (b.toNat - 0x80)) start)

/-- Decodes bytes that start at an offset; `read` holds the code points in front of them, the last
first. -/
def decodeFrom (offset : Nat) (read : Text) : Bytes → Except DecodeError Text
  | [] => .ok read.reverse
  | a :: rest =>
    if a.toNat < 0x80 then decodeFrom (offset + 1) (assemble a.toNat [] :: read) rest
    else if a.toNat < 0xC2 ∨ 0xF5 ≤ a.toNat then .error (.badStart a offset)
    else
      match rest with
      | [] => .error (.truncated a offset 1)
      | b :: rest =>
        if !continuesFirst a b then .error (.badContinuation a offset 1)
        else if a.toNat < 0xE0 then
          decodeFrom (offset + 2) (assemble (a.toNat - 0xC0) [b] :: read) rest
        else
          match rest with
          | [] => .error (.truncated a offset 2)
          | c :: rest =>
            if !continues c then .error (.badContinuation a offset 2)
            else if a.toNat < 0xF0 then
              decodeFrom (offset + 3) (assemble (a.toNat - 0xE0) [b, c] :: read) rest
            else
              match rest with
              | [] => .error (.truncated a offset 3)
              | d :: rest =>
                if !continues d then .error (.badContinuation a offset 3)
                else decodeFrom (offset + 4) (assemble (a.toNat - 0xF0) [b, c, d] :: read) rest

/-- The text that bytes encode. -/
def decode (bytes : Bytes) : Except DecodeError Text := decodeFrom 0 [] bytes

end Text

end BreakageAdvisor
