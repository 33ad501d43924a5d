import BreakageAdvisor.Text.CharacterClass

/-!
# Internet addresses

The written forms of addresses that a bracketed host may have: eight groups of hexadecimal digits,
one run of zero groups abbreviated, the last two groups possibly in dotted decimal, and an optional
scope after a percent sign; or an address of a future version.
-/

namespace BreakageAdvisor

namespace Address

/-- Whether a text is one of the four numbers of a dotted decimal address: at most three digits,
no leading zero, at most 255. -/
def isOctet (t : Text) : Bool :=
  !t.isEmpty && t.length ≤ 3 && t.all CodePoint.isAsciiDigit
    && (t.length == 1 || t.head? != some '0')
    && t.foldl (fun n c => 10 * n + (c.val - 48)) 0 ≤ 255

/-- Whether a text is an address in dotted decimal. -/
def isDotted (t : Text) : Bool :=
  let parts := t.splitWhere (· == '.')
  parts.length == 4 && parts.all isOctet

/-- Whether a text is one of the groups of an address: one to four hexadecimal digits. -/
def isGroup (t : Text) : Bool :=
  !t.isEmpty && t.length ≤ 4 && t.all fun c => c.hexValue?.isSome

/-- The parts of an address between colons; two groups stand for a dotted decimal at the end. -/
def parts? (t : Text) : Option (List Text) :=
  let parts := t.splitWhere (· == ':')
  match parts.reverse with
  | [] => none
  | last :: before =>
    if parts.length < 3 then none
    else if last.contains (CodePoint.ofChar '.') then
      if isDotted last then
        some (before.reverse ++ [[CodePoint.ofChar '0'], [CodePoint.ofChar '0']])
      else none
    else some parts

/-- Whether parts are those of an address in which the groups in the middle are abbreviated; `high`
are the parts before the empty one and `low` those after it. An empty part at an end belongs to the
abbreviation and may stand beside it only. -/
def isAbbreviated (high low : List Text) : Bool :=
  let high := if high.head? == some [] then high.drop 1 else high
  let lowEmpty := low.getLast? == some []
  let low := if lowEmpty then low.dropLast else low
  high.all isGroup && low.all isGroup && high.length + low.length < 8

/-- Whether an end of the parts is empty without an abbreviation beside it. -/
def hasStrayEnd (high low : List Text) : Bool :=
  (high.head? == some [] && 1 < high.length) || (low.getLast? == some [] && 1 < low.length)

/-- Whether parts are those of an address. -/
def arePartsValid (parts : List Text) : Bool :=
  let inner := (parts.drop 1).dropLast
  match inner.findIdx? (·.isEmpty) with
  | none => parts.length == 8 && parts.all isGroup
  | some i =>
    let high := parts.take (i + 1)
    let low := parts.drop (i + 2)
    parts.length ≤ 9 && inner.countP (·.isEmpty) == 1 && !hasStrayEnd high low
      && isAbbreviated high low

/-- Whether a text is an address of 128 bits. -/
def isIPv6 (t : Text) : Bool :=
  let (address, scopeValid) := match Text.splitFirst? '%' t with
    | none => (t, true)
    | some (address, zone) => (address, !zone.isEmpty && !zone.contains (CodePoint.ofChar '%'))
  scopeValid && (match parts? address with
    | some parts => arePartsValid parts
    | none => false)

/-- Whether a text is an address of a future version: `v`, hexadecimal digits, a point and more. -/
def isFuture (t : Text) : Bool :=
  match t with
  | [] => false
  | c :: rest =>
    let digits := rest.takeWhile fun c => c.hexValue?.isSome
    let after := rest.drop digits.length
    c == 'v' && !digits.isEmpty && after.head? == some '.' && 1 < after.length
      && after.all (·.val != 10)

/-- Whether a text may stand between the brackets of a host. -/
def isBracketed (t : Text) : Bool := if t.head? == some 'v' then isFuture t else isIPv6 t

end Address

end BreakageAdvisor
