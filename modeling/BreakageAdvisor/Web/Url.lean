import BreakageAdvisor.Text.LetterCase
import BreakageAdvisor.Web.Address

/-!
# Hosts of URLs

The host of a URL is taken from its authority, the part after a double slash. It is in lower case
up to a percent sign. A URL whose authority is malformed has no host.
-/

namespace BreakageAdvisor

namespace Url

/-- Whether a code point may stand in the scheme of a URL. -/
def isSchemePoint (c : CodePoint) : Bool :=
  (65 ≤ c.val && c.val ≤ 90) || (97 ≤ c.val && c.val ≤ 122) || c.isAsciiDigit
    || c == '+' || c == '-' || c == '.'

/-- A URL without control characters and blanks before it and without tabs and line ends in it. -/
def clean (url : Text) : Text :=
  (url.dropWhile (·.val ≤ 32)).filter fun c => c.val != 9 && c.val != 10 && c.val != 13

/-- A URL without its scheme. -/
def dropScheme (url : Text) : Text :=
  match Text.splitFirst? ':' url with
  | some (scheme, rest) =>
    match scheme with
    | c :: _ =>
      if scheme.all isSchemePoint && isSchemePoint c && 65 ≤ c.val then rest else url
    | [] => url
  | none => url

/-- The authority of a URL without its scheme, if it has one. -/
def authority? (rest : Text) : Option Text :=
  (Text.dropPrefix? "//" rest).map fun t =>
    t.takeWhile fun c : CodePoint => c != '/' && c != '?' && c != '#'

/-- The code points whose compatibility form holds a delimiter of URLs. -/
def disguisedDelimiters : List Nat :=
  [0x2047, 0x2048, 0x2049, 0x2100, 0x2101, 0x2105, 0x2106, 0x2A74, 0xFE13, 0xFE16, 0xFE55, 0xFE56,
   0xFE5F, 0xFE6B, 0xFF03, 0xFF0F, 0xFF1A, 0xFF1F, 0xFF20]

/-- The part of an authority that names the host and the port. -/
def hostAndPort (authority : Text) : Text := Text.afterLast '@' authority

/-- The host of an authority, without brackets, its case as it is. -/
def rawHost (authority : Text) : Text :=
  let part := hostAndPort authority
  match Text.splitFirst? '[' part with
  | some (_, bracketed) => bracketed.takeWhile (fun c : CodePoint => c != ']')
  | none => part.takeWhile (fun c : CodePoint => c != ':')

/-- Whether what stands around the brackets of an authority is in order: nothing before them, and
only a port after them. -/
def areBracketsPlaced (authority : Text) : Bool :=
  match Text.splitFirst? '[' (hostAndPort authority) with
  | none => true
  | some (before, bracketed) =>
    let after := (bracketed.dropWhile (fun c : CodePoint => c != ']')).drop 1
    before.isEmpty && (after.isEmpty || after.head? == some ':')

/-- Whether an authority is well formed. -/
def isAuthority (authority : Text) : Bool :=
  let opens := authority.contains (CodePoint.ofChar '[')
  let closes := authority.contains (CodePoint.ofChar ']')
  opens == closes
    && (!opens || (areBracketsPlaced authority && Address.isBracketed (rawHost authority)))
    && authority.all fun c => !disguisedDelimiters.contains c.val

/-- A host in lower case, except for what follows a percent sign. -/
def lowerHost (host : Text) : Text :=
  Text.lower (host.takeWhile (fun c : CodePoint => c != '%')) ++
    host.dropWhile (fun c : CodePoint => c != '%')

/-- The host of a URL, empty if it has none. -/
def host (url : Text) : Text :=
  match authority? (dropScheme (clean url)) with
  | some authority => if isAuthority authority then lowerHost (rawHost authority) else []
  | none => []

end Url

end BreakageAdvisor
