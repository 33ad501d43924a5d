import BreakageAdvisor.Text.CharacterClass
import BreakageAdvisor.Web.Punycode
import BreakageAdvisor.Web.Url

/-!
# Base domains

The base domain of a URL is its host cut down to one label before a public suffix. The suffixes are
given by rules; the labels of a host are followed through them from the right. A star in a rule
stands for any label, and an exclamation mark excepts a label from the star beside it.
-/

namespace BreakageAdvisor

/-- Rules of public suffixes, each as its labels from the right. A place in the rules is given by
what remains of the rules that agree with the labels so far. -/
abbrev SuffixRules := List (List Text)

namespace SuffixRules

/-- What remains of the rules whose next label is the given one. -/
def follow (rules : SuffixRules) (label : Text) : SuffixRules :=
  rules.filterMap fun rule =>
    match rule with
    | next :: rest => if next = label then some rest else none
    | [] => none

/-- Whether a rule ends here. -/
def ends (rules : SuffixRules) : Bool := rules.any (·.isEmpty)

/-- Whether a rule has the given label next. -/
def has (rules : SuffixRules) (label : Text) : Bool := !(rules.follow label).isEmpty

/-- The number of labels in the public suffix of a host, given its labels from the right. `count`
labels have been followed, and the last rule that ended was `found` labels long. -/
def suffixLength (rules : SuffixRules) (count found : Nat) : List Text → Nat
  | [] => found
  | label :: rest =>
    let label := Punycode.normalLabel label
    if rules.has label then
      let rules := rules.follow label
      rules.suffixLength (count + 1) (if rules.ends then count + 1 else found) rest
    else if rules.has "*" then
      if rules.has (CodePoint.ofChar '!' :: label) then count else count + 1
    else found

/-- A rule from its usual written form. -/
def ruleOf (t : Text) : List Text := (t.splitWhere (· == '.')).reverse

/-- The rules for the domains that the advisor knows of, public and private ones. -/
def known : SuffixRules :=
  ["!city.kawasaki.jp", "!www.ck", "*.ck", "*.compute-1.amazonaws.com", "*.compute.amazonaws.com",
   "*.kawasaki.jp", "chiyoda.tokyo.jp", "cn", "co.uk", "com", "de", "github.io", "httpbin.org",
   "io", "jp", "net", "onion", "org", "s3.amazonaws.com", "tokyo.jp", "uk", "рф", "公司.cn"].map
    fun rule => ruleOf (Text.ofString rule)

end SuffixRules

namespace Url

/-- Whether a code point separates labels: the full stop and its three wide forms. -/
def isDot (c : CodePoint) : Bool :=
  c == '.' || c.val == 0x3002 || c.val == 0xFF0E || c.val == 0xFF61

/-- The labels of a host, without dots at its end. -/
def labels (host : Text) : List Text :=
  let name : Text := Text.strip (host.takeWhile (fun c : CodePoint => c != ':'))
  Text.splitWhere isDot (name.reverse.dropWhile isDot).reverse

/-- The base domain of a host: the label before its public suffix with that suffix, or the host
itself where there is no such label. -/
def baseOfHost (rules : SuffixRules) (host : Text) : Text :=
  let labels := labels host
  let suffix := rules.suffixLength 0 0 labels.reverse
  match labels.drop (labels.length - suffix - 1) with
  | label :: rest =>
    if suffix = 0 ∨ labels.length ≤ suffix ∨ label.isEmpty then host
    else Text.join "." (label :: rest)
  | [] => host

/-- The base domain of a URL, empty if it has no host. -/
def baseDomain (rules : SuffixRules) (url : Text) : Text :=
  let host := host url
  if host.isEmpty then [] else baseOfHost rules host

end Url

end BreakageAdvisor
