import BreakageAdvisor.Text.CharacterClass
import BreakageAdvisor.Text.LetterCase

/-!
# Patterns

The syntax trees of patterns that are searched for in URLs: literals, sets, anchors, sequences and
choices, groups that capture or carry flags, repetitions in three tempers, look-around,
back-references and conditionals on a group.
-/

namespace BreakageAdvisor

/-- The switches of a pattern. -/
structure PatternFlags where
  ignoreCase : Bool := false
  multiline : Bool := false
  dotAll : Bool := false
  verbose : Bool := false
  ascii : Bool := false
  unicode : Bool := false
  local8 : Bool := false
  template : Bool := false
  deriving DecidableEq, Repr

namespace PatternFlags

/-- The switches that are on in either. -/
def union (f g : PatternFlags) : PatternFlags :=
  ⟨f.ignoreCase || g.ignoreCase, f.multiline || g.multiline, f.dotAll || g.dotAll,
   f.verbose || g.verbose, f.ascii || g.ascii, f.unicode || g.unicode, f.local8 || g.local8,
   f.template || g.template⟩

/-- The switches that are on in the first and off in the second. -/
def without (f g : PatternFlags) : PatternFlags :=
  ⟨f.ignoreCase && !g.ignoreCase, f.multiline && !g.multiline, f.dotAll && !g.dotAll,
   f.verbose && !g.verbose, f.ascii && !g.ascii, f.unicode && !g.unicode,
   f.local8 && !g.local8, f.template && !g.template⟩

/-- The switches that choose the alphabet, of which at most one may be on. -/
def alphabet : PatternFlags := { ascii := true, unicode := true, local8 := true }

/-- The switches that are on in both. -/
def common (f g : PatternFlags) : PatternFlags := f.without (f.without g)

/-- Whether all switches are off. -/
def isNone (f : PatternFlags) : Bool := f == {}

/-- The switches within a group that turns some on and some off. -/
def within (f on off : PatternFlags) : PatternFlags :=
  let f := if (on.common alphabet).isNone then f else f.without alphabet
  (f.union on).without off

/-- The switch of a letter. -/
def ofLetter? (c : CodePoint) : Option PatternFlags :=
  match Char.ofNat c.val with
  | 'i' => some { ignoreCase := true }
  | 'L' => some { local8 := true }
  | 'm' => some { multiline := true }
  | 's' => some { dotAll := true }
  | 'x' => some { verbose := true }
  | 'a' => some { ascii := true }
  | 't' => some { template := true }
  | 'u' => some { unicode := true }
  | _ => none

end PatternFlags

/-- A class of code points with a name. -/
inductive CharacterClass where
  | digit | blank | word
  deriving DecidableEq, Repr

/-- Whether a class holds a code point, among all code points or only the first 128. -/
def CharacterClass.holds (ascii : Bool) (c : CodePoint) : CharacterClass → Bool
  | digit => if ascii then c.isAsciiDigit else c.isDigit
  | blank => if ascii then c.isAsciiBlank else c.isBlank
  | word => if ascii then c.isAsciiWord else c.isWord

/-- A member of a set. -/
inductive SetItem where
  | point (c : CodePoint)
  | range (first last : CodePoint)
  | named (cls : CharacterClass) (negated : Bool)
  deriving DecidableEq, Repr

/-- A place in the text that takes no code point. -/
inductive Anchor where
  | lineStart | lineEnd | textStart | textEnd | boundary | noBoundary
  deriving DecidableEq, Repr

/-- How a repetition chooses its count. -/
inductive Greed where
  | greedy | lazy | possessive
  deriving DecidableEq, Repr

/-- The least and the greatest number of code points that something takes. -/
structure Width where
  least : Nat
  greatest : Nat
  deriving DecidableEq, Repr

/-- A pattern. -/
inductive Pattern where
  | empty
  | literal (c : CodePoint)
  | any
  | set (negated : Bool) (items : List SetItem)
  | anchor (place : Anchor)
  | seq (first rest : Pattern)
  | choice (first rest : Pattern)
  | group (index : Option Nat) (on off : PatternFlags) (body : Pattern)
  | atomic (body : Pattern)
  | repeated (greed : Greed) (least : Nat) (most : Option Nat) (body : Pattern)
  | look (behind negated : Bool) (body : Pattern)
  | backReference (index : Nat) (width : Width)
  | conditional (index : Nat) (yes no : Pattern)
  deriving Repr

namespace Pattern

/-- The bound of widths; a width that reaches it counts as unbounded. -/
def maxWidth : Nat := 0x10000000000000000

/-- The widths of two things in sequence. -/
def Width.add (v w : Width) : Width :=
  ⟨min (v.least + w.least) maxWidth, min (v.greatest + w.greatest) maxWidth⟩

/-- The widths of two alternatives. -/
def Width.either (v w : Width) : Width := ⟨min v.least w.least, max v.greatest w.greatest⟩

/-- The width of a pattern. -/
def width : Pattern → Width
  | empty | anchor _ | look _ _ _ => ⟨0, 0⟩
  | literal _ | any | set _ _ => ⟨1, 1⟩
  | seq first rest => Width.add first.width rest.width
  | choice first rest => Width.either first.width rest.width
  | group _ _ _ body => body.width
  | atomic body => body.width
  | repeated _ least most body =>
    let w := body.width
    let greatest := match most with
      | some n => w.greatest * n
      | none => if w.greatest = 0 then 0 else maxWidth
    ⟨min (w.least * least) maxWidth, min greatest maxWidth⟩
  | backReference _ w => w
  | conditional _ yes no => Width.either yes.width no.width

/-- The sequence of some patterns. -/
def ofItems (items : List Pattern) : Pattern := items.foldr seq empty

end Pattern

end BreakageAdvisor
