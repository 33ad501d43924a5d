import BreakageAdvisor.Pattern.Reader

/-!
# Searching for patterns

A match is looked for by backtracking: a pattern is matched at a place of the text together with
what has to match after it, and alternatives are tried in order until the rest matches too. Each
optional round of a repetition but the first has to start elsewhere than the round before, so the
rounds are bounded by the length of the text.
-/

namespace BreakageAdvisor

namespace Pattern

/-- A place in the text, with what stands before it, nearest first, what stands after it, and the
texts that groups have captured, the latest first. -/
structure Cursor where
  before : Text
  after : Text
  captures : List (Nat × Text)

/-- The text of a group, if it has captured one. -/
def Cursor.capture? (s : Cursor) (index : Nat) : Option Text :=
  (s.captures.find? (·.1 == index)).map (·.2)

/-- What is matched next: the outcome of a match from a place on. -/
abbrev Cont := Cursor → Option Cursor

/-- A way to match: at a place, with what is matched next. -/
abbrev Match := Cont → Cursor → Option Cursor

/-- Small letters, among all code points or only ASCII. -/
def small (ascii : Bool) (c : CodePoint) : CodePoint :=
  if ascii then (if 65 ≤ c.val ∧ c.val ≤ 90 then c + 32 else c) else c.toSmall

/-- Whether a code point has another case, among all code points or only ASCII. -/
def cased (ascii : Bool) (c : CodePoint) : Bool :=
  if ascii then PatternReader.isAsciiLetter c else c.hasCase

/-- All code points that count as one with a small letter when case is ignored. -/
def caseFamily (ascii : Bool) (c : CodePoint) : List CodePoint :=
  if ascii then (if 97 ≤ c.val ∧ c.val ≤ 122 then [c, c - 32] else [c])
  else (c :: c.siblings).flatMap fun d => d :: d.capitals

/-- Whether a code point lies beyond the basic plane. -/
def isBeyondBasicPlane (c : CodePoint) : Bool := 0xFFFF < c.val

/-- Whether an item of a set makes a difference between letter cases: it names a code point that has
another case, or one beyond the basic plane, where cases are always told apart. -/
def mentionsCase (ascii : Bool) : SetItem → Bool
  | .point c => isBeyondBasicPlane c || cased ascii c
  | .range first last =>
    isBeyondBasicPlane last || (List.range (last.val + 1 - first.val)).any fun n =>
      cased ascii (CodePoint.ofNat (first.val + n))
  | .named _ _ => false

/-- Whether an item of a set holds a code point. -/
def itemHolds (flags : PatternFlags) (c : CodePoint) : SetItem → Bool
  | .point d => c == d
  | .range first last => first.val ≤ c.val && c.val ≤ last.val
  | .named cls negated => cls.holds flags.ascii c != negated

/-- Whether one of several items of a set holds a small letter when case is ignored. A code point
beyond the basic plane is taken as it is written, and a range that ends there holds a letter also by
its capital. -/
def holdsAnyCase (flags : PatternFlags) (c : CodePoint) (item : SetItem) : Bool :=
  match item with
  | .named cls negated => cls.holds flags.ascii c != negated
  | .point d =>
    if isBeyondBasicPlane d then c == d else (caseFamily flags.ascii c).contains d
  | .range _ last =>
    let others := if isBeyondBasicPlane last then c.capitals.take 1 else []
    (caseFamily flags.ascii c ++ others).any fun d => itemHolds flags d item

/-- Whether a set holds a code point. -/
def setHolds (flags : PatternFlags) (items : List SetItem) (c : CodePoint) : Bool :=
  let c' := small flags.ascii c
  match flags.ignoreCase && items.any (mentionsCase flags.ascii), items.eraseDups with
  | true, [.point d] => (caseFamily flags.ascii c').contains d
  | true, items => items.any (holdsAnyCase flags c')
  | false, items => items.any (itemHolds flags c)

/-- Matches one code point with a property. -/
def onePoint (p : CodePoint → Bool) : Match := fun next s =>
  match s.after with
  | c :: after => if p c then next { s with before := c :: s.before, after } else none
  | [] => none

/-- Whether two code points are the same for back-references. -/
def sameForReference (flags : PatternFlags) (c d : CodePoint) : Bool :=
  if flags.ignoreCase then small flags.ascii c == small flags.ascii d else c == d

/-- Matches a given text. -/
def wholeText (flags : PatternFlags) : Text → Match
  | [], next, s => next s
  | c :: t, next, s => onePoint (sameForReference flags c) (wholeText flags t next) s

/-- Whether a place is between a word character and another, or an end of the text. -/
def atBoundary (ascii : Bool) (s : Cursor) : Bool :=
  let word (t : Text) : Bool := match t with
    | c :: _ => CharacterClass.holds ascii c .word
    | [] => false
  word s.before != word s.after

/-- Whether a place is the one that an anchor names. -/
def atAnchor (flags : PatternFlags) (s : Cursor) : Anchor → Bool
  | .textStart => s.before.isEmpty
  | .textEnd => s.after.isEmpty
  | .lineStart => s.before.isEmpty || (flags.multiline && s.before.head? == some 10)
  | .lineEnd =>
    s.after.isEmpty || s.after == [10] || (flags.multiline && s.after.head? == some 10)
  | .boundary => !(s.before.isEmpty && s.after.isEmpty) && atBoundary flags.ascii s
  | .noBoundary => !(s.before.isEmpty && s.after.isEmpty) && !atBoundary flags.ascii s

/-- Rounds of a greedy repetition: another round before what comes next. `last` is what stood after
the place where the latest optional round began. -/
def greedyRounds (round : Match) (next : Cont) : Nat → Nat → Option Nat → Option Nat → Cont
  | 0, _, _, _, _ => none
  | fuel + 1, least, most, last, s =>
    let fewer := most.map (· - 1)
    if 0 < least then round (greedyRounds round next fuel (least - 1) fewer last) s
    else if most ≠ some 0 ∧ last ≠ some s.after.length then
      (round (greedyRounds round next fuel 0 fewer (some s.after.length)) s).or (next s)
    else next s

/-- Rounds of a lazy repetition: what comes next before another round. -/
def lazyRounds (round : Match) (next : Cont) : Nat → Nat → Option Nat → Option Nat → Cont
  | 0, _, _, _, _ => none
  | fuel + 1, least, most, last, s =>
    let fewer := most.map (· - 1)
    if 0 < least then round (lazyRounds round next fuel (least - 1) fewer last) s
    else match next s with
      | some found => some found
      | none =>
        if most ≠ some 0 ∧ last ≠ some s.after.length then
          round (lazyRounds round next fuel 0 fewer (some s.after.length)) s
        else none

/-- Rounds of a possessive repetition: as many as possible, none of which is taken back. -/
def possessiveRounds (round : Cont) : Nat → Nat → Option Nat → Cont
  | 0, _, _, s => some s
  | fuel + 1, least, most, s =>
    let fewer := most.map (· - 1)
    if 0 < least then (round s).bind (possessiveRounds round fuel (least - 1) fewer)
    else if most = some 0 then some s
    else match round s with
      | none => some s
      | some found =>
        if found.after.length = s.after.length then some found
        else possessiveRounds round fuel 0 fewer found

/-- Matches a repetition. -/
def rounds (greed : Greed) (least : Nat) (most : Option Nat) (round : Match) : Match :=
  fun next s =>
  let fuel := least + s.after.length + 2
  match greed with
  | .greedy => greedyRounds round next fuel least most none s
  | .lazy => lazyRounds round next fuel least most none s
  | .possessive => (possessiveRounds (round some) fuel least most s).bind next

/-- The place a number of code points before another one. -/
def Cursor.back? (s : Cursor) (n : Nat) : Option Cursor :=
  if n ≤ s.before.length then
    some { s with before := s.before.drop n, after := (s.before.take n).reverse ++ s.after }
  else none

/-- Matches a pattern at a place, with what is matched next. -/
def run (flags : PatternFlags) : Pattern → Match
  | empty, next, s => next s
  | literal c, next, s => onePoint (setHolds flags [.point c]) next s
  | any, next, s => onePoint (fun c => flags.dotAll || c.val != 10) next s
  | set negated items, next, s => onePoint (fun c => setHolds flags items c != negated) next s
  | anchor place, next, s => if atAnchor flags s place then next s else none
  | seq first rest, next, s => run flags first (run flags rest next) s
  | choice first rest, next, s =>
    match run flags first next s with
    | some found => some found
    | none => run flags rest next s
  | group index on off body, next, s =>
    let close (e : Cursor) : Option Cursor :=
      match index with
      | none => next e
      | some i =>
        next { e with
          captures := (i, s.after.take (s.after.length - e.after.length)) :: e.captures }
    run (flags.within on off) body close s
  | atomic body, next, s => (run flags body some s).bind next
  | repeated greed least most body, next, s => rounds greed least most (run flags body) next s
  | look behind negated body, next, s =>
    let found := if behind then (s.back? body.width.least).bind (run flags body some)
      else run flags body some s
    match found with
    | some e => if negated then none else next { s with captures := e.captures }
    | none => if negated then next s else none
  | backReference index _, next, s =>
    match s.capture? index with
    | some t => wholeText flags t next s
    | none => none
  | conditional index yes no, next, s =>
    if (s.capture? index).isSome then run flags yes next s else run flags no next s

/-- Whether a pattern matches somewhere from a place on. -/
def searchFrom (p : Compiled) (before : Text) : Text → Bool
  | [] => (run p.flags p.body some ⟨before, [], []⟩).isSome
  | c :: after =>
    (run p.flags p.body some ⟨before, c :: after, []⟩).isSome || searchFrom p (c :: before) after

/-- Whether a pattern occurs in a text. -/
def occurs (p : Compiled) (t : Text) : Bool := searchFrom p [] t

end Pattern

end BreakageAdvisor
