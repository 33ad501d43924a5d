import BreakageAdvisor.Pattern.Basic
import BreakageAdvisor.Pattern.CharacterName
import BreakageAdvisor.Pattern.Error
import BreakageAdvisor.Text.Identifier

/-!
# Reading patterns

A pattern is read token by token, a token being a code point or a backslash with the code point
after it. Every step of the reader takes a token away, so a fuel of four times the length of the
text never runs out.
-/

namespace BreakageAdvisor

namespace PatternReader

/-- The place of the reader and what it has learnt: the flags that hold for the whole pattern, the
groups with the widths of those that are closed, their names, the number of groups before an
enclosing look-behind, and the groups that conditionals named by number. -/
structure Source where
  rest : Text
  next : Text
  size : Nat
  flags : PatternFlags
  widths : List (Option Width)
  names : List (Text × Nat)
  lookBehind : Option Nat
  references : List (Nat × Nat)

/-- The offset of the next token. -/
def Source.place (s : Source) : Nat := s.size - s.rest.length - s.next.length

/-- The number of the next group. -/
def Source.groups (s : Source) : Nat := s.widths.length + 1

/-- The width of a closed group. -/
def Source.width? (s : Source) (group : Nat) : Option Width :=
  match group with
  | 0 => none
  | n + 1 => s.widths[n]?.join

/-- A step of the reader. -/
abbrev Reader := StateT Source (Except PatternError)

/-- Fails at an offset. -/
def failAt {α : Type} (fault : PatternFault) (place : Nat) : Reader α :=
  fun _ => .error (.malformed fault (some place))

/-- Fails a number of code points before the next token. -/
def failBack {α : Type} (fault : PatternFault) (back : Nat) : Reader α :=
  fun s => .error (.malformed fault (some (s.place - back)))

/-- Fails at the next token. -/
def fail {α : Type} (fault : PatternFault) : Reader α := failBack fault 0

/-- Takes the next token away. -/
def advance : Reader Unit := fun s =>
  match s.rest with
  | [] => .ok ((), { s with next := [] })
  | c :: t =>
    if c = '\\' then
      match t with
      | [] => .error (.malformed .trailingBackslash (some (s.size - 1)))
      | d :: t => .ok ((), { s with next := [c, d], rest := t })
    else .ok ((), { s with next := [c], rest := t })

/-- The next token, which is taken away; empty at the end. -/
def take : Reader Text := do
  let token := (← get).next
  advance
  return token

/-- Takes the next token away if it is the given code point. -/
def accept (c : CodePoint) : Reader Bool := do
  if (← get).next = [c] then
    advance
    return true
  else return false

/-- Takes at most `n` tokens that are single code points with a property. -/
def takeSome (p : CodePoint → Bool) : Nat → Reader Text
  | 0 => return []
  | n + 1 => do
    match (← get).next with
    | [c] =>
      if p c then
        advance
        return c :: (← takeSome p n)
      else return []
    | _ => return []

/-- Reads a name up to its terminator, which is taken away too. -/
def takeName (terminator : CodePoint) (what : Text) : Nat → Text → Reader Text
  | 0, _ => fail (.missing what)
  | fuel + 1, name => do
    let token ← take
    if token.isEmpty then
      if name.isEmpty then fail (.missing what)
      else failBack (.unterminatedName terminator) name.length
    else if token = [terminator] then
      if name.isEmpty then failBack (.missing what) 1 else return name
    else takeName terminator what fuel (name ++ token)

/-- Reads a name up to its terminator. -/
def takeNameUntil (terminator : CodePoint) (what : Text) : Reader Text := do
  takeName terminator what ((← get).rest.length + 3) []

/-- Whether a code point is an octal digit. -/
def isOctal (c : CodePoint) : Bool := 48 ≤ c.val && c.val < 56

/-- Whether a code point is an ASCII letter. -/
def isAsciiLetter (c : CodePoint) : Bool :=
  (65 ≤ c.val && c.val ≤ 90) || (97 ≤ c.val && c.val ≤ 122)

/-- The number that octal digits write. -/
def octalValue (digits : Text) : Nat :=
  digits.foldl (fun n c => 8 * n + (c.val - 48)) 0

/-- The number that hexadecimal digits write. -/
def hexValue (digits : Text) : Nat :=
  digits.foldl (fun n c => 16 * n + c.hexValue?.getD 0) 0

/-- Refuses a pattern for a reason that has no place. -/
def refuse {α : Type} (error : PatternError) : Reader α := fun _ => .error error

/-- Reads the rest of an escape by code: exactly `count` hexadecimal digits. -/
def codeEscape (escape : Text) (count : Nat) : Reader CodePoint := do
  let digits ← takeSome (fun c => c.hexValue?.isSome) count
  let escape := escape ++ digits
  if digits.length ≠ count then failBack (.incompleteEscape escape) escape.length
  else if hexValue digits < 0x110000 then return CodePoint.ofNat (hexValue digits)
  else if hexValue digits < 0x80000000 then failBack (.badEscape escape) escape.length
  else refuse .hugeCode

/-- Reads the rest of an escape by name. -/
def namedEscape : Reader CodePoint := do
  if !(← accept '\x7b') then fail (.missing "\x7b")
  let name ← takeNameUntil '\x7d' "character name"
  match CodePoint.ofName? name with
  | some c => return c
  | none => failBack (.undefinedCharacter name) (name.length + 4)

/-- The code point of an escape that stands for a control character. -/
def controlEscape? (c : CodePoint) : Option CodePoint :=
  match Char.ofNat c.val with
  | 'a' => some 7
  | 'f' => some 12
  | 'n' => some 10
  | 'r' => some 13
  | 't' => some 9
  | 'v' => some 11
  | '\\' => some '\\'
  | _ => none

/-- The class that an escape names. -/
def classEscape? (c : CodePoint) : Option SetItem :=
  match Char.ofNat c.val with
  | 'd' => some (.named .digit false)
  | 'D' => some (.named .digit true)
  | 's' => some (.named .blank false)
  | 'S' => some (.named .blank true)
  | 'w' => some (.named .word false)
  | 'W' => some (.named .word true)
  | _ => none

/-- The place that an escape names. -/
def anchorEscape? (c : CodePoint) : Option Anchor :=
  match Char.ofNat c.val with
  | 'A' => some .textStart
  | 'Z' => some .textEnd
  | 'b' => some .boundary
  | 'B' => some .noBoundary
  | _ => none

/-- Reads the rest of an escape within a set. -/
def setEscape (escape : Text) (c : CodePoint) : Reader SetItem := do
  if c = 'b' then return .point 8
  if let some d := controlEscape? c then return .point d
  if let some item := classEscape? c then return item
  if c = 'x' then return .point (← codeEscape escape 2)
  if c = 'u' then return .point (← codeEscape escape 4)
  if c = 'U' then return .point (← codeEscape escape 8)
  if c = 'N' then return .point (← namedEscape)
  if isOctal c then
    let digits ← takeSome isOctal 2
    let value := octalValue (c :: digits)
    let escape := escape ++ digits
    if 0o377 < value then failBack (.octalOutOfRange escape) escape.length
    else return .point (CodePoint.ofNat value)
  if c.isAsciiDigit || isAsciiLetter c then failBack (.badEscape escape) escape.length
  return .point c

/-- Refuses a reference to a group that is open, or that belongs to the look-behind around it. -/
def checkLookBehind (group : Nat) : Reader Unit := do
  let s ← get
  if let some bound := s.lookBehind then
    if (s.width? group).isNone then fail .openGroupReference
    if bound ≤ group then fail .lookBehindReference

/-- Reads the rest of a reference to a group, or of a code in octal digits. -/
def digitEscape (escape : Text) (c : CodePoint) : Reader Pattern := do
  let mut digits := [c]
  match (← get).next with
  | [d] =>
    if d.isAsciiDigit then
      advance
      digits := [c, d]
      match (← get).next with
      | [e] =>
        if isOctal c && isOctal d && isOctal e then
          advance
          let escape := escape ++ [d, e]
          let value := octalValue [c, d, e]
          if 0o377 < value then failBack (.octalOutOfRange escape) escape.length
          return .literal (CodePoint.ofNat value)
      | _ => pure ()
  | _ => pure ()
  let group := Text.digitsValue (digits.filterMap CodePoint.asciiDigitValue?)
  let s ← get
  if group < s.groups then
    match s.width? group with
    | none => failBack .openGroupReference (digits.length + 1)
    | some width =>
      checkLookBehind group
      return .backReference group width
  else failBack (.invalidReference group) digits.length

/-- Reads the rest of an escape outside sets. -/
def patternEscape (escape : Text) (c : CodePoint) : Reader Pattern := do
  if let some item := classEscape? c then return .set false [item]
  if let some place := anchorEscape? c then return .anchor place
  if let some d := controlEscape? c then return .literal d
  if c = 'x' then return .literal (← codeEscape escape 2)
  if c = 'u' then return .literal (← codeEscape escape 4)
  if c = 'U' then return .literal (← codeEscape escape 8)
  if c = 'N' then return .literal (← namedEscape)
  if c = '0' then
    return .literal (CodePoint.ofNat (octalValue (← takeSome isOctal 2)))
  if c.isAsciiDigit then digitEscape escape c
  else if isAsciiLetter c then failBack (.badEscape escape) escape.length
  else return .literal c

/-- One member of a set: the token, which is not the end of the pattern, and what it means. -/
def setMember (token : Text) : Reader SetItem :=
  match token with
  | [_, c] => setEscape token c
  | c :: _ => return .point c
  | [] => return .point 0

/-- Reads the members of a set up to its end; `start` is the offset of the set. -/
def setItems (start : Nat) : Nat → List SetItem → Reader (List SetItem)
  | 0, items => return items
  | fuel + 1, items => do
    let token ← take
    if token.isEmpty then failAt .unterminatedSet start
    else if token = [CodePoint.ofChar ']'] ∧ items ≠ [] then return items.reverse
    else
      let first ← setMember token
      if ← accept '-' then
        let last ← take
        if last.isEmpty then failAt .unterminatedSet start
        else if last = [CodePoint.ofChar ']'] then
          return (SetItem.point '-' :: first :: items).reverse
        else
          match first, ← setMember last with
          | .point c, .point d =>
            if d.val < c.val then
              failBack (.badRange token last) (token.length + 1 + last.length)
            else setItems start fuel (.range c d :: items)
          | _, _ => failBack (.badRange token last) (token.length + 1 + last.length)
      else setItems start fuel (first :: items)

/-- Reads a set after its opening bracket, at the offset `start`. -/
def readSet (start : Nat) : Reader Pattern := do
  let negated ← accept '^'
  let items ← setItems start ((← get).rest.length + 3) []
  match negated, items with
  | false, [.point c] => return .literal c
  | _, _ => return .set negated items

/-- The least count that is refused. -/
def maxRepeat : Nat := 4294967295

/-- The number of a repetition count. -/
def repeatCount (digits : Text) : Reader Nat :=
  if maxIntegerDigits < digits.length then refuse (.hugeNumber (.tooManyDigits digits.length))
  else
    let n := Text.digitsValue (digits.filterMap CodePoint.asciiDigitValue?)
    if maxRepeat ≤ n then refuse .hugeRepeat else return n

/-- Reads the counts of a repetition in braces, after the opening brace; none if the brace is no
repetition, and then nothing is taken away. -/
def bracedCounts : Reader (Option (Nat × Option Nat)) := do
  let s ← get
  if s.next = [CodePoint.ofChar '\x7d'] then return none
  let digits := takeSome CodePoint.isAsciiDigit (s.rest.length + 1)
  let least ← digits
  let most ← if ← accept ',' then digits else pure least
  if !(← accept '\x7d') then
    set s
    return none
  let low ← if least.isEmpty then pure 0 else repeatCount least
  if most.isEmpty then return some (low, none)
  let high ← repeatCount most
  if high < low then failAt .leastAboveMost s.place
  return some (low, some high)

/-- Reads the mark behind a repetition that says how many matches are tried first. -/
def greedMark : Reader Greed := do
  if ← accept '?' then return .lazy
  if ← accept '+' then return .possessive
  return .greedy

/-- Applies a repetition to the item before it. `items` are the items read, the last first; `start`
is the offset of the repetition. -/
def repeatLast (start least : Nat) (most : Option Nat) (items : List Pattern) :
    Reader (List Pattern) := do
  match items with
  | [] => failAt .nothingToRepeat start
  | .anchor _ :: _ => failAt .nothingToRepeat start
  | .repeated _ _ _ _ :: _ => failAt .multipleRepeat start
  | item :: before =>
    return .repeated (← greedMark) least most item :: before

/-- Opens a group, of which the name may be given. -/
def openGroup (name : Option Text) : Reader Nat := do
  let s ← get
  let group := s.groups
  set { s with widths := s.widths ++ [none] }
  match name with
  | none => return group
  | some name =>
    match s.names.find? (·.1 == name) with
    | some (_, earlier) => failBack (.redefinedGroup name group earlier) (name.length + 1)
    | none =>
      modify fun s => { s with names := s.names ++ [(name, group)] }
      return group

/-- Closes a group. -/
def closeGroup (group : Nat) (body : Pattern) : Reader Unit :=
  modify fun s => { s with widths := s.widths.set (group - 1) (some body.width) }

/-- The flag of a token, if it is a letter that names one. -/
def flagOf? (token : Text) : Option PatternFlags :=
  match token with
  | [c] => PatternFlags.ofLetter? c
  | _ => none

/-- Fails at a token that is no flag: letters are unknown flags, else something is missing. -/
def failFlag {α : Type} (what : Text) (token : Text) : Reader α :=
  if token.isEmpty then fail (.missing what)
  else
    let letters := token.all (·.isLetter)
    failBack (if letters then .unknownFlag else .missing what) token.length

/-- Reads the flags that are turned on, from the token of the first one; gives the token after
them. -/
def flagsOn : Nat → Text → PatternFlags → Reader (PatternFlags × Text)
  | 0, token, on => return (on, token)
  | fuel + 1, token, on =>
    match flagOf? token with
    | none => failFlag "-, : or )" token
    | some flag => do
      if flag.local8 then fail .localeFlag
      let on := on.union flag
      if !(flag.common .alphabet).isNone && on.common .alphabet != flag then
        fail .incompatibleFlags
      let token ← take
      if token = [CodePoint.ofChar ')'] ∨ token = [CodePoint.ofChar '-']
          ∨ token = [CodePoint.ofChar ':'] then return (on, token)
      else flagsOn fuel token on

/-- Reads the flags that are turned off, from the token of the first one, up to the colon. -/
def flagsOff : Nat → Text → PatternFlags → Reader PatternFlags
  | 0, _, off => return off
  | fuel + 1, token, off =>
    match flagOf? token with
    | none => failFlag (if off.isNone then "flag" else ":") token
    | some flag => do
      if !(flag.common .alphabet).isNone then fail .alphabetFlagOff
      let off := off.union flag
      let token ← take
      if token = [CodePoint.ofChar ':'] then return off
      else flagsOff fuel token off

/-- Reads flags from their first token: none when they hold for the whole pattern, otherwise those
turned on and off in the group that follows. -/
def readFlags (token : Text) : Reader (Option (PatternFlags × PatternFlags)) := do
  let fuel := (← get).rest.length + 3
  let (on, stop) ←
    if token = [CodePoint.ofChar '-'] then pure ({}, token) else flagsOn fuel token {}
  if stop = [CodePoint.ofChar ')'] then
    modify fun s => { s with flags := s.flags.union on }
    return none
  if on.template then failBack .globalFlagOn 1
  let off ←
    if stop = [CodePoint.ofChar '-'] then flagsOff fuel (← take) {} else pure {}
  if off.template then failBack .globalFlagOff 1
  if !(on.common off).isNone then failBack .flagOnAndOff 1
  return some (on, off)

/-- Reads a name of a group up to its terminator. -/
def groupName (terminator : CodePoint) : Reader Text := do
  let name ← takeNameUntil terminator "group name"
  if !name.isIdentifier then failBack (.badGroupName name) (name.length + 1)
  return name

/-- Skips a comment up to its end; `start` is the offset of its group. -/
def skipComment (start : Nat) : Nat → Reader Unit
  | 0 => return ()
  | fuel + 1 => do
    if (← get).next.isEmpty then failAt .unterminatedComment start
    if (← take) = [CodePoint.ofChar ')'] then return () else skipComment start fuel

/-- Skips the rest of a line. -/
def skipLine : Nat → Reader Unit
  | 0 => return ()
  | fuel + 1 => do
    let token ← take
    if token.isEmpty ∨ token = [10] then return () else skipLine fuel

/-- Reads a reference to a named group after its equals sign. -/
def namedReference : Reader Pattern := do
  let name ← groupName ')'
  let s ← get
  match s.names.find? (·.1 == name) with
  | none => failBack (.unknownGroup name) (name.length + 1)
  | some (_, group) =>
    match s.width? group with
    | none => failBack .openGroupReference (name.length + 1)
    | some width =>
      checkLookBehind group
      return .backReference group width

/-- Reads the group that a conditional depends on, up to its closing parenthesis. -/
def conditionGroup : Reader Nat := do
  let name ← takeNameUntil ')' "group name"
  let back := name.length + 1
  let s ← get
  if name.isIdentifier then
    match s.names.find? (·.1 == name) with
    | some (_, group) => return group
    | none => failBack (.unknownGroup name) back
  match (Json.text name).toInteger with
  | .error _ => failBack (.badGroupName name) back
  | .ok n =>
    if n < 0 then failBack (.badGroupName name) back
    else if n = 0 then failBack .groupNumberZero back
    else
      let group := n.toNat
      if s.references.all (·.1 != group) then
        modify fun s => { s with references := s.references ++ [(group, s.place - back)] }
      return group

/-- What stands at an opening parenthesis: nothing to match, a finished item, or a group. -/
inductive Opening where
  | nothing
  | item (p : Pattern)
  | group (capture atomic : Bool) (name : Option Text) (on off : PatternFlags)

/-- The blanks that verbose patterns ignore. -/
def isVerboseBlank (token : Text) : Bool :=
  match token with
  | [c] => c.isAsciiBlank
  | _ => false

mutual

/-- Reads alternatives. `nested` says that the pattern is inside a group; only the first
alternative of the whole pattern may turn on flags for all of it. -/
def readChoice : Nat → Bool → Bool → Bool → Reader Pattern
  | 0, _, _, _ => return .empty
  | fuel + 1, verbose, nested, first => do
    let items ← readItems fuel verbose (first && !nested) []
    let alternative := Pattern.ofItems items
    if ← accept '|' then
      let flags := (← get).flags
      let verbose := if nested then verbose else flags.verbose
      return .choice alternative (← readChoice fuel verbose nested false)
    else return alternative

/-- Reads the items of one alternative. `items` are those read, the last first. -/
def readItems : Nat → Bool → Bool → List Pattern → Reader (List Pattern)
  | 0, _, _, items => return items.reverse
  | fuel + 1, verbose, first, items => do
    let token := (← get).next
    match token with
    | [] => return items.reverse
    | [c] =>
      if c = '|' ∨ c = ')' then return items.reverse
      let start := (← get).place
      advance
      if verbose && isVerboseBlank token then readItems fuel verbose first items
      else if verbose && c == '#' then
        skipLine ((← get).rest.length + 2)
        readItems fuel verbose first items
      else if c = '[' then
        let p ← readSet start
        readItems fuel verbose first (p :: items)
      else if c = '*' then
        readItems fuel verbose first (← repeatLast start 0 none items)
      else if c = '+' then
        readItems fuel verbose first (← repeatLast start 1 none items)
      else if c = '?' then
        readItems fuel verbose first (← repeatLast start 0 (some 1) items)
      else if c = '\x7b' then
        match ← bracedCounts with
        | none => readItems fuel verbose first (.literal c :: items)
        | some (least, most) => readItems fuel verbose first (← repeatLast start least most items)
      else if c = '.' then readItems fuel verbose first (.any :: items)
      else if c = '^' then readItems fuel verbose first (.anchor .lineStart :: items)
      else if c = '$' then readItems fuel verbose first (.anchor .lineEnd :: items)
      else if c = '(' then
        match ← readOpening fuel verbose start (first && items.isEmpty) with
        | .nothing =>
          let flags := (← get).flags
          readItems fuel (verbose || (first && items.isEmpty && flags.verbose)) first items
        | .item p => readItems fuel verbose first (p :: items)
        | .group capture atomic name on off =>
          let p ← readGroup fuel verbose start capture atomic name on off
          readItems fuel verbose first (p :: items)
      else readItems fuel verbose first (.literal c :: items)
    | _ :: c :: _ =>
      advance
      readItems fuel verbose first ((← patternEscape token c) :: items)

/-- Reads what follows an opening parenthesis at the offset `start`. `first` says that flags for the
whole pattern may stand here. -/
def readOpening : Nat → Bool → Nat → Bool → Reader Opening
  | 0, _, _, _ => return .nothing
  | fuel + 1, verbose, start, first => do
    if !(← accept '?') then return .group true false none {} {}
    let token ← take
    match token with
    | [] => fail .unexpectedEnd
    | [c] =>
      if c = 'P' then
        if ← accept '<' then
          return .group true false (some (← groupName '>')) {} {}
        else if ← accept '=' then return .item (← namedReference)
        else
          let token ← take
          if token.isEmpty then fail .unexpectedEnd
          else failBack (.unknownExtension (c :: token)) (token.length + 2)
      else if c = ':' then return .group false false none {} {}
      else if c = '#' then
        skipComment start ((← get).rest.length + 3)
        return .nothing
      else if c = '=' ∨ c = '!' then
        return .item (← readLook fuel verbose start false (c == '!'))
      else if c = '<' then
        let token ← take
        if token = [CodePoint.ofChar '='] ∨ token = [CodePoint.ofChar '!'] then
          return .item (← readLook fuel verbose start true (token == [CodePoint.ofChar '!']))
        else if token.isEmpty then fail .unexpectedEnd
        else failBack (.unknownExtension (c :: token)) (token.length + 2)
      else if c = '(' then return .item (← readConditional fuel verbose start)
      else if c = '>' then return .group false true none {} {}
      else if c == '-' || (PatternFlags.ofLetter? c).isSome then
        match ← readFlags token with
        | some (on, off) => return .group false false none on off
        | none => if first then return .nothing else failAt .lateGlobalFlags start
      else failBack (.unknownExtension token) (token.length + 1)
    | _ => failBack (.unknownExtension token) (token.length + 1)

/-- Reads a look-around after its mark. -/
def readLook : Nat → Bool → Nat → Bool → Bool → Reader Pattern
  | 0, _, _, _, _ => return .empty
  | fuel + 1, verbose, start, behind, negated => do
    let outer := (← get).lookBehind
    if behind && outer.isNone then
      modify fun s => { s with lookBehind := some s.groups }
    let body ← readChoice fuel verbose true false
    if behind && outer.isNone then modify fun s => { s with lookBehind := none }
    if !(← accept ')') then failAt .unterminatedGroup start
    return .look behind negated body

/-- Reads a conditional after its second parenthesis. -/
def readConditional : Nat → Bool → Nat → Reader Pattern
  | 0, _, _ => return .empty
  | fuel + 1, verbose, start => do
    let group ← conditionGroup
    checkLookBehind group
    let yes ← readItems fuel verbose false []
    let no ←
      if ← accept '|' then
        let no ← readItems fuel verbose false []
        if (← get).next = [CodePoint.ofChar '|'] then fail .threeBranches
        pure (Pattern.ofItems no)
      else pure .empty
    if !(← accept ')') then failAt .unterminatedGroup start
    return .conditional group (Pattern.ofItems yes) no

/-- Reads the contents of a group up to its closing parenthesis. -/
def readGroup : Nat → Bool → Nat → Bool → Bool → Option Text → PatternFlags → PatternFlags →
    Reader Pattern
  | 0, _, _, _, _, _, _, _ => return .empty
  | fuel + 1, verbose, start, capture, atomic, name, on, off => do
    let index ← if capture then some <$> openGroup name else pure none
    let body ← readChoice fuel ((verbose || on.verbose) && !off.verbose) true false
    if !(← accept ')') then failAt .unterminatedGroup start
    if let some group := index then closeGroup group body
    return if atomic then .atomic body else .group index on off body

end

end PatternReader

namespace Pattern

/-- The name of a repetition in messages. -/
def greedName : Greed → Text
  | .greedy => "MAX_REPEAT"
  | .lazy => "MIN_REPEAT"
  | .possessive => "POSSESSIVE_REPEAT"

/-- The first part of a pattern that cannot be searched for: a look-behind of variable width, or a
repetition where the flags exclude it. -/
def unsupported? (flags : PatternFlags) : Pattern → Option PatternFault
  | empty | literal _ | any | set _ _ | anchor _ | backReference _ _ => none
  | seq first rest => (unsupported? flags first).or (unsupported? flags rest)
  | choice first rest => (unsupported? flags first).or (unsupported? flags rest)
  | group _ _ _ body => unsupported? flags body
  | atomic body => unsupported? flags body
  | repeated greed _ _ body =>
    if flags.template then some (.templateRepeat (greedName greed)) else unsupported? flags body
  | look behind _ body =>
    if behind && body.width.least != body.width.greatest then some .variableLookBehind
    else unsupported? flags body
  | conditional _ yes no => (unsupported? flags yes).or (unsupported? flags no)

/-- A pattern with the flags that hold for all of it. -/
structure Compiled where
  flags : PatternFlags
  body : Pattern

end Pattern

namespace PatternReader

/-- Reads a whole pattern. -/
def readWhole (size : Nat) : Reader Pattern.Compiled := do
  advance
  let body ← readChoice (8 * size + 16) false false true
  let s ← get
  if s.flags.ascii && s.flags.unicode then
    fun _ => .error .twoAlphabets
  else if !s.next.isEmpty then fail .unbalanced
  else
    match s.references.find? (s.groups ≤ ·.1) with
    | some (group, place) => failAt (.invalidReference group) place
    | none =>
      match Pattern.unsupported? s.flags body with
      | some fault => fun _ => .error (.malformed fault none)
      | none => return ⟨s.flags, body⟩

end PatternReader

/-- The pattern that a text writes. -/
def Pattern.compile (text : Text) : Except PatternError Pattern.Compiled :=
  (PatternReader.readWhole text.length).run' ⟨text, [], text.length, {}, [], [], none, []⟩

end BreakageAdvisor
