import BreakageAdvisor.Json.Display
import BreakageAdvisor.Number.Reading

/-!
# Errors of patterns

Why a text is no pattern. Most errors have a place, the offset of a code point; a text of several
lines adds the line and the column.
-/

namespace BreakageAdvisor

/-- Why a text is no pattern. -/
inductive PatternFault where
  | trailingBackslash
  | missing (what : Text)
  | unterminatedName (terminator : CodePoint)
  | badGroupName (name : Text)
  | incompleteEscape (escape : Text)
  | undefinedCharacter (name : Text)
  | octalOutOfRange (escape : Text)
  | badEscape (escape : Text)
  | openGroupReference
  | lookBehindReference
  | invalidReference (group : Nat)
  | unterminatedSet
  | badRange (first last : Text)
  | leastAboveMost
  | nothingToRepeat
  | multipleRepeat
  | unexpectedEnd
  | unknownExtension (text : Text)
  | unknownGroup (name : Text)
  | unterminatedComment
  | unterminatedGroup
  | groupNumberZero
  | threeBranches
  | lateGlobalFlags
  | redefinedGroup (name : Text) (group earlier : Nat)
  | localeFlag
  | incompatibleFlags
  | unknownFlag
  | globalFlagOn
  | globalFlagOff
  | alphabetFlagOff
  | flagOnAndOff
  | unbalanced
  | variableLookBehind
  | templateRepeat (greed : Text)
  deriving DecidableEq, Repr

/-- The wording of a fault. -/
def PatternFault.message : PatternFault → Text
  | trailingBackslash => "bad escape (end of pattern)"
  | missing what => "missing " ++ what
  | unterminatedName terminator => "missing " ++ (terminator :: ", unterminated name")
  | badGroupName name => "bad character in group name " ++ name.quoted
  | incompleteEscape escape => "incomplete escape " ++ escape
  | undefinedCharacter name => "undefined character name " ++ name.quoted
  | octalOutOfRange escape =>
    "octal escape value " ++ escape ++ " outside of range 0-0o377"
  | badEscape escape => "bad escape " ++ escape
  | openGroupReference => "cannot refer to an open group"
  | lookBehindReference => "cannot refer to group defined in the same lookbehind subpattern"
  | invalidReference group => "invalid group reference " ++ Text.ofNat group
  | unterminatedSet => "unterminated character set"
  | badRange first last => "bad character range " ++ first ++ "-" ++ last
  | leastAboveMost => "min repeat greater than max repeat"
  | nothingToRepeat => "nothing to repeat"
  | multipleRepeat => "multiple repeat"
  | unexpectedEnd => "unexpected end of pattern"
  | unknownExtension text => "unknown extension ?" ++ text
  | unknownGroup name => "unknown group name " ++ name.quoted
  | unterminatedComment => "missing ), unterminated comment"
  | unterminatedGroup => "missing ), unterminated subpattern"
  | groupNumberZero => "bad group number"
  | threeBranches => "conditional backref with more than two branches"
  | lateGlobalFlags => "global flags not at the start of the expression"
  | redefinedGroup name group earlier =>
    "redefinition of group name " ++ name.quoted ++ " as group " ++ Text.ofNat group
      ++ "; was group " ++ Text.ofNat earlier
  | localeFlag => "bad inline flags: cannot use 'L' flag with a str pattern"
  | incompatibleFlags => "bad inline flags: flags 'a', 'u' and 'L' are incompatible"
  | unknownFlag => "unknown flag"
  | globalFlagOn => "bad inline flags: cannot turn on global flag"
  | globalFlagOff => "bad inline flags: cannot turn off global flag"
  | alphabetFlagOff => "bad inline flags: cannot turn off flags 'a', 'u' and 'L'"
  | flagOnAndOff => "bad inline flags: flag turned on and off"
  | unbalanced => "unbalanced parenthesis"
  | variableLookBehind => "look-behind requires fixed-width pattern"
  | templateRepeat greed => "internal: unsupported template operator " ++ greed

/-- Why a text gives no pattern: it is malformed, or it is refused for another reason, which the
conditions that hold patterns do not report as a malformed pattern. -/
inductive PatternError where
  | malformed (fault : PatternFault) (place : Option Nat)
  /-- A repetition count beyond the supported range. -/
  | hugeRepeat
  /-- An escape with a code of 32 bits. -/
  | hugeCode
  /-- A number of too many digits. -/
  | hugeNumber (error : NumberError)
  /-- Flags for two alphabets at once. -/
  | twoAlphabets
  deriving DecidableEq, Repr

/-- The wording of an error of a pattern. -/
def PatternError.message (pattern : Text) : PatternError → Text
  | malformed fault none => fault.message
  | malformed fault (some place) =>
    let located := fault.message ++ " at position " ++ Text.ofNat place
    if pattern.any (·.val == 10) then
      let before := pattern.take place
      let lastLine := before.reverse.takeWhile (·.val != 10)
      located ++ " (line " ++ Text.ofNat (before.countP (·.val == 10) + 1) ++ ", column "
        ++ Text.ofNat (lastLine.length + 1) ++ ")"
    else located
  | hugeRepeat => "the repetition number is too large"
  | hugeCode => "Python int too large to convert to C int"
  | hugeNumber error => error.message
  | twoAlphabets => "ASCII and UNICODE flags are incompatible"

end BreakageAdvisor
