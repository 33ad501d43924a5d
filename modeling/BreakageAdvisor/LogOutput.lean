import BreakageAdvisor.Section
import BreakageAdvisor.Text.LetterCase

/-!
# Where reports go

The settings say from which level on reports are written, and whether they go to the console, to a
file, or to both.
-/

namespace BreakageAdvisor

/-- A place that reports are written to, from a level on. -/
inductive LogTarget where
  | console (level : Nat)
  /-- A file that is replaced when it grows too large; some older ones are kept. -/
  | file (level : Nat) (path : Text) (maxBytes backups : Int)
  deriving DecidableEq, Repr

namespace LogTarget

/-- What a level word in capitals stands for: a level, or a text that is none. -/
def wordMeaning (word : Text) : Except Text Nat :=
  if word = "CRITICAL" ∨ word = "FATAL" then .ok 50
  else if word = "ERROR" then .ok 40
  else if word = "WARNING" ∨ word = "WARN" then .ok 30
  else if word = "DEBUG" then .ok 10
  else if word = "NOTSET" then .ok 0
  else if word = "BASIC_FORMAT" then .error "%(levelname)s:%(name)s:%(message)s"
  else .ok 20

/-- The level of a target; a word that stands for none is an error. -/
def levelOf : Except Text Nat → Except Failure Nat
  | .ok level => .ok level
  | .error other => .error (.unknownLevel other)

/-- Follows the names of a path, without those that stay in place or lead back. -/
def follow : List Text → List Text → List Text
  | [], passed => passed.reverse
  | name :: rest, passed =>
    if name = [] ∨ name = "." then follow rest passed
    else if name = ".." then follow rest passed.tail
    else follow rest (name :: passed)

/-- The parts of a path between slashes. -/
def parts (path : Text) : List Text := Text.splitWhere (fun c : CodePoint => c == '/') path

/-- The root that a path starts from: none, one slash, or two slashes, which are a root of their
own; more slashes are as one. -/
def rootOf (path : Text) : Text :=
  match path.takeWhile (· == CodePoint.ofChar '/') with
  | [] => []
  | [_, _] => "//"
  | _ => "/"

/-- A path in normal form. -/
def normalPath (path : Text) : Text := rootOf path ++ Text.join "/" (follow (parts path) [])

/-- Whether a path names a directory by its form. -/
def isDirectory (path : Text) : Bool :=
  let last := (parts path).getLast?.getD []
  last.isEmpty || last == Text.ofString "." || last == Text.ofString ".."

/-- The target of a file section. -/
def ofSection (root : Text) (config : Fields) (word : Except Text Nat) :
    Except Failure LogTarget := do
  let path ← (config.getOr "path" (.text "logs/breakwatch.log")).path root
  let maxBytes ← (config.getOr "max_bytes" (.int 5242880)).integer
  let backups ← (config.getOr "backup_count" (.int 5)).integer
  if isDirectory path then throw (.isDirectory (normalPath path))
  let level ← levelOf word
  return .file level (normalPath path) maxBytes backups

end LogTarget

/-- Where reports go, and from which level on; there is no level if they go nowhere. -/
structure LogOutput where
  targets : List LogTarget
  level : Option Nat
  deriving DecidableEq, Repr

namespace LogOutput

/-- Reports that go nowhere. -/
def silent : LogOutput := ⟨[], none⟩

/-- Reads where reports go. -/
def ofJson (root : Text) (logging : Json) : Except Failure LogOutput := do
  if !logging.truthy then return silent
  let config ← logging.section
  if !(config.getOr "enabled" (.bool false)).truthy then return silent
  let word := LogTarget.wordMeaning
    (Text.asciiCapitals (config.getOr "level" (.text "INFO")).display)
  let mut targets : List LogTarget := []
  if (config.getOr "console" (.bool true)).truthy then
    targets := [.console (← LogTarget.levelOf word)]
  let file ← config.subsection "file"
  if (file.getOr "enabled" (.bool false)).truthy then
    targets := targets ++ [← LogTarget.ofSection root file word]
  if targets.isEmpty then return silent
  return ⟨targets, some (← LogTarget.levelOf word)⟩

end LogOutput

end BreakageAdvisor
