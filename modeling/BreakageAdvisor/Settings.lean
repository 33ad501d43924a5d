import BreakageAdvisor.Files
import BreakageAdvisor.Policy
import BreakageAdvisor.Section
import BreakageAdvisor.Text.CharacterClass
import BreakageAdvisor.Text.LetterCase

/-!
# Settings

All that an operator can choose is read from one document. The first section that is at fault, in a
fixed order, decides the error.
-/

namespace BreakageAdvisor

/-- The settings. -/
structure Settings where
  /-- Where the database is. -/
  database : Text
  /-- Where the bundled catalogs are. -/
  catalogs : PerTrigger Text
  policy : Policy
  /-- How long a reply of the browser is awaited, in seconds. -/
  timeout : Binary64
  testMode : Bool
  /-- How reports are to be written. -/
  logging : Json

namespace Settings

/-- The name of the settings file. -/
def fileName : Text := "config.json"

/-- The tracking policy of the settings. -/
def readTracking (config : Fields) : Except Failure TrackingPolicy := do
  let tracking ← config.subsection "tracking"
  let statuses ← (tracking.getOr "trigger_statuses" (.list [.text "loading"])).toSet
  let requests ← tracking.subsection "requests"
  let types ← (requests.getOr "types" (.list [])).toSet
  return {
    statuses := statuses
    requests := (requests.getOr "enabled" (.bool true)).truthy
    requestTypes := types }

/-- Reads the settings of a document; paths are beneath a root. -/
def ofJson (root : Text) (document : Json) : Except Failure Settings := do
  let config ← document.section
  let storage ← config.subsection "database"
  let database ← (storage.getOr "path" (.text "breakwatch.db")).path root
  let catalogs ← config.subsection "catalogs"
  let tab ← (catalogs.getOr "tab" (.text "breakages/tab.json")).path root
  let request ← (catalogs.getOr "request" (.text "breakages/request.json")).path root
  let modes ← config.subsection "matching"
  let matching ← Matching.ofJson (modes.getOr "tab" (.text MatchingMode.host.name))
    (modes.getOr "request" (.text MatchingMode.baseDomain.name))
  let tracking ← readTracking config
  let notifications ← config.subsection "notifications"
  let mode ← NotificationMode.ofJson
    (notifications.getOr "mode" (.text NotificationMode.informational.name))
  let bridge ← config.subsection "bridge"
  let timeout ← (bridge.getOr "call_timeout_seconds" (.int 10)).number
  return {
    database := database
    catalogs := ⟨tab, request⟩
    policy := { matching := matching, notifications := mode, tracking := tracking }
    timeout := timeout
    testMode := (config.getOr "test_mode" (.bool false)).truthy
    logging := config.getOr "logging" (.object []) }

/-- Reads the settings file among some files. -/
def load (root : Text) (files : Files) : Except Failure Settings :=
  match files.lookup fileName with
  | none => .error (.missingSettings fileName)
  | some _ => do ofJson root (← files.document fileName)

/-- Whether a word switches something on. -/
def isYes (word : Text) : Bool :=
  let word := Text.lower (Text.strip word)
  word == "1" || word == "true" || word == "yes"

/-- Whether test mode is on: a word from the environment overrides the settings. -/
def effectiveTestMode (settings : Settings) (environment : Option Text) : Bool :=
  match environment with
  | some word => isYes word
  | none => settings.testMode

end Settings

end BreakageAdvisor
