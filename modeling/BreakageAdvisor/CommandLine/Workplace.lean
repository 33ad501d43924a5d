import BreakageAdvisor.CommandLine.Basic
import BreakageAdvisor.Database
import BreakageAdvisor.Serving

/-!
# Carrying out commands

Commands are carried out at a workplace: the files, the database, and the settings.
-/

namespace BreakageAdvisor

/-- Where commands are carried out. -/
structure Workplace where
  files : Files := []
  database : Database := {}
  /-- The paths of the bundled catalogs. -/
  catalogs : CatalogPaths := []
  policy : Policy := {}
  testMode : Bool := false
  /-- How long a reply of the browser is awaited, in milliseconds. -/
  timeout : Nat := 10000

/-- What a command gave: the exit code, the text that it wrote, and the last line of its
complaints. -/
structure CommandResult where
  exit : Nat := 0
  output : Text := []
  complaint : Option Text := none

namespace CommandResult

/-- The result of a command that wrote lines. -/
def ofLines (lines : List Text) : CommandResult :=
  { output := lines.flatMap (· ++ [CodePoint.ofChar '\n']) }

/-- The result of a command that was refused. -/
def refused (complaint : Text) : CommandResult := { exit := 2, complaint := some complaint }

/-- The result of a command line that is not carried out. -/
def ofStop : CommandLineStop → CommandResult
  | .help program => ofLines [CommandLineStop.message (.help program)]
  | .usage program complaint => refused (CommandLineStop.message (.usage program complaint))

end CommandResult

namespace Workplace

/-- A computation on the database. -/
def onDatabase {α : Type} : Act Database α → Act Workplace α :=
  Act.onPart (·.database) fun database workplace => { workplace with database }

/-- The host at a workplace. -/
def host (workplace : Workplace) : Host where
  policy := workplace.policy
  testMode := workplace.testMode
  timeout := workplace.timeout
  preferences := workplace.database.preferences
  bundled :=
    ⟨workplace.catalogs.load workplace.files Trigger.tab.name,
      workplace.catalogs.load workplace.files Trigger.request.name⟩
  advisor := { ledger := { store := workplace.database.toStore } }

/-- The database after the host changed its state. -/
def keep (host : Host) (workplace : Workplace) : Workplace :=
  let database := workplace.database.withStore host.advisor.ledger.store
  { workplace with database := { database with preferences := host.preferences } }

/-- What the host reports first. -/
def greet (policy : Policy) : Act Workplace Unit := do
  Act.report .hostStarting
  Act.report (.hostPolicy policy.matching.tab.name policy.matching.request.name
    policy.notifications.name)

/-- Serves a stream of messages that are all there. -/
def serve (stream : ByteStream) : Act Workplace (Except Failure CommandResult) := do
  let workplace ← Act.get
  greet workplace.policy
  let host ← Act.onPart host keep do
    Host.serve stream
    Act.get
  match host.served with
  | some (.error cause) => return .error cause
  | _ => return .ok {}

/-- The bundled catalog for a trigger; one that cannot be loaded is reported and counts as
empty. -/
def bundled (trigger : Trigger) : Act Workplace Json := do
  let workplace ← Act.get
  match workplace.catalogs.load workplace.files trigger.name with
  | .ok catalog => return catalog
  | .error _ =>
    Act.report (.bundledUnreadable .host trigger)
    return .list []

/-- The line that shows a rule. -/
def ruleLine (trigger : Trigger) (origin : Text) (rule : Rule) : Text :=
  let domains := rule.domains.mergeSort fun a b => !Text.before b a
  "[" ++ trigger.name ++ "/" ++ origin ++ "] " ++ rule.labelOr "-" ++ " ("
    ++ Text.join ", " domains ++ "): " ++ rule.message.toText

/-- The lines that show the rules of a catalog. -/
def ruleLines (trigger : Trigger) (origin : Text) (catalog : Json) : Act Workplace (List Text) := do
  let (rules, reports) := Rule.build catalog.items
  reports.forM Act.report
  return rules.map (ruleLine trigger origin)

/-- The lines that show the rules for some triggers: the bundled ones, then the configured ones. -/
def showRules : List Trigger → Act Workplace (Except Failure (List Text))
  | [] => return .ok []
  | trigger :: rest => do
    let bundled ← bundled trigger
    match ← onDatabase (Database.catalog trigger.name) with
    | .error cause => return .error cause
    | .ok configured =>
      let first ← ruleLines trigger "static" bundled
      let second ← ruleLines trigger "dynamic" configured
      return (← showRules rest).map fun lines => first ++ second ++ lines

/-- Removes the configured catalogs for some triggers. -/
def clearCatalogs : List Trigger → Act Workplace (Except Failure Unit)
  | [] => return .ok ()
  | trigger :: rest => do
    match ← onDatabase (Database.clearCatalog trigger.name) with
    | .error cause => return .error cause
    | .ok _ => clearCatalogs rest

/-- Stores the catalog in a file as the configured one for a trigger. -/
def setCatalog (trigger : Trigger) (file : Text) :
    Act Workplace (Except Failure CommandResult) := do
  match (← Act.get).files.document file with
  | .error cause => return .error cause
  | .ok (.list entries) =>
    match ← onDatabase (Database.setCatalog trigger.name (.list entries)) with
    | .error cause => return .error cause
    | .ok _ =>
      return .ok (.ofLines ["Stored " ++ Text.ofNat entries.length ++ " dynamic " ++ trigger.name
        ++ " breakage(s)."])
  | .ok _ => return .ok (.refused "The breakages file must contain a JSON array.")

/-- Forgets all domains that were told of. -/
def clearLedger : Act Workplace (Except Failure CommandResult) := do
  match ← onDatabase Database.clearNotified with
  | .error cause => return .error cause
  | .ok count =>
    Act.report (.notifiedCleared count)
    return .ok (.ofLines ["Removed " ++ Text.ofNat count ++ " notified domain(s)."])

/-- Carries out a command; the stream holds the messages of the browser. -/
def carryOut (stream : ByteStream) (command : Command) :
    Act Workplace (Except Failure CommandResult) := do
  onDatabase Database.prepare
  match command with
  | .run => serve stream
  | .listLedger => return (← onDatabase Database.listNotified).map .ofLines
  | .clearLedger => clearLedger
  | .showRules triggers => return (← showRules triggers).map .ofLines
  | .setCatalog trigger file => setCatalog trigger file
  | .clearCatalogs triggers => return (← clearCatalogs triggers).map fun _ => {}

/-- Carries out a command line. -/
def main (words : List Text) (stream : ByteStream) : Act Workplace (Except Failure CommandResult) :=
  match Command.read words with
  | .ok command => carryOut stream command
  | .error stop => return .ok (.ofStop stop)

end Workplace

end BreakageAdvisor
