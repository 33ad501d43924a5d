import BreakageAdvisor.Journal
import BreakageAdvisor.Rule

/-!
# The rule book

The rules in force for each trigger: those of the bundled catalog, then those of the configured
one. The rules of a trigger are replaced as a whole when they are rebuilt. Rebuilds take numbers
and run one at a time in that order, so a slow earlier one cannot overwrite a later one. A bundled
catalog is loaded once. A catalog that cannot be loaded counts as empty.
-/

namespace BreakageAdvisor

/-- The rule book. -/
structure RuleBook where
  /-- The rules of the bundled catalogs, as far as they were loaded. -/
  bundled : PerTrigger (Option (List Rule)) := .both none
  /-- The rules in force. -/
  rules : PerTrigger (List Rule) := .both []
  /-- How many rebuilds took a number. -/
  numbers : Nat := 0
  /-- The number of the rebuild that may run. -/
  turn : Nat := 0

/-- Where a rebuild waits for a catalog; the triggers that remain are rebuilt afterwards. -/
inductive Rebuild where
  | bundled (trigger : Trigger) (rest : List Trigger)
  | configured (trigger : Trigger) (rest : List Trigger)
  deriving DecidableEq, Repr

namespace Rebuild

/-- The query whose reply a rebuild waits for. -/
def query : Rebuild → Query
  | bundled trigger _ => .bundled trigger
  | configured trigger _ => .configured trigger

/-- How far a rebuild has come. -/
inductive Progress where
  | ended
  /-- It waits until its number is called. -/
  | queued (number : Nat)
  /-- It waits for a catalog. -/
  | waiting (rebuild : Rebuild)
  deriving DecidableEq, Repr

/-- The rules of a catalog as it was loaded, with reports on the entries skipped. What is no list is
an empty catalog. -/
def read (catalog : Json) : Act RuleBook (List Rule) := do
  let (rules, reports) := Rule.build catalog.items
  reports.forM Act.report
  return rules

/-- Goes on with the triggers that remain. -/
def next : List Trigger → Act RuleBook Progress
  | [] => do
    Act.modify fun book => { book with turn := book.turn + 1 }
    return .ended
  | trigger :: rest => do
    match (← Act.get).bundled.get trigger with
    | none => return .waiting (.bundled trigger rest)
    | some _ => return .waiting (.configured trigger rest)

/-- Begins a rebuild whose number may have to wait. -/
def call (number : Nat) : Act RuleBook Progress := do
  if (← Act.get).turn = number then next Trigger.all else return .queued number

/-- Begins a rebuild: it takes the next number. -/
def begin : Act RuleBook Progress := do
  let number := (← Act.get).numbers
  Act.modify fun book => { book with numbers := number + 1 }
  call number

/-- Keeps the rules of a bundled catalog. -/
def keep (trigger : Trigger) (rules : List Rule) : Act RuleBook Unit :=
  Act.modify fun book => { book with bundled := book.bundled.set trigger (some rules) }

/-- Puts the rules of a trigger in force: the bundled ones, then the configured ones. -/
def enforce (trigger : Trigger) (configured : List Rule) : Act RuleBook Unit := do
  let bundled := ((← Act.get).bundled.get trigger).getD []
  Act.modify fun book => { book with rules := book.rules.set trigger (bundled ++ configured) }
  Act.report (.rulesLoaded trigger bundled.length configured.length)

/-- Goes on with the catalog that a rebuild waits for. -/
def resume : (rebuild : Rebuild) → rebuild.query.Reply → Act RuleBook Progress
  | .bundled trigger rest, .ok catalog => do
    keep trigger (← read catalog)
    return .waiting (.configured trigger rest)
  | .bundled trigger rest, .error _ => do
    Act.report (.bundledUnreadable .registry trigger)
    keep trigger []
    return .waiting (.configured trigger rest)
  | .configured trigger rest, .ok catalog => do
    enforce trigger (← read catalog)
    next rest
  | .configured trigger rest, .error _ => do
    Act.report (.dynamicUnreadable trigger)
    enforce trigger []
    next rest

end Rebuild

end BreakageAdvisor
