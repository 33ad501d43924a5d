import BreakageAdvisor.Activator
import BreakageAdvisor.Attempt
import BreakageAdvisor.Handler
import BreakageAdvisor.RuleBook

/-!
# The advisor

The whole advisor: the ledger, the rule book, the tracker and the activator. Its work is done in
tasks. A task runs until it waits for the reply to a query; when the reply is there it goes on.
Between the steps of one task those of others may come.
-/

namespace BreakageAdvisor

/-- The advisor. -/
structure Advisor where
  ledger : Ledger := {}
  book : RuleBook := {}
  activator : Activator := {}

/-- What the advisor is told by its surroundings. -/
structure Setting where
  policy : Policy := {}
  feature : Feature := {}

/-- What a task is for, when it rebuilds the rules. -/
inductive Rebuild.Purpose where
  /-- The rules only. -/
  | rules
  /-- A start of the activator with a subscription of this number. -/
  | start (number : Nat)
  deriving DecidableEq, Repr

/-- A task that waits for a reply. -/
inductive Task where
  /-- An attempt on its own. -/
  | attempting (attempt : Attempt) (stage : Attempt.Stage)
  /-- A handler that looks a tab up. -/
  | lookingUp (lookup : Handler.Lookup)
  /-- A handler that waits for a judgement, which is an attempt. -/
  | judging (attempt : Attempt) (stage : Attempt.Stage) (purpose : Handler.Purpose)
  /-- A rebuild of the rules. -/
  | rebuilding (rebuild : Rebuild) (purpose : Rebuild.Purpose)

namespace Task

/-- The query whose reply a task waits for. -/
def query : Task → Query
  | attempting attempt stage => stage.query attempt
  | lookingUp lookup => .tab lookup.tab
  | judging attempt stage _ => stage.query attempt
  | rebuilding rebuild _ => rebuild.query

/-- What a task gave in the end. -/
inductive Outcome where
  | done
  /-- The result of an attempt on its own. -/
  | attempted (result : Except Failure Bool)
  /-- The activator was started, with the subscription of this number. -/
  | started (number : Nat)

/-- How far a task has come. -/
inductive Progress where
  | ended (outcome : Outcome)
  | waiting (task : Task)
  /-- A rebuild that waits for its number to be called. -/
  | queued (number : Nat) (purpose : Rebuild.Purpose)

end Task

namespace Advisor

/-- A computation on the ledger. -/
def onLedger {α : Type} : Act Ledger α → Act Advisor α :=
  Act.onPart (·.ledger) fun ledger advisor => { advisor with ledger }

/-- A computation on the rule book. -/
def onBook {α : Type} : Act RuleBook α → Act Advisor α :=
  Act.onPart (·.book) fun book advisor => { advisor with book }

/-- A computation on the activator. -/
def onActivator {α : Type} : Act Activator α → Act Advisor α :=
  Act.onPart (·.activator) fun activator advisor => { advisor with activator }

/-- A computation on the tracker. -/
def onTracker {α : Type} (act : Act Tracker α) : Act Advisor α :=
  onActivator (Activator.onTracker act)

/-- A computation on the deferred activity. -/
def onDeferred {α : Type} (act : Act Deferred α) : Act Advisor α :=
  onTracker (Tracker.onDeferred act)

/-- Goes on with a rebuild. -/
def rebuilt (setting : Setting) (purpose : Rebuild.Purpose) :
    Rebuild.Progress → Act Advisor Task.Progress
  | .queued number => return .queued number purpose
  | .waiting rebuild => return .waiting (.rebuilding rebuild purpose)
  | .ended => do
    match purpose with
    | .rules => return .ended .done
    | .start number =>
      onActivator (Activator.complete setting.policy.tracking setting.feature number)
      return .ended (.started number)

/-- An attempt under the rules that are in force. -/
def attempt (tab : TabId) (trigger : Trigger) (url : Text) : Act Advisor Attempt := do
  return ⟨tab, trigger, url, (← Act.get).book.rules.get trigger⟩

/-- Begins the attempts on deferred requests of a tab, up to the first that waits. -/
def replay (policy : Policy) (tab : Tab) : List Text → Act Advisor Task.Progress
  | [] => return .ended .done
  | url :: rest => do
    let attempt ← attempt tab.id .request url
    match ← onLedger (attempt.begin policy) with
    | .waiting stage => return .waiting (.judging attempt stage (.replay tab rest))
    | .ended result =>
      match ← onDeferred (Handler.judged (.replay tab rest) result) with
      | .judging _ _ => replay policy tab rest
      | _ => return .ended .done

/-- Goes on with a handler that has come so far. -/
def handled (policy : Policy) : Handler.Progress → Act Advisor Task.Progress
  | .ended => return .ended .done
  | .lookingUp lookup => return .waiting (.lookingUp lookup)
  | .judging case purpose => do
    let attempt ← attempt case.tab.id case.trigger case.url
    match ← onLedger (attempt.begin policy) with
    | .waiting stage => return .waiting (.judging attempt stage purpose)
    | .ended result =>
      match ← onDeferred (Handler.judged purpose result) with
      | .judging next (.replay tab rest) => replay policy tab (next.url :: rest)
      | _ => return .ended .done

/-- Goes on with the reply that a task waits for. -/
def resume (setting : Setting) : (task : Task) → task.query.Reply → Act Advisor Task.Progress
  | .attempting attempt stage, reply => do
    match ← onLedger (attempt.resume setting.policy stage reply) with
    | .waiting stage => return .waiting (.attempting attempt stage)
    | .ended result => return .ended (.attempted result)
  | .lookingUp lookup, reply => do
    handled setting.policy (← onDeferred (Handler.lookedUp lookup reply))
  | .judging attempt stage purpose, reply => do
    match ← onLedger (attempt.resume setting.policy stage reply) with
    | .waiting stage => return .waiting (.judging attempt stage purpose)
    | .ended result => handled setting.policy (← onDeferred (Handler.judged purpose result))
  | .rebuilding rebuild purpose, reply => do
    rebuilt setting purpose (← onBook (rebuild.resume reply))

/-- Begins an attempt on its own. -/
def notify (policy : Policy) (tab : TabId) (trigger : Trigger) (url : Text) :
    Act Advisor Task.Progress := do
  let attempt ← attempt tab trigger url
  match ← onLedger (attempt.begin policy) with
  | .waiting stage => return .waiting (.attempting attempt stage)
  | .ended result => return .ended (.attempted result)

/-- A tab changed. -/
def tabUpdated (policy : Policy) (update : TabUpdate) : Act Advisor Task.Progress := do
  handled policy (← onDeferred (Handler.tabUpdated policy.tracking update))

/-- A tab came to the foreground. -/
def tabActivated (policy : Policy) (tab : TabId) : Act Advisor Task.Progress := do
  handled policy (← onDeferred (Handler.activated tab))

/-- A request was issued. -/
def requested (policy : Policy) (event : RequestEvent) : Act Advisor Task.Progress := do
  handled policy (← onDeferred (Handler.requested policy.tracking event))

/-- The feature was switched on or off. -/
def activationChanged (policy : Policy) (enabled : Bool) : Act Advisor Task.Progress := do
  onActivator (Activator.activationChanged policy.tracking enabled)
  return .ended .done

/-- Rebuilds the rules. -/
def rebuild (setting : Setting) : Act Advisor Task.Progress := do
  rebuilt setting .rules (← onBook Rebuild.begin)

/-- A configured catalog changed: the rules are rebuilt. -/
def catalogChanged (setting : Setting) (kind : Text) : Act Advisor Task.Progress := do
  Act.report (.dynamicChanged kind)
  rebuild setting

/-- Begins a rebuild again that waited for its number. -/
def call (setting : Setting) (number : Nat) (purpose : Rebuild.Purpose) :
    Act Advisor Task.Progress := do
  rebuilt setting purpose (← onBook (Rebuild.call number))

/-- Starts the activator. -/
def start (setting : Setting) : Act Advisor Task.Progress := do
  let (number, new) ← onActivator Activator.begin
  if new then rebuilt setting (.start number) (← onBook Rebuild.begin)
  else return .ended (.started number)

/-- Stops the activator. -/
def stop : Act Advisor Unit := onActivator Activator.stop

/-- Breaks a task off where it waits. -/
def abandon : Task → Act Advisor Unit
  | .attempting _ stage => onLedger (Attempt.abandon stage)
  | .judging _ stage _ => onLedger (Attempt.abandon stage)
  | _ => return

end Advisor

end BreakageAdvisor
