import BreakageAdvisor.Condition.Evaluation
import BreakageAdvisor.Ledger
import BreakageAdvisor.Policy
import BreakageAdvisor.Rule
import BreakageAdvisor.Web.Url

/-!
# Attempts

An attempt decides whether the user is told of a known breakage at a URL, and tells the user. Its
order is strict: the domain of the URL, the claim on the domain, the first rule that lists the
domain, the condition of the rule, the notification, the record in the ledger, and at last what the
answer to the notification brings about. An attempt stops at every query and goes on with the
reply; other attempts may go on meanwhile. Whoever claimed a domain releases it at the end,
whatever happens.
-/

namespace BreakageAdvisor

/-- What an attempt is about. -/
structure Attempt where
  tab : TabId
  trigger : Trigger
  url : Text
  /-- The rules as they were when the attempt began. -/
  rules : List Rule

namespace Attempt

/-- Where an attempt waits for a reply. -/
inductive Stage where
  /-- For the domain of the URL. -/
  | resolving
  /-- For the cookies of a domain that the condition of a rule may look at. -/
  | gathering (domain : Text) (rule : Rule) (condition : Condition) (wanted : Text)
      (rest : List Text) (gathered : Gathering)
  /-- For the answer to the notification. -/
  | showing (domain : Text) (rule : Rule)
  /-- For the exemption of the URL. -/
  | allowing (domain : Text)
  /-- For the tab to be reloaded. -/
  | reloading (domain : Text)

/-- The query whose reply an attempt waits for. -/
def Stage.query (attempt : Attempt) : Stage → Query
  | resolving => .baseDomain attempt.url
  | gathering _ _ _ wanted _ _ => .cookies wanted
  | showing _ rule => .notification rule.message
  | allowing _ => .allow attempt.url
  | reloading _ => .reload attempt.tab

/-- The domain that an attempt has claimed. -/
def Stage.domain? : Stage → Option Text
  | resolving => none
  | gathering domain _ _ _ _ _ => some domain
  | showing domain _ => some domain
  | allowing domain => some domain
  | reloading domain => some domain

/-- How far an attempt has come: it has ended, and says whether a notification was shown, or it
waits. -/
inductive Progress where
  | ended (result : Except Failure Bool)
  | waiting (stage : Stage)

/-- Ends an attempt that has claimed a domain. -/
def finish (domain : Text) (result : Except Failure Bool) : Act Ledger Progress := do
  Ledger.release domain
  return .ended result

/-- The first rule that lists a domain, unless the user ignores that rule. -/
def findRule (attempt : Attempt) (domain : Text) : Act Ledger (Option Rule) := do
  match Rule.find? attempt.rules domain with
  | none => return none
  | some rule =>
    if ← Ledger.isIgnored rule.id then
      Act.report (.ruleIgnored (rule.id.getD []))
      return none
    return some rule

/-- Goes on from a condition as far as its jars are gathered. -/
def decide (attempt : Attempt) (domain : Text) (rule : Rule) (condition : Condition) :
    Evaluation → Act Ledger Progress
  | .wanting wanted rest gathered =>
    return .waiting (.gathering domain rule condition wanted rest gathered)
  | .complete gathered =>
    match condition.check (some attempt.url) gathered with
    | .ok true => return .waiting (.showing domain rule)
    | .ok false => finish domain (.ok false)
    | .error cause => finish domain (.error cause)

/-- Begins to evaluate the condition of a rule. -/
def judge (policy : Policy) (attempt : Attempt) (domain : Text) (rule : Rule) :
    Act Ledger Progress :=
  match rule.condition with
  | .null => return .waiting (.showing domain rule)
  | description =>
    match Condition.ofJson description with
    | .ok condition =>
      attempt.decide domain rule condition (condition.gather policy.cookies [])
    | .error error =>
      if error.blamesDescription then do
        Act.report (.invalidCondition (rule.labelOr domain))
        finish domain (.ok false)
      else finish domain (.error (.condition error))

/-- Goes on with the domain of the URL. -/
def enter (policy : Policy) (attempt : Attempt) (domain : Text) : Act Ledger Progress := do
  if ← Ledger.reserve domain then
    match ← attempt.findRule domain with
    | some rule => attempt.judge policy domain rule
    | none => finish domain (.ok false)
  else return .ended (.ok false)

/-- Begins an attempt. -/
def begin (policy : Policy) (attempt : Attempt) : Act Ledger Progress :=
  match policy.matching.get attempt.trigger with
  | .host => attempt.enter policy (Url.host attempt.url)
  | .baseDomain => return .waiting .resolving

/-- The registrable domain that a reply gives. A failure is reported and gives no domain. -/
def resolved {σ : Type} (url : Text) : Except Failure Text → Act σ Text
  | .ok domain => return domain
  | .error _ => do
    Act.report (.baseDomainFailed url)
    return []

/-- Does what the answer to a notification asks for. -/
def answered (policy : Policy) (domain : Text) (rule : Rule) (outcome : Json) :
    Act Ledger Progress :=
  match policy.notifications, outcome with
  | .informational, _ => finish domain (.ok true)
  | .actionable, .null => finish domain (.ok true)
  | .actionable, .text answer => do
    if answer = "closed" then finish domain (.ok true)
    else if answer = "not-anymore" then
      Ledger.ignore rule.id
      finish domain (.ok true)
    else if answer = "clicked" then return .waiting (.allowing domain)
    else
      Act.report (.unexpectedOutcome outcome)
      finish domain (.ok true)
  | .actionable, _ => do
    Act.report (.unexpectedOutcome outcome)
    finish domain (.ok true)

/-- Records a notification that was shown and goes on with its answer. -/
def shown (policy : Policy) (attempt : Attempt) (domain : Text) (rule : Rule) (outcome : Json) :
    Act Ledger Progress := do
  Ledger.record domain
  Act.report (.notificationShown domain (rule.labelOr attempt.trigger.name))
  answered policy domain rule outcome

/-- Goes on with the reply that an attempt waits for. A notification whose answer is lost may be on
the screen, so it counts as shown. -/
def resume (policy : Policy) (attempt : Attempt) :
    (stage : Stage) → (stage.query attempt).Reply → Act Ledger Progress
  | .resolving, reply => do attempt.enter policy (← resolved attempt.url reply)
  | .gathering domain rule condition wanted rest gathered, reply => do
    attempt.decide domain rule condition (← Evaluation.resume wanted rest gathered reply)
  | .showing domain rule, .ok outcome => attempt.shown policy domain rule outcome
  | .showing domain rule, .error (.bridge _) => do
    Act.report (.notificationUnanswered domain)
    attempt.shown policy domain rule .null
  | .showing domain _, .error cause => do
    Ledger.record domain
    finish domain (.error cause)
  | .allowing domain, .ok _ => return .waiting (.reloading domain)
  | .allowing domain, .error cause => finish domain (.error cause)
  | .reloading domain, .ok _ => finish domain (.ok true)
  | .reloading domain, .error cause => finish domain (.error cause)

/-- Breaks an attempt off where it waits. A notification that waits for its answer counts as
shown. -/
def abandon : Stage → Act Ledger Unit
  | .resolving => return
  | .showing domain _ => do
    Ledger.record domain
    Ledger.release domain
  | .gathering domain _ _ _ _ _ => Ledger.release domain
  | .allowing domain => Ledger.release domain
  | .reloading domain => Ledger.release domain

end Attempt

end BreakageAdvisor
