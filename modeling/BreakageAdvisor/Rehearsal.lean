import BreakageAdvisor.Ending
import BreakageAdvisor.Web.BaseDomain

/-!
# Rehearsals

A rehearsal runs the advisor in a scripted browser, which answers every query at once. So every
event is handled to its end before the next. Any port of the advisor can be made to fail.
-/

namespace BreakageAdvisor

/-- The ports by which the advisor asks its surroundings. -/
inductive Port where
  | baseDomain | cookies | notification | allow | reload | tab | bundled | configured
  deriving DecidableEq, Repr

/-- The port of a query. -/
def Query.port : Query → Port
  | baseDomain _ => .baseDomain
  | cookies _ => .cookies
  | notification _ => .notification
  | allow _ => .allow
  | reload _ => .reload
  | tab _ => .tab
  | bundled _ => .bundled
  | configured _ => .configured

/-- A scripted browser. -/
structure Browser where
  tabs : List Tab := []
  jars : List (Text × Jar) := []
  /-- The answer to every notification. -/
  outcome : Json := .null
  bundled : List (Text × Json) := []
  configured : List (Text × Json) := []
  /-- Whether no URL has a registrable domain. -/
  noDomains : Bool := false
  /-- The failures of ports; the first that is listed for a port counts. -/
  faults : List (Port × Option Failure) := []

namespace Browser

/-- The failure of a port. -/
def fault? (browser : Browser) (port : Port) : Option Failure :=
  (browser.faults.lookup port).join

/-- A catalog, empty when there is none. -/
def catalog (catalogs : List (Text × Json)) (trigger : Trigger) : Json :=
  (catalogs.lookup trigger.name).getD (.list [])

/-- Adds a tab, in the place of an older state of it. -/
def putTab (browser : Browser) (tab : Tab) : Browser :=
  { browser with tabs := tab :: browser.tabs.filter fun t => !(t.id == tab.id) }

/-- Removes a tab. -/
def removeTab (browser : Browser) (id : TabId) : Browser :=
  { browser with tabs := browser.tabs.filter fun t => !(t.id == id) }

/-- The reply of a browser whose ports do not fail. -/
def answer (browser : Browser) : (query : Query) → query.Reply
  | .baseDomain url =>
    .ok (if browser.noDomains then [] else Url.baseDomain SuffixRules.known url)
  | .cookies domain => .ok ((browser.jars.lookup domain).getD [])
  | .notification _ => .ok browser.outcome
  | .allow _ => .ok ()
  | .reload _ => .ok ()
  | .tab id =>
    match browser.tabs.find? (·.id == id) with
    | some tab => .ok tab
    | none => .error .tabGone
  | .bundled trigger => .ok (catalog browser.bundled trigger)
  | .configured trigger => .ok (catalog browser.configured trigger)

/-- The reply to a query. -/
def reply (browser : Browser) (query : Query) : query.Reply :=
  match browser.fault? query.port with
  | some cause => .error cause
  | none => browser.answer query

end Browser

/-- What a start gave: the number of a subscription of the tracker, or of the activator. -/
inductive Rehearsal.Handle where
  | tracker (number : Nat)
  | activator (number : Nat)
  deriving DecidableEq, Repr

/-- A rehearsal. -/
structure Rehearsal where
  advisor : Advisor := {}
  setting : Setting := {}
  browser : Browser := {}
  /-- What the last start gave. -/
  last : Option Rehearsal.Handle := none

namespace Rehearsal

/-- A computation on the advisor. -/
def onAdvisor {α : Type} : Act Advisor α → Act Rehearsal α :=
  Act.onPart (·.advisor) fun advisor rehearsal => { rehearsal with advisor }

/-- Answers one query after the other until a task has ended, or waits for another task. -/
def drive (setting : Setting) (reply : (query : Query) → query.Reply) :
    Task.Progress → Act Advisor Task.Progress
  | .waiting task => fun advisor =>
    let step := Advisor.resume setting task (reply task.query) advisor
    let later := drive setting reply step.1.1 step.1.2
    (later.1, .asked task.query :: step.2 ++ later.2)
  | progress => return progress
termination_by progress => progress.rank
decreasing_by exact Advisor.rank_resume setting task _ advisor

/-- Runs a task to its end. -/
def run (begin : Setting → Act Advisor Task.Progress) : Act Rehearsal Task.Progress := do
  let rehearsal ← Act.get
  onAdvisor do drive rehearsal.setting rehearsal.browser.reply (← begin rehearsal.setting)

/-- Tells the listeners on a channel of an event, one after the other. -/
def tell (channel : Channel) (begin : Setting → Act Advisor Task.Progress) :
    Act Rehearsal Unit := do
  let listeners := (← Act.get).advisor.activator.tracker.listeners
  (listeners.on channel).forM fun _ => do
    let _ ← run begin

/-- Tells the listeners that a tab changed. -/
def tabUpdated (update : TabUpdate) : Setting → Act Advisor Task.Progress :=
  fun setting => Advisor.tabUpdated setting.policy update

/-- The domain that a URL is compared by, for the trigger of a name. -/
def resolve (trigger : Json) (url : Text) : Act Rehearsal (Except Failure Text) := do
  let rehearsal ← Act.get
  match rehearsal.setting.policy.matching.modeNamed trigger with
  | .error cause => return .error cause
  | .ok .host => return .ok (Url.host url)
  | .ok .baseDomain =>
    Act.enter (.asked (.baseDomain url))
    return .ok (← Attempt.resolved url (rehearsal.browser.reply (.baseDomain url)))

/-- Makes one attempt on its own, under the rules of the trigger of a name. -/
def notify (trigger url : Text) (tab : TabId) : Act Rehearsal (Except Failure Bool) := do
  match Trigger.ofName? trigger with
  | none => return .error (.unknownKey trigger)
  | some t =>
    match ← run fun setting => Advisor.notify setting.policy tab t url with
    | .ended (.attempted result) => return result
    | _ => return .ok false

/-- Two rebuilds, of which the second begins while the first waits for a configured catalog, which
it reads before the catalogs change. -/
def rebuildTwice (first second : List (Text × Json)) : Act Rehearsal Unit := do
  let before := { (← Act.get).browser with configured := first }
  let after := { before with configured := second }
  let setting := (← Act.get).setting
  onAdvisor do
    let mut progress ← Advisor.rebuild setting
    if let .waiting task := progress then
      if task.query.port = .bundled then
        Act.enter (.asked task.query)
        progress ← Advisor.resume setting task (before.reply task.query)
    if let .waiting task := progress then
      Act.enter (.asked task.query)
      let other ← Advisor.rebuild setting
      let _ ← drive setting after.reply (← Advisor.resume setting task (before.reply task.query))
      if let .queued number purpose := other then
        let _ ← drive setting after.reply (← Advisor.call setting number purpose)
  Act.modify fun rehearsal => { rehearsal with browser := after }

/-- Notes what a start gave: whether it gave the same as the last start. -/
def note (handle : Handle) : Act Rehearsal Bool := do
  let same := (← Act.get).last == some handle
  Act.modify fun rehearsal => { rehearsal with last := some handle }
  return same

/-- Whether the subscription of a list of a number is closed. -/
def isClosed {ρ : Type} (subscriptions : List (Subscription ρ)) (number : Nat) : Bool :=
  (subscriptions[number]?.map (·.closed)).getD false

/-- Starts the tracker: whether it gave the same subscription as the last start, and whether that
is closed. -/
def startTracker : Act Rehearsal (Bool × Bool) := do
  let policy := (← Act.get).setting.policy.tracking
  let number ← onAdvisor (Advisor.onTracker (Tracker.start policy))
  let same ← note (.tracker number)
  return (same, isClosed (← Act.get).advisor.activator.tracker.subscriptions number)

/-- Starts the activator: whether it gave the same subscription as the last start, and whether that
is closed. -/
def startActivator : Act Rehearsal (Bool × Bool) := do
  match ← run Advisor.start with
  | .ended (.started number) =>
    let same ← note (.activator number)
    return (same, isClosed (← Act.get).advisor.activator.subscriptions number)
  | _ => return (false, false)

end Rehearsal

end BreakageAdvisor
