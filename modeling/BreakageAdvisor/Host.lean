import BreakageAdvisor.Bridge.Basic
import BreakageAdvisor.Bridge.Calls
import BreakageAdvisor.Ending
import BreakageAdvisor.Files
import BreakageAdvisor.Web.BaseDomain

/-!
# The host

The host runs the advisor beside a browser. Queries that only the browser can answer become calls:
a task waits until the reply with the id of its call comes, or the call fails because time is up or
the messages have ended. All other queries are answered at once.
-/

namespace BreakageAdvisor

/-- The host. -/
structure Host where
  advisor : Advisor := {}
  policy : Policy := {}
  testMode : Bool := false
  /-- How long a reply is awaited, in milliseconds. -/
  timeout : Nat := 10000
  /-- Whether the feature is active, as the browser said last. -/
  active : Bool := false
  preferences : Preferences := []
  /-- The bundled catalogs, as they can be loaded. -/
  bundled : PerTrigger (Except Failure Json) := .both (.ok (.list []))
  /-- The calls for which tasks wait. -/
  table : Calls Task := {}
  /-- The time, in milliseconds. -/
  now : Nat := 0
  /-- How serving has ended, if it has. -/
  served : Option (Except Failure Unit) := none

namespace Host

/-- The calls for which tasks wait, oldest first. -/
def calls (host : Host) : List (Call Task) := host.table.live

/-- What the advisor is told of the host. -/
def setting (host : Host) : Setting where
  policy := host.policy
  feature := { testMode := host.testMode, active := host.active }

/-- A computation on the advisor. -/
def onAdvisor {α : Type} : Act Advisor α → Act Host α :=
  Act.onPart (·.advisor) fun advisor host => { host with advisor }

/-- A computation on the bridge, which shares the durable store with the ledger. -/
def onBridge {α : Type} : Act Bridge α → Act Host α :=
  Act.onPart (fun host => ⟨host.active, host.advisor.ledger.store, host.preferences⟩)
    fun bridge host => { host with
      active := bridge.active
      preferences := bridge.preferences
      advisor := { host.advisor with
        ledger := { host.advisor.ledger with store := bridge.store } } }

/-- A computation on the calls. -/
def onCalls {α : Type} : Act (Calls Task) α → Act Host α :=
  Act.onPart (·.table) fun table host => { host with table }

/-- Changes the calls. -/
def change (f : Calls Task → Calls Task) : Act Host Unit := onCalls (Act.modify f)

/-- Sends the message of a call that was made, if it has a frame. The reply is at hand only if the
call cannot be sent, or if no time is given for a reply. -/
def sendCall (task : Task) (id : Nat) (deadline : Option Nat) (message : Json) :
    Except Failure Bytes → Act Host (Option task.query.Reply)
  | .error cause => do
    change (·.drop id)
    return some (task.query.replyOf (.error cause))
  | .ok _ => do
    Act.enter (.sent message)
    change (·.wrote id)
    if deadline = some (← Act.get).now then change (·.expire id)
    return (← onCalls (Calls.collect id)).map fun ended => task.query.replyOf ended.2

/-- Makes the call of a task. -/
def makeCall (task : Task) (method : Text) (params : Fields) :
    Act Host (Option task.query.Reply) := do
  let host ← Act.get
  let id := host.table.made + 1
  let deadline := if Outbound.isPatient task.query then none else some (host.now + host.timeout)
  change (·.make task method deadline)
  let message := Outbound.callMessage id method params
  sendCall task id deadline message (Frame.encode message)

/-- The reply to a query that needs no browser, with reports. -/
def answer (host : Host) : (query : Query) → Option query.Reply × List LogEntry
  | .baseDomain url => (some (.ok (Url.baseDomain SuffixRules.known url)), [])
  | .bundled trigger => (some (host.bundled.get trigger), [])
  | .configured trigger =>
    let (catalog, reports) := host.preferences.catalog trigger.name
    (some (.ok catalog), reports)
  | _ => (none, [])

/-- Asks the query of a task, and gives the reply if it is at hand. -/
def ask (task : Task) : Act Host (Option task.query.Reply) := do
  match Outbound.call? task.query with
  | some (method, params) => makeCall task method params
  | none =>
    let (reply, reports) := (← Act.get).answer task.query
    reports.forM Act.report
    return reply

/-- Goes on with a task until it has ended or its call is made. -/
def proceed : Task.Progress → Act Host Unit
  | .waiting task => fun host =>
    let asked := ask task host
    match asked.1.1 with
    | none => (((), asked.1.2), asked.2)
    | some reply =>
      let step := Advisor.resume asked.1.2.setting task reply asked.1.2.advisor
      let later := proceed step.1.1 { asked.1.2 with advisor := step.1.2 }
      (later.1, asked.2 ++ step.2 ++ later.2)
  | _ => return
termination_by progress => progress.rank
decreasing_by exact Advisor.rank_resume _ task reply _

/-- Begins a task and goes on with it. -/
def run (begin : Setting → Act Advisor Task.Progress) : Act Host Unit := do
  proceed (← onAdvisor (begin (← Act.get).setting))

/-- Starts the advisor. -/
def start : Act Host Unit := run Advisor.start

/-- Goes on with a task whose call has ended. -/
def conclude (task : Task) (result : Except Failure Json) : Act Host Unit := do
  let setting := (← Act.get).setting
  proceed (← onAdvisor (Advisor.resume setting task (task.query.replyOf result)))

/-- Goes on with the task of a call, if the call is settled. -/
def wake (id : Nat) : Act Host Unit := do
  match ← onCalls (Calls.collect id) with
  | none => return
  | some (task, result) => conclude task result

/-- A reply came. A reply that no call awaits is passed over. -/
def settle (value : Json) (result : Except Failure Json) : Act Host Unit := do
  match (← Act.get).table.awaited.find? (Calls.isId value) with
  | none => return
  | some id =>
    change (·.reply value result)
    wake id

/-- How a listener begins to handle an event. -/
def handler : Event → Setting → Act Advisor Task.Progress
  | .tabUpdated update, setting => Advisor.tabUpdated setting.policy update
  | .tabActivated tab, setting => Advisor.tabActivated setting.policy tab
  | .request event, setting => Advisor.requested setting.policy event
  | .activation enabled, setting => Advisor.activationChanged setting.policy enabled
  | .catalog trigger, setting => Advisor.catalogChanged setting trigger.name

/-- The listeners of an event, once for each registration on its channel. -/
def listenersOf (host : Host) (event : Event) : List Listener :=
  host.advisor.activator.tracker.listeners.on event.channel

/-- Ends serving. All calls fail: the tasks that wait for an answer of the user go on before the
advisor is stopped, the others after that. -/
def finish (result : Except Failure Unit) : Act Host Unit := do
  let calls := (← Act.get).calls
  change Calls.close
  (calls.filter (Outbound.isPatient ·.waiter.query)).forM (wake ·.id)
  onAdvisor Advisor.stop
  (calls.filter (!Outbound.isPatient ·.waiter.query)).forM (wake ·.id)
  Act.modify fun host => { host with served := some result }

/-- What taking a message leads to. -/
inductive Taken where
  /-- Nothing more is to be done. -/
  | quiet
  /-- The listeners are to be told of an event. -/
  | fired (event : Event)
  /-- Serving ends. -/
  | ended (result : Except Failure Unit)

/-- A message was refused. That does no harm, unless the failure is not one of the message. -/
def refuse (fields : Fields) (cause : Failure) : Act Host Taken := do
  if cause.blamesMessage then
    Act.report (.messageMalformed (.object fields))
    return .quiet
  return .ended (.error cause)

/-- Takes the next message, or the end of the messages. -/
def take : Option (Except Failure Fields) → Act Host Taken
  | none => do
    Act.report .streamClosed
    return .ended (.ok ())
  | some (.error _) => do
    Act.report .frameSkipped
    return .quiet
  | some (.ok fields) => do
    match Inbound.ofFields fields with
    | .error cause => refuse fields cause
    | .ok (.reply value result) =>
      settle value result
      return .quiet
    | .ok inbound =>
      match ← onBridge (Bridge.receive inbound) with
      | .error cause => refuse fields cause
      | .ok none => return .quiet
      | .ok (some event) => return .fired event

/-- Moves the clock. Calls whose time is up fail. -/
def advance (milliseconds : Nat) : Act Host Unit := do
  Act.modify fun host => { host with now := host.now + milliseconds }
  let host ← Act.get
  let due := host.calls.filter fun call => call.deadline.any (· ≤ host.now)
  due.forM fun call => change (·.expire call.id)
  due.forM (wake ·.id)

end Host

end BreakageAdvisor
