import BreakageAdvisor.Deferred
import BreakageAdvisor.Subscription
import BreakageAdvisor.Policy

/-!
# The tracker

The tracker listens to the activity of the browser while it runs. Every start makes a subscription
that holds its registrations; stopping closes it and forgets all deferred activity.
-/

namespace BreakageAdvisor

/-- Those who listen to the browser. -/
inductive Listener where
  | tracker | activator
  deriving DecidableEq, Repr

/-- The tracker, with the registrations at the browser that it shares with the activator. -/
structure Tracker where
  deferred : Deferred := {}
  listeners : Listeners Listener := []
  /-- The subscriptions of all starts, oldest first. -/
  subscriptions : List (Subscription Channel) := []
  /-- The subscription of the start that was not stopped. -/
  current : Option Nat := none

namespace Tracker

/-- Whether the tracker runs. -/
def running (tracker : Tracker) : Bool := tracker.current.isSome

/-- The channels that the tracker listens on. -/
def channels (policy : TrackingPolicy) : List Channel :=
  [.tabUpdated, .tabActivated] ++ if policy.requests then [.request] else []

/-- Registers a listener. -/
def register (channel : Channel) (listener : Listener) : Act Tracker Unit :=
  Act.modify fun tracker =>
    { tracker with listeners := tracker.listeners.register channel listener }

/-- Removes a registration of a listener. -/
def unregister (channel : Channel) (listener : Listener) : Act Tracker (Except Failure Unit) := do
  Act.modify fun tracker =>
    { tracker with listeners := tracker.listeners.remove channel listener }
  return .ok ()

/-- Starts the tracker, and gives the number of its subscription. A tracker that runs goes on. -/
def start (policy : TrackingPolicy) : Act Tracker Nat := do
  let tracker ← Act.get
  match tracker.current with
  | some number => return number
  | none =>
    let number := tracker.subscriptions.length
    (channels policy).forM (register · .tracker)
    Act.modify fun tracker =>
      { tracker with
        subscriptions := tracker.subscriptions ++ [{ held := (channels policy).reverse }]
        current := some number }
    Act.report .trackingStarted
    return number

/-- Closes the subscription of a start. -/
def closeSubscription (number : Nat) : Act Tracker Unit := do
  match (← Act.get).subscriptions[number]? with
  | none => return
  | some subscription =>
    let closed ← subscription.close (unregister · .tracker)
    Act.modify fun tracker =>
      { tracker with subscriptions := tracker.subscriptions.set number closed }

/-- Stops the tracker, and forgets what was deferred. -/
def stop : Act Tracker Unit := do
  match (← Act.get).current with
  | none => return
  | some number =>
    closeSubscription number
    Act.modify fun tracker => { tracker with current := none, deferred := {} }
    Act.report .trackingStopped

/-- A computation on the deferred activity. -/
def onDeferred {α : Type} : Act Deferred α → Act Tracker α :=
  Act.onPart (·.deferred) fun deferred tracker => { tracker with deferred }

end Tracker

end BreakageAdvisor
