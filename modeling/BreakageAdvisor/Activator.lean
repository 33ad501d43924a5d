import BreakageAdvisor.Tracker

/-!
# The activator

The activator keeps the tracker running while the protection feature is active, or always in test
mode, and has the rules rebuilt when the configured catalogs change. Starting it rebuilds the
rules first; only then does it listen to changes of the feature and of the catalogs.
-/

namespace BreakageAdvisor

/-- What the subscription of an activator holds. -/
inductive Holding where
  /-- The tracker, which is stopped on release. -/
  | tracker
  /-- A registration as a listener. -/
  | channel (channel : Channel)
  deriving DecidableEq, Repr

/-- The activator and the tracker that it governs. -/
structure Activator where
  tracker : Tracker := {}
  /-- The subscriptions of all starts, oldest first. -/
  subscriptions : List (Subscription Holding) := []
  /-- The subscription of the start that was not stopped. -/
  current : Option Nat := none

/-- What decides whether the tracker is to run. -/
structure Feature where
  /-- Whether the tracker runs regardless of the feature. -/
  testMode : Bool := false
  active : Bool := false

namespace Activator

/-- A computation on the tracker. -/
def onTracker {α : Type} : Act Tracker α → Act Activator α :=
  Act.onPart (·.tracker) fun tracker activator => { activator with tracker }

/-- Releases what a subscription holds. -/
def release : Holding → Act Activator (Except Failure Unit)
  | .tracker => do
    onTracker Tracker.stop
    return .ok ()
  | .channel channel => onTracker (Tracker.unregister channel .activator)

/-- Registers the activator on a channel, held by the subscription of a start. If that was closed
in the meantime, the registration is removed at once. -/
def listen (number : Nat) (channel : Channel) : Act Activator Unit := do
  onTracker (Tracker.register channel .activator)
  match (← Act.get).subscriptions[number]? with
  | none => return
  | some subscription =>
    let (changed, _) ← subscription.add release (.channel channel)
    Act.modify fun activator =>
      { activator with subscriptions := activator.subscriptions.set number changed }

/-- Begins a start: the number of its subscription, or of the one that is in use. -/
def begin : Act Activator (Nat × Bool) := do
  let activator ← Act.get
  match activator.current with
  | some number => return (number, false)
  | none =>
    let number := activator.subscriptions.length
    Act.modify fun activator =>
      { activator with
        subscriptions := activator.subscriptions ++ [{ held := [.tracker] }]
        current := some number }
    return (number, true)

/-- Completes a start whose rules were rebuilt. -/
def complete (policy : TrackingPolicy) (feature : Feature) (number : Nat) :
    Act Activator Unit := do
  listen number .catalog
  if feature.testMode then
    Act.report .testMode
    let _ ← onTracker (Tracker.start policy)
  else
    if feature.active then
      let _ ← onTracker (Tracker.start policy)
    listen number .activation

/-- Stops the activator, and with it the tracker. -/
def stop : Act Activator Unit := do
  match (← Act.get).current with
  | none => return
  | some number =>
    if let some subscription := (← Act.get).subscriptions[number]? then
      let closed ← subscription.close release
      Act.modify fun activator =>
        { activator with subscriptions := activator.subscriptions.set number closed }
    Act.modify fun activator => { activator with current := none }

/-- The feature was switched on or off. -/
def activationChanged (policy : TrackingPolicy) (enabled : Bool) : Act Activator Unit :=
  if enabled then do
    let _ ← onTracker (Tracker.start policy)
  else onTracker Tracker.stop

end Activator

end BreakageAdvisor
