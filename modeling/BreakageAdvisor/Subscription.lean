import BreakageAdvisor.Journal

/-!
# Listeners and subscriptions

Listeners are registered on channels, and subscriptions hold the registrations that are to be
released together.
-/

namespace BreakageAdvisor

/-!
## Listeners

Who is told of what. A listener may be registered several times on a channel; each removal takes
away its first registration.
-/

/-- The kinds of events that listeners are told of. -/
inductive Channel where
  | tabUpdated | tabActivated | request | activation | catalog
  deriving DecidableEq, Repr

/-- The registrations of listeners, oldest first. -/
abbrev Listeners (η : Type) := List (Channel × η)

namespace Listeners

variable {η : Type}

/-- Registers a listener on a channel. -/
def register (channel : Channel) (listener : η) (listeners : Listeners η) : Listeners η :=
  listeners ++ [(channel, listener)]

/-- Removes one registration of a listener from a channel, if there is any. -/
def remove [DecidableEq η] (channel : Channel) (listener : η) (listeners : Listeners η) :
    Listeners η :=
  listeners.erase (channel, listener)

/-- The listeners on a channel, in the order of their registrations. -/
def on (channel : Channel) (listeners : Listeners η) : List η :=
  listeners.filterMap fun entry => if entry.1 = channel then some entry.2 else none

end Listeners

/-!
## Subscriptions

A subscription holds what has to be released when it is closed. Closing releases everything once,
the latest first; what is added afterwards is released at once. A release that fails is reported
and stops no other.
-/

/-- A subscription to things of a type; the latest stands first. -/
structure Subscription (ρ : Type) where
  held : List ρ := []
  closed : Bool := false

namespace Subscription

variable {σ ρ : Type}

/-- Releases things in order; the failures are reported. -/
def releaseAll (release : ρ → Act σ (Except Failure Unit)) : List ρ → Act σ Unit
  | [] => return
  | r :: rest => do
    if let .error _ ← release r then Act.report .releaseFailed
    releaseAll release rest

/-- Adds a thing. A closed subscription releases it at once, and its failure is the caller's. -/
def add (release : ρ → Act σ (Except Failure Unit)) (r : ρ) (s : Subscription ρ) :
    Act σ (Subscription ρ × Except Failure Unit) :=
  if s.closed then do return (s, ← release r)
  else return ({ s with held := r :: s.held }, .ok ())

/-- Closes a subscription: releases what it holds. -/
def close (release : ρ → Act σ (Except Failure Unit)) (s : Subscription ρ) :
    Act σ (Subscription ρ) := do
  if s.closed then return s
  releaseAll release s.held
  return { held := [], closed := true }

end Subscription

/-- What is done with a subscription, step by step, by those who use it and by what it releases. -/
inductive Subscription.Course where
  | finish
  | fail (cause : Failure)
  /-- Closes the subscription, and goes on. -/
  | close (next : Course)
  /-- Adds a release that leaves a mark and then takes a course of its own. What follows depends on
  what adding gave. -/
  | add (mark : Text) (course : Course) (next : Except Failure Unit → Course)

/-- A release that leaves a mark and then takes a course with the subscription that it is released
by. -/
structure Release where
  named ::
  mark : Text
  course : Subscription.Course

namespace Subscription.Course

/-- Closes the subscription or adds to it at every step; the first failure ends the course. -/
def ofSteps : List (Option Release) → Option Failure → Course
  | [], none => finish
  | [], some cause => fail cause
  | none :: rest, failure => close (ofSteps rest failure)
  | some r :: rest, failure =>
    add r.mark r.course fun
      | .ok _ => ofSteps rest failure
      | .error cause => fail cause

/-- Takes a course with a subscription that is closed: closing does nothing, and what is added is
released at once. The state is the list of marks left so far. -/
def runClosed : Course → Act (List Text) (Except Failure Unit)
  | finish => return .ok ()
  | fail cause => return .error cause
  | close next => next.runClosed
  | add mark course next => do
    Act.modify (· ++ [mark])
    (next (← course.runClosed)).runClosed

end Subscription.Course

namespace Release

/-- A release that takes its steps and may fail in the end; a step without a release closes the
subscription. -/
def mk (mark : Text) (steps : List (Option Release)) (failure : Option Failure) : Release :=
  ⟨mark, .ofSteps steps failure⟩

/-- Runs a release. It runs on a closed subscription only. -/
def run (r : Release) : Act (List Text) (Except Failure Unit) := do
  Act.modify (· ++ [r.mark])
  r.course.runClosed

end Release

/-- Takes a course with a subscription. -/
def Subscription.Course.run : Course → Subscription Release →
    Act (List Text) (Subscription Release × Except Failure Unit)
  | finish, s => return (s, .ok ())
  | fail cause, s => return (s, .error cause)
  | close next, s => do next.run (← s.close Release.run)
  | add mark course next, s => do
    let (changed, result) ← s.add Release.run ⟨mark, course⟩
    (next result).run changed

end BreakageAdvisor
