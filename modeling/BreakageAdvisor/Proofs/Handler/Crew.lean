import BreakageAdvisor.Proofs.Handler.Basic

/-!
# Crews of handlers

Any number of handlers that share the deferred activity. They begin at any time and wait for the
tabs that they look up and for judgements, which come in any order and may be anything; a handler
may be broken off where it waits.
-/

namespace BreakageAdvisor

namespace Handler

/-- A report of the browser. -/
inductive Report where
  /-- A tab changed. -/
  | updated (update : TabUpdate)
  /-- A request was issued. -/
  | requested (event : RequestEvent)
  /-- A tab came to the foreground. -/
  | activated (tab : TabId)

/-- Begins to handle a report. -/
def Report.handle (policy : TrackingPolicy) : Report → Act Deferred Progress
  | updated update => tabUpdated policy update
  | requested event => Handler.requested policy event
  | activated tab => Handler.activated tab

/-- What a handler that waits may get. -/
inductive Reply where
  /-- The present state of whichever tab it looks up. -/
  | found (answer : TabId → Except Failure Tab)
  /-- The judgement that it waits for. -/
  | decided (verdict : Except Failure Bool)
  /-- Nothing: it is broken off. -/
  | abandoned

/-- How a handler goes on with a reply, if it waits for such a reply. -/
def Progress.resume? : Progress → Reply → Option (Act Deferred Progress)
  | lookingUp lookup, .found answer => some (lookedUp lookup (answer lookup.tab))
  | judging _ purpose, .decided verdict => some (judged purpose verdict)
  | _, .abandoned => some (return ended)
  | _, _ => none

/-- The case whose judgement a handler waits for. -/
def Progress.case? : Progress → Option Case
  | judging case _ => some case
  | _ => none

end Handler

open Handler

/-- Handlers that share the deferred activity. -/
structure Crew where
  deferred : Deferred := {}
  /-- All handlers, in the order in which they began, and how far each has come. -/
  members : List Progress := []

namespace Crew

/-- What happens to a crew. -/
inductive Event where
  /-- A handler begins. -/
  | began (report : Report)
  /-- The handler at a place gets a reply. -/
  | replied (place : Nat) (reply : Reply)

/-- What a handler does in an event. A reply that no handler waits for does nothing. -/
def act? (policy : TrackingPolicy) (c : Crew) : Event → Option (Act Deferred Progress)
  | .began report => some (report.handle policy)
  | .replied place reply => c.members[place]?.bind (·.resume? reply)

/-- The handlers after one of them has come further in an event. -/
def seat (c : Crew) (p : Progress) : Event → List Progress
  | .began _ => c.members ++ [p]
  | .replied place _ => c.members.set place p

/-- The crew after an event. -/
def step (policy : TrackingPolicy) (c : Crew) (e : Event) : Crew :=
  match c.act? policy e with
  | none => c
  | some act => ⟨act.state c.deferred, c.seat (act.value c.deferred) e⟩

/-- The case that is handed over for judgement in an event. -/
def call? (policy : TrackingPolicy) (c : Crew) (e : Event) : Option Case :=
  (c.act? policy e).bind fun act => (act.value c.deferred).case?

/-- The crew after events, one after the other. -/
def run (policy : TrackingPolicy) (c : Crew) (events : List Event) : Crew :=
  events.foldl (step policy) c

/-- The cases that are handed over for judgement in events, in order. -/
def calls (policy : TrackingPolicy) (c : Crew) : List Event → List Case
  | [] => []
  | e :: rest => (c.call? policy e).toList ++ (c.step policy e).calls policy rest

section Events

variable (policy : TrackingPolicy) (c : Crew)

/-- The handler that begins comes last. -/
theorem step_began (report : Report) :
    c.step policy (.began report) =
      ⟨(report.handle policy).state c.deferred,
        c.members ++ [(report.handle policy).value c.deferred]⟩ := rfl

/-- The handler at a place goes on with a reply that it waits for. -/
theorem step_replied {place : Nat} {p : Progress} {reply : Reply} {act : Act Deferred Progress}
    (hp : c.members[place]? = some p) (ha : p.resume? reply = some act) :
    c.step policy (.replied place reply) =
      ⟨act.state c.deferred, c.members.set place (act.value c.deferred)⟩ := by
  have h : c.act? policy (.replied place reply) = some act := by
    simp only [act?, hp, Option.bind_some, ha]
  rw [step, h]
  rfl

/-- The case that the handler at a place hands over when it gets a reply that it waits for. -/
theorem call_replied {place : Nat} {p : Progress} {reply : Reply} {act : Act Deferred Progress}
    (hp : c.members[place]? = some p) (ha : p.resume? reply = some act) :
    c.call? policy (.replied place reply) = (act.value c.deferred).case? := by
  simp only [call?, act?, hp, Option.bind_some, ha]

/-- The handler at a place is found where a reply has brought it. -/
theorem member_replied {place : Nat} {p : Progress} {reply : Reply} {act : Act Deferred Progress}
    (hp : c.members[place]? = some p) (ha : p.resume? reply = some act) :
    (c.step policy (.replied place reply)).members[place]? = some (act.value c.deferred) := by
  rw [c.step_replied policy hp ha]
  obtain ⟨hl, _⟩ := List.getElem?_eq_some_iff.mp hp
  exact List.getElem?_set_self hl

/-- After an event every handler was there before or is the one that the event is about. -/
theorem mem_seat {p q : Progress} {e : Event} (h : q ∈ c.seat p e) : q ∈ c.members ∨ q = p := by
  cases e with
  | began report =>
    rcases List.mem_append.mp h with h | h
    · exact .inl h
    · exact .inr (List.mem_singleton.mp h)
  | replied place reply => exact List.mem_or_eq_of_mem_set h

end Events

end Crew

end BreakageAdvisor
