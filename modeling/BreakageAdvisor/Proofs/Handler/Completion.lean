import BreakageAdvisor.Ending
import BreakageAdvisor.Proofs.Handler.Crew

/-!
# Handlers run to their end

A handler that gets all its replies before another one begins. It looks a tab up at most once, and
hands cases over until a judgement shows a notification or fails.
-/

namespace BreakageAdvisor

namespace Handler

/-- How many replies a handler may still get. -/
def Progress.pending : Progress → Nat
  | ended => 0
  | lookingUp lookup => (Task.lookingUp lookup).rank.1 + 1
  | judging _ purpose => purpose.pending + 1

/-- A tab that is looked up brings a handler closer to its end. -/
theorem pending_lookedUp (lookup : Lookup) (answer : Except Failure Tab) (d : Deferred) :
    ((lookedUp lookup answer).value d).pending < (Progress.lookingUp lookup).pending := by
  cases h : (lookedUp lookup answer).value d with
  | ended => exact Nat.succ_pos _
  | lookingUp other => exact absurd h (Advisor.lookedUp_ne_lookingUp lookup other answer d)
  | judging case purpose =>
    exact Nat.succ_lt_succ (Advisor.lookedUp_pending lookup answer d case purpose h)

/-- A judgement brings a handler closer to its end. -/
theorem pending_judged (case : Case) (purpose : Purpose) (verdict : Except Failure Bool)
    (d : Deferred) :
    ((judged purpose verdict).value d).pending < (Progress.judging case purpose).pending := by
  cases h : (judged purpose verdict).value d with
  | ended => exact Nat.succ_pos _
  | lookingUp lookup => exact absurd h (Advisor.judged_ne_lookingUp purpose verdict lookup d)
  | judging next later =>
    obtain ⟨tab, rest, rfl, hlt⟩ := Advisor.judged_pending purpose verdict d next later h
    exact Nat.succ_lt_succ hlt

/-- Runs a handler to its end: the cases that it hands over, and the deferred activity after it. -/
def complete (answer : Except Failure Tab) (verdict : Nat → Except Failure Bool) (p : Progress)
    (d : Deferred) : List Case × Deferred :=
  match p with
  | .ended => ([], d)
  | .lookingUp lookup =>
    complete answer verdict ((lookedUp lookup answer).value d) ((lookedUp lookup answer).state d)
  | .judging case purpose =>
    let act := judged purpose (verdict 0)
    let rest := complete answer (fun n => verdict (n + 1)) (act.value d) (act.state d)
    (case :: rest.1, rest.2)
termination_by p.pending
decreasing_by
  · exact pending_lookedUp lookup answer d
  · exact pending_judged case purpose (verdict 0) d

/-- The beginning of a list of cases up to the first whose judgement shows a notification or
fails. -/
def untilShown (verdict : Nat → Except Failure Bool) : List Case → List Case
  | [] => []
  | case :: rest =>
    case ::
      match verdict 0 with
      | .ok false => untilShown (fun n => verdict (n + 1)) rest
      | _ => []

private theorem untilShown_singleton (verdict : Nat → Except Failure Bool) (case : Case) :
    untilShown verdict [case] = [case] := by
  rw [untilShown]
  split <;> rfl

/-- The cases that a handler goes on with after a judgement. -/
def Purpose.rest : Purpose → List Case
  | update => []
  | request => []
  | replay tab urls => urls.map (⟨tab, .request, ·⟩)

section Completion

variable (answer : Except Failure Tab) (verdict : Nat → Except Failure Bool) (d : Deferred)

/-- A handler that has ended hands nothing over. -/
theorem complete_ended : complete answer verdict .ended d = ([], d) := by
  rw [complete]

private theorem complete_lookingUp (lookup : Lookup) :
    complete answer verdict (.lookingUp lookup) d =
      complete answer verdict ((lookedUp lookup answer).value d)
        ((lookedUp lookup answer).state d) := by
  rw [complete]

private theorem complete_judging_of_ne (case : Case) (purpose : Purpose)
    (h : verdict 0 ≠ .ok false) :
    complete answer verdict (.judging case purpose) d = ([case], d) := by
  rw [complete]
  simp only [value_judged_of_ne d purpose h, state_judged, complete_ended]

private theorem untilShown_of_ne (case : Case) (rest : List Case) (h : verdict 0 ≠ .ok false) :
    untilShown verdict (case :: rest) = [case] := by
  rw [untilShown]
  split
  · next hv => exact absurd hv h
  · rfl

private theorem complete_replay (tab : Tab) (urls : List Text) :
    complete answer verdict (replay tab urls) d =
      (untilShown verdict (urls.map (⟨tab, .request, ·⟩)), d) := by
  induction urls generalizing verdict with
  | nil => exact complete_ended answer verdict d
  | cons url rest ih =>
    rw [replay, List.map_cons]
    by_cases h : verdict 0 = .ok false
    · rw [complete, untilShown, h]
      simp only [value_judged_replay, state_judged, ih]
    · rw [complete_judging_of_ne answer verdict d _ _ h, untilShown_of_ne verdict _ _ h]

/-- A handler that waits for a judgement hands over what it goes on with until a notification is
shown, and changes nothing. -/
private theorem complete_judging (case : Case) (purpose : Purpose) :
    complete answer verdict (.judging case purpose) d =
      (untilShown verdict (case :: purpose.rest), d) := by
  by_cases h : verdict 0 = .ok false
  · rw [complete, untilShown, h]
    cases purpose with
    | update =>
      rw [value_judged_update, state_judged, complete_ended]
      rfl
    | request =>
      rw [value_judged_request, state_judged, complete_ended]
      rfl
    | replay tab rest =>
      rw [value_judged_replay, state_judged, complete_replay]
      rfl
  · rw [complete_judging_of_ne answer verdict d _ _ h, untilShown_of_ne verdict _ _ h]

/-- The handler of a change of a tab hands its page over, if the change is a navigation in the
foreground. -/
theorem complete_tabUpdated (policy : TrackingPolicy) (update : TabUpdate) :
    complete answer verdict ((tabUpdated policy update).value d)
        ((tabUpdated policy update).state d) =
      (if policy.isNavigation update && update.tab.active
        then [⟨update.tab, .tab, update.tab.url⟩] else [],
        (tabUpdated policy update).state d) := by
  rw [value_tabUpdated]
  split
  · rw [complete_judging, Purpose.rest, untilShown_singleton]
  · rw [complete_ended]

/-- The handler of a request hands it over in the foreground and defers it in the background. -/
theorem complete_requested (policy : TrackingPolicy) (event : RequestEvent) :
    complete answer verdict ((requested policy event).value d)
        ((requested policy event).state d) =
      match answer with
      | .ok tab =>
        if 0 ≤ event.tab.value ∧ policy.accepts event.type then
          if tab.active then ([⟨tab, .request, event.url⟩], d)
          else ([], d.addRequest tab.id event.url)
        else ([], d)
      | .error _ => ([], d) := by
  rw [value_requested, state_requested]
  by_cases h : 0 ≤ event.tab.value ∧ policy.accepts event.type
  · rw [if_pos h, complete_lookingUp]
    cases answer with
    | error cause => rw [value_lookedUp_error, state_lookedUp_error, complete_ended]
    | ok tab =>
      rw [value_lookedUp_request, state_lookedUp_request]
      by_cases ha : tab.active
      · simp only [if_pos h, if_pos ha]
        rw [complete_judging, Purpose.rest, untilShown_singleton]
      · simp only [if_pos h, if_neg ha]
        rw [complete_ended]
  · rw [if_neg h, complete_ended]
    cases answer with
    | error cause => rfl
    | ok tab => exact (if_neg h).symm

/-- The handler of a tab that comes to the foreground hands over what was deferred for it, its page
first, until a notification is shown. If the tab is found in the background all is put back. -/
theorem complete_activated (id : TabId) :
    complete answer verdict ((activated id).value d) ((activated id).state d) =
      match answer with
      | .ok tab =>
        if tab.active then
          (untilShown verdict ((if d.hasTab id then [⟨tab, .tab, tab.url⟩] else []) ++
            (d.urls id).map (⟨tab, .request, ·⟩)), (d.dropRequests id).dropTab id)
        else ([], ((d.dropRequests id).dropTab id).putBack id (d.hasTab id) (d.urls id))
      | .error _ => ([], (d.dropRequests id).dropTab id) := by
  rw [value_activated, state_activated]
  by_cases hnone : !d.hasTab id && (d.urls id).isEmpty
  · obtain ⟨hn, hu⟩ := Bool.and_eq_true_iff.mp hnone
    rw [Bool.not_eq_true'] at hn
    rw [List.isEmpty_iff] at hu
    rw [if_pos hnone, complete_ended, hn, hu]
    cases answer with
    | error cause => rfl
    | ok tab =>
      by_cases ha : tab.active
      · simp [ha, untilShown]
      · simp [ha, Deferred.putBack]
  · rw [if_neg hnone, complete_lookingUp]
    cases answer with
    | error cause => rw [value_lookedUp_error, state_lookedUp_error, complete_ended]
    | ok tab =>
      rw [value_lookedUp_activation, state_lookedUp_activation]
      by_cases ha : tab.active
      · simp only [if_pos ha]
        cases d.hasTab id with
        | true => exact complete_judging _ _ _ _ _
        | false => exact complete_replay _ _ _ _ _
      · simp only [if_neg ha]
        rw [complete_ended]

end Completion

end Handler

/-- The advisor goes on with deferred requests as a handler does. -/
theorem Advisor.handled_replay (policy : Policy) (tab : Tab) (urls : List Text) :
    handled policy (Handler.replay tab urls) = replay policy tab urls := by
  cases urls with
  | nil => rfl
  | cons url rest =>
    simp only [Handler.replay, handled, replay]
    congr 1
    funext attempt
    congr 1
    funext p
    cases p with
    | waiting stage => rfl
    | ended result =>
      cases result with
      | error cause => rfl
      | ok shown =>
        cases shown with
        | true => rfl
        | false => cases rest <;> rfl

end BreakageAdvisor
