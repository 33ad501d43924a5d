import BreakageAdvisor.Handler
import BreakageAdvisor.Proofs.Act
import BreakageAdvisor.Proofs.Deferred

/-!
# What handlers do

How far every step of a handler brings it, and what it does to the deferred activity.
-/

namespace BreakageAdvisor

namespace Handler

section Reports

variable (policy : TrackingPolicy) (d : Deferred)

/-- A change of a tab is judged if it is a navigation in the foreground. -/
theorem value_tabUpdated (update : TabUpdate) :
    (tabUpdated policy update).value d =
      if policy.isNavigation update && update.tab.active
      then .judging ⟨update.tab, .tab, update.tab.url⟩ .update else .ended := by
  cases hn : policy.isNavigation update
  · simp [tabUpdated, hn]
  · cases ha : update.tab.active <;> simp [tabUpdated, hn, ha]

/-- A navigation forgets the requests of a tab, and is itself deferred in the background. -/
theorem state_tabUpdated (update : TabUpdate) :
    (tabUpdated policy update).state d =
      if policy.isNavigation update then
        if update.tab.active then (d.dropRequests update.tab.id).dropTab update.tab.id
        else (d.dropRequests update.tab.id).addTab update.tab.id
      else d := by
  cases hn : policy.isNavigation update
  · simp [tabUpdated, hn]
  · cases ha : update.tab.active <;> simp [tabUpdated, hn, ha]

/-- A request that matters makes a handler look its tab up. -/
theorem value_requested (event : RequestEvent) :
    (requested policy event).value d =
      if 0 ≤ event.tab.value ∧ policy.accepts event.type then .lookingUp (.request event)
      else .ended := by
  unfold requested
  by_cases hv : event.tab.value < 0
  · rw [if_pos hv, if_neg (fun h => absurd h.1 (Int.not_le.mpr hv))]
    rfl
  · rw [if_neg hv]
    cases ha : policy.accepts event.type with
    | false => simp
    | true => simp [Int.not_lt.mp hv]

/-- A request changes nothing at first. -/
@[simp]
theorem state_requested (event : RequestEvent) : (requested policy event).state d = d := by
  unfold requested
  split
  · rfl
  · split <;> rfl

/-- A tab that comes to the foreground is looked up if something was deferred for it. -/
theorem value_activated (tab : TabId) :
    (activated tab).value d =
      if !d.hasTab tab && (d.urls tab).isEmpty then .ended
      else .lookingUp (.activation tab (d.hasTab tab) (d.urls tab)) := by
  unfold activated
  rw [Act.value_get_bind, Act.value_bind, Act.value_ite]
  rfl

/-- A tab that comes to the foreground loses what was deferred for it. -/
@[simp]
theorem state_activated (tab : TabId) :
    (activated tab).state d = (d.dropRequests tab).dropTab tab := by
  unfold activated
  rw [Act.state_get_bind, Act.state_bind, Act.state_ite]
  split <;> rfl

end Reports

section Replies

variable (d : Deferred)

/-- A lookup that fails ends a handler. -/
@[simp]
theorem value_lookedUp_error (lookup : Lookup) (cause : Failure) :
    (lookedUp lookup (.error cause)).value d = .ended := by
  cases cause <;> rfl

/-- A lookup that fails changes nothing. -/
@[simp]
theorem state_lookedUp_error (lookup : Lookup) (cause : Failure) :
    (lookedUp lookup (.error cause)).state d = d := by
  cases cause <;> rfl

/-- A request is judged if its tab is in the foreground. -/
theorem value_lookedUp_request (event : RequestEvent) (tab : Tab) :
    (lookedUp (.request event) (.ok tab)).value d =
      if tab.active then .judging ⟨tab, .request, event.url⟩ .request else .ended := by
  obtain ⟨id, url, active⟩ := tab
  cases active <;> rfl

/-- A request is deferred if its tab is in the background. -/
theorem state_lookedUp_request (event : RequestEvent) (tab : Tab) :
    (lookedUp (.request event) (.ok tab)).state d =
      if tab.active then d else d.addRequest tab.id event.url := by
  obtain ⟨id, url, active⟩ := tab
  cases active <;> rfl

/-- What was taken for a tab is judged if the tab is in the foreground, its page first. -/
theorem value_lookedUp_activation (id : TabId) (navigated : Bool) (taken : List Text) (tab : Tab) :
    (lookedUp (.activation id navigated taken) (.ok tab)).value d =
      if tab.active then
        if navigated then .judging ⟨tab, .tab, tab.url⟩ (.replay tab taken) else replay tab taken
      else .ended := by
  obtain ⟨_, url, active⟩ := tab
  cases active
  · rfl
  · cases navigated <;> rfl

/-- What was taken for a tab is put back if the tab is in the background. -/
theorem state_lookedUp_activation (id : TabId) (navigated : Bool) (taken : List Text) (tab : Tab) :
    (lookedUp (.activation id navigated taken) (.ok tab)).state d =
      if tab.active then d else d.putBack id navigated taken := by
  obtain ⟨_, url, active⟩ := tab
  cases active
  · rfl
  · cases navigated <;> rfl

/-- A judgement goes on with a replay if it shows no notification. -/
@[simp]
theorem value_judged_replay (tab : Tab) (rest : List Text) :
    (judged (.replay tab rest) (.ok false)).value d = replay tab rest := rfl

/-- The judgement of a page that changed ends a handler. -/
@[simp]
theorem value_judged_update (verdict : Except Failure Bool) :
    (judged .update verdict).value d = .ended := by
  cases verdict with
  | error cause => rfl
  | ok shown => cases shown <;> rfl

/-- The judgement of a request that was just issued ends a handler. -/
@[simp]
theorem value_judged_request (verdict : Except Failure Bool) :
    (judged .request verdict).value d = .ended := by
  cases verdict with
  | error cause => rfl
  | ok shown => cases shown <;> rfl

/-- A judgement that shows a notification ends a handler, and so does one that fails. -/
theorem value_judged_of_ne (purpose : Purpose) {verdict : Except Failure Bool}
    (h : verdict ≠ .ok false) : (judged purpose verdict).value d = .ended := by
  cases verdict with
  | error cause => rfl
  | ok shown =>
    cases shown with
    | false => exact absurd rfl h
    | true => cases purpose <;> rfl

/-- A judgement changes nothing. -/
@[simp]
theorem state_judged (purpose : Purpose) (verdict : Except Failure Bool) :
    (judged purpose verdict).state d = d := by
  unfold judged
  split <;> rfl

end Replies

end Handler

end BreakageAdvisor
