import BreakageAdvisor.Deferred
import BreakageAdvisor.Journal
import BreakageAdvisor.Policy

/-!
# Handlers

A handler turns one report of the browser into judgements: whether a rule applies to the page or
to a request of a tab. It waits for the present state of a tab, or for a judgement; other handlers
may run meanwhile. A handler that fails is reported and harms no other.
-/

namespace BreakageAdvisor

namespace Handler

/-- For what a handler looks a tab up. -/
inductive Lookup where
  /-- A request of the tab. -/
  | request (event : RequestEvent)
  /-- The tab came to the foreground; what was deferred for it was taken. -/
  | activation (tab : TabId) (navigated : Bool) (taken : List Text)
  deriving Repr

/-- The tab that a handler looks up. -/
def Lookup.tab : Lookup → TabId
  | request event => event.tab
  | activation tab _ _ => tab

/-- For what a handler waits for a judgement. -/
inductive Purpose where
  /-- A navigation of a tab in the foreground. -/
  | update
  /-- A request of a tab in the foreground. -/
  | request
  /-- A deferred activity of a tab; the remaining requests come next. -/
  | replay (tab : Tab) (rest : List Text)
  deriving Repr

/-- What is to be judged: the page of a tab, or a request of a tab. -/
structure Case where
  tab : Tab
  trigger : Trigger
  url : Text
  deriving Repr

/-- How far a handler has come. -/
inductive Progress where
  | ended
  | lookingUp (lookup : Lookup)
  | judging (case : Case) (purpose : Purpose)
  deriving Repr

/-- A tab changed. A navigation forgets the requests of the previous page; the page of a tab in the
foreground is judged at once. -/
def tabUpdated (policy : TrackingPolicy) (update : TabUpdate) : Act Deferred Progress := do
  if !policy.isNavigation update then return .ended
  let tab := update.tab
  Act.modify (Deferred.dropRequests tab.id)
  if !tab.active then
    Act.modify (Deferred.addTab tab.id)
    return .ended
  Act.modify (Deferred.dropTab tab.id)
  return .judging ⟨tab, .tab, tab.url⟩ .update

/-- A request was issued. Requests that no tab issued, and of types not tracked, do not matter. -/
def requested (policy : TrackingPolicy) (event : RequestEvent) : Act Deferred Progress :=
  if event.tab.value < 0 then return .ended
  else if !policy.accepts event.type then return .ended
  else return .lookingUp (.request event)

/-- A tab came to the foreground: what was deferred for it is taken. -/
def activated (tab : TabId) : Act Deferred Progress := do
  let deferred ← Act.get
  let navigated := deferred.hasTab tab
  let taken := deferred.urls tab
  Act.modify fun deferred => (deferred.dropRequests tab).dropTab tab
  if !navigated && taken.isEmpty then return .ended
  return .lookingUp (.activation tab navigated taken)

/-- Goes on with the remaining deferred requests of a tab. -/
def replay (tab : Tab) : List Text → Progress
  | [] => .ended
  | url :: rest => .judging ⟨tab, .request, url⟩ (.replay tab rest)

/-- The report on a handler whose lookup failed. -/
def Lookup.failure : Lookup → LogEntry
  | request _ => .requestFailed
  | activation _ _ _ => .activationFailed

/-- Goes on with the tab that a handler looked up. The activity of a tab in the background is
deferred. A tab that is gone needs nothing more. -/
def lookedUp : Lookup → Except Failure Tab → Act Deferred Progress
  | lookup, .error .tabGone => do
    Act.report (.tabGone lookup.tab.display)
    return .ended
  | lookup, .error _ => do
    Act.report lookup.failure
    return .ended
  | .request event, .ok tab => do
    if tab.active then return .judging ⟨tab, .request, event.url⟩ .request
    Act.modify (Deferred.addRequest tab.id event.url)
    return .ended
  | .activation id navigated taken, .ok tab => do
    if tab.active then
      if navigated then return .judging ⟨tab, .tab, tab.url⟩ (.replay tab taken)
      return replay tab taken
    Act.modify (Deferred.putBack id navigated taken)
    return .ended

/-- The report on a handler whose judgement failed. -/
def Purpose.failure : Purpose → LogEntry
  | update => .tabUpdateFailed
  | request => .requestFailed
  | replay _ _ => .activationFailed

/-- Goes on with a judgement. The replay of deferred activity ends with the first notification. -/
def judged : Purpose → Except Failure Bool → Act Deferred Progress
  | purpose, .error _ => do
    Act.report purpose.failure
    return .ended
  | .replay tab rest, .ok false => return replay tab rest
  | _, .ok _ => return .ended

end Handler

end BreakageAdvisor
