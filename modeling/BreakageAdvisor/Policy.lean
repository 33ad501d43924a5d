import BreakageAdvisor.Tab
import BreakageAdvisor.Trigger

/-!
# Policies

How URLs are compared with rules, which activity is tracked, and what the answer to a notification
brings about.
-/

namespace BreakageAdvisor

/-- By what a URL is compared with the domains of rules. -/
inductive MatchingMode where
  /-- The host as it is. -/
  | host
  /-- The registrable domain of the host. -/
  | baseDomain
  deriving DecidableEq, Repr

namespace MatchingMode

/-- The name of a mode. -/
def name : MatchingMode → Text
  | host => "host"
  | baseDomain => "base_domain"

/-- The mode of a name. -/
def ofJson : Json → Except Failure MatchingMode
  | .text t =>
    if t = name host then .ok host
    else if t = name baseDomain then .ok baseDomain
    else .error (.unsupportedMatching (.text t))
  | value => .error (.unsupportedMatching value)

end MatchingMode

/-- The matching mode for each trigger. -/
abbrev Matching := PerTrigger MatchingMode

namespace Matching

/-- Hosts for tabs, registrable domains for requests. -/
def standard : Matching := ⟨.host, .baseDomain⟩

/-- The matching modes of two names; the one for tabs is judged first. -/
def ofJson (tab request : Json) : Except Failure Matching := do
  let tab ← MatchingMode.ofJson tab
  let request ← MatchingMode.ofJson request
  return ⟨tab, request⟩

/-- The mode for the trigger of a name. -/
def modeNamed (matching : Matching) (trigger : Json) : Except Failure MatchingMode :=
  match trigger.asText?.bind Trigger.ofName? with
  | some t => .ok (matching.get t)
  | none => .error (.unsupportedTrigger trigger)

end Matching

/-- What the answer to a notification brings about. -/
inductive NotificationMode where
  /-- Nothing. -/
  | informational
  /-- A click exempts the URL and reloads the tab; a refusal ignores the breakage. -/
  | actionable
  deriving DecidableEq, Repr

namespace NotificationMode

/-- The name of a mode. -/
def name : NotificationMode → Text
  | informational => "informational"
  | actionable => "actionable"

/-- The mode of a name. -/
def ofJson : Json → Except Failure NotificationMode
  | .text t =>
    if t = name informational then .ok informational
    else if t = name actionable then .ok actionable
    else .error (.unsupportedNotification (.text t))
  | value => .error (.unsupportedNotification value)

end NotificationMode

/-- Which activity is tracked. -/
structure TrackingPolicy where
  /-- The load statuses that count as a navigation. -/
  statuses : List Json := [.text "loading"]
  /-- Whether requests are tracked. -/
  requests : Bool := true
  /-- The types of requests that are tracked; when there are none, all are. -/
  requestTypes : List Json := []

namespace TrackingPolicy

/-- Whether a list has a text, or null where the text is absent. -/
def lists (values : List Json) (t : Option Text) : Bool :=
  values.any fun value =>
    match t, value with
    | some s, .text u => s == u
    | none, .null => true
    | _, _ => false

/-- Whether a load status counts as a navigation. -/
def isNavigation (policy : TrackingPolicy) (update : TabUpdate) : Bool :=
  update.urlChanged || lists policy.statuses update.status

/-- Whether requests of a type are tracked. -/
def accepts (policy : TrackingPolicy) (type : Option Text) : Bool :=
  policy.requestTypes.isEmpty || lists policy.requestTypes type

end TrackingPolicy

/-- The policies of the advisor. -/
structure Policy where
  matching : Matching := Matching.standard
  notifications : NotificationMode := .informational
  tracking : TrackingPolicy := {}
  /-- Whether conditions may ask for cookies. -/
  cookies : Bool := true

end BreakageAdvisor
