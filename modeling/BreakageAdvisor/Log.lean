import BreakageAdvisor.Json.Display
import BreakageAdvisor.Trigger

/-!
# The log

What the advisor reports while it runs. Every report has a level, the component it comes from, and
a wording.
-/

namespace BreakageAdvisor

/-- How grave a report is. -/
inductive LogLevel where
  | debug | info | warning | error
  deriving DecidableEq, Repr

/-- The parts of the advisor that report. -/
inductive Component where
  | host | conditions | controller | ledger | registry | tracker | activator | subscription
  | bridge | frames | storage
  deriving DecidableEq, Repr

/-- A report. -/
inductive LogEntry where
  | hostStarting
  | hostPolicy (tabs requests notifications : Text)
  | cookieLookupFailed (domain : Text)
  | baseDomainFailed (url : Text)
  | ruleIgnored (id : Text)
  | invalidCondition (rule : Text)
  | notificationUnanswered (domain : Text)
  | notificationShown (domain label : Text)
  | unexpectedOutcome (outcome : Json)
  | notifiedUnreadable
  | notifiedUnstored (domain : Text)
  | notifiedCleared (count : Nat)
  | ignoredUnreadable
  | ignoredUnstored (id : Text)
  | entryNotObject (entry : Json)
  | domainsMissing (id : Json)
  | rulesLoaded (trigger : Trigger) (bundled dynamic : Nat)
  | bundledUnreadable (reporter : Component) (trigger : Trigger)
  | dynamicUnreadable (trigger : Trigger)
  | trackingStarted
  | trackingStopped
  | tabUpdateFailed
  | requestFailed
  | activationFailed
  | tabGone (tab : Text)
  | testMode
  | dynamicChanged (kind : Text)
  | releaseFailed
  | frameSkipped
  | messageMalformed (message : Json)
  | streamClosed
  | clearedOnRequest (count : Nat)
  | messageIgnored (type : Text)
  | unknownCatalog (kind : Json)
  | catalogNotList (trigger : Trigger)
  | handlerFailed
  | invalidFrameLength (length : Nat)
  | storedMalformed (kind : Text)

namespace LogEntry

/-- The level of a report. -/
def level : LogEntry → LogLevel
  | ruleIgnored _ | tabGone _ | messageIgnored _ => .debug
  | hostStarting | hostPolicy _ _ _ | notificationShown _ _ | notifiedCleared _ | rulesLoaded _ _ _
  | trackingStarted | trackingStopped | testMode | dynamicChanged _ | streamClosed
  | clearedOnRequest _ => .info
  | cookieLookupFailed _ | baseDomainFailed _ | notificationUnanswered _ | unexpectedOutcome _
  | notifiedUnreadable | notifiedUnstored _ | ignoredUnreadable | ignoredUnstored _
  | entryNotObject _ | domainsMissing _ | bundledUnreadable _ _ | dynamicUnreadable _
  | frameSkipped | messageMalformed _ | unknownCatalog _ | catalogNotList _
  | invalidFrameLength _ | storedMalformed _ => .warning
  | invalidCondition _ | tabUpdateFailed | requestFailed | activationFailed | releaseFailed
  | handlerFailed => .error

/-- The component that a report comes from. -/
def component : LogEntry → Component
  | hostStarting | hostPolicy _ _ _ => .host
  | cookieLookupFailed _ => .conditions
  | baseDomainFailed _ | ruleIgnored _ | invalidCondition _ | notificationUnanswered _
  | notificationShown _ _ | unexpectedOutcome _ => .controller
  | notifiedUnreadable | notifiedUnstored _ | notifiedCleared _ | ignoredUnreadable
  | ignoredUnstored _ => .ledger
  | bundledUnreadable reporter _ => reporter
  | entryNotObject _ | domainsMissing _ | rulesLoaded _ _ _ | dynamicUnreadable _ => .registry
  | trackingStarted | trackingStopped | tabUpdateFailed | requestFailed | activationFailed
  | tabGone _ => .tracker
  | testMode | dynamicChanged _ => .activator
  | releaseFailed => .subscription
  | frameSkipped | messageMalformed _ | streamClosed | clearedOnRequest _ | messageIgnored _
  | unknownCatalog _ | catalogNotList _ | handlerFailed => .bridge
  | invalidFrameLength _ => .frames
  | storedMalformed _ => .storage

/-- The wording of a report. -/
def message : LogEntry → Text
  | hostStarting => "Starting breakwatch"
  | hostPolicy tabs requests notifications =>
    "Matching tab rules by " ++ tabs ++ ", request rules by " ++ requests
      ++ "; notifications are " ++ notifications
  | cookieLookupFailed domain => "Cookie lookup failed for " ++ domain
  | baseDomainFailed url => "Unable to resolve the base domain of " ++ url
  | ruleIgnored id => "Breakage " ++ id ++ " is ignored by the user"
  | invalidCondition rule => "Invalid condition in breakage " ++ rule
  | notificationUnanswered domain => "No answer to the notification for " ++ domain
  | notificationShown domain label =>
    "Breakage notification shown for " ++ domain ++ " (" ++ label ++ ")"
  | unexpectedOutcome outcome => "Unexpected notification result: " ++ outcome.inspect
  | notifiedUnreadable => "Unable to read the notified domains"
  | notifiedUnstored domain => "Unable to store notified domain " ++ domain
  | notifiedCleared count => "Cleared " ++ Text.ofNat count ++ " notified domains"
  | ignoredUnreadable => "Unable to read the ignored breakages"
  | ignoredUnstored id => "Unable to store ignored breakage " ++ id
  | entryNotObject entry => "Skipping breakage entry that is not an object: " ++ entry.inspect
  | domainsMissing id => "Skipping breakage " ++ id.display ++ " without a domains list"
  | rulesLoaded trigger bundled dynamic =>
    Text.ofNat (bundled + dynamic) ++ " " ++ trigger.name ++ " rules are loaded ("
      ++ Text.ofNat bundled ++ " static, " ++ Text.ofNat dynamic ++ " dynamic)"
  | bundledUnreadable _ trigger => "Unable to load the bundled " ++ trigger.name ++ " breakages"
  | dynamicUnreadable trigger => "Unable to retrieve the dynamic " ++ trigger.name ++ " breakages"
  | trackingStarted => "Activity tracking started"
  | trackingStopped => "Activity tracking stopped"
  | tabUpdateFailed => "Error while handling a tab update"
  | requestFailed => "Error while handling a request"
  | activationFailed => "Error while handling a tab activation"
  | tabGone tab => "Tab " ++ tab ++ " is gone"
  | testMode => "Test mode: tracking regardless of feature state"
  | dynamicChanged kind => "Dynamic " ++ kind ++ " breakages changed, rebuilding"
  | releaseFailed => "Failed to release a listener"
  | frameSkipped => "Skipping an undecodable native message"
  | messageMalformed message => "Malformed native message: " ++ message.inspect
  | streamClosed => "Native messaging stream closed"
  | clearedOnRequest count => "Cleared " ++ Text.ofNat count ++ " notified domains on request"
  | messageIgnored type => "Ignoring native message of type " ++ type.quoted
  | unknownCatalog kind => "Ignoring dynamic breakages for unknown kind " ++ kind.inspect
  | catalogNotList trigger => "Dynamic " ++ trigger.name ++ " breakages must be a list"
  | handlerFailed => "Event handler failed"
  | invalidFrameLength length => "Invalid native frame length: " ++ Text.ofNat length
  | storedMalformed kind => "Stored " ++ kind ++ " breakages are not valid JSON"

end LogEntry

end BreakageAdvisor
