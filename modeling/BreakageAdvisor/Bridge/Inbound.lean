import BreakageAdvisor.Subscription
import BreakageAdvisor.Number.Reading
import BreakageAdvisor.Tab
import BreakageAdvisor.Trigger

/-!
# Messages from the browser

A message from the browser is read as a whole before anything is done about it, so a message that
is refused changes nothing.
-/

namespace BreakageAdvisor

/-- A message from the browser. -/
inductive Inbound where
  /-- The reply to the call of an id. -/
  | reply (id : Json) (result : Except Failure Json)
  /-- The browser introduces itself, and says whether the feature is active. -/
  | hello (active : Bool)
  /-- The feature was switched on or off. -/
  | feature (active : Bool)
  | tabUpdated (update : TabUpdate)
  | tabActivated (tab : TabId)
  | request (event : RequestEvent)
  /-- The configured catalog of a trigger is set, or removed. -/
  | catalog (trigger : Trigger) (entries : Option (List Json))
  /-- A catalog for what is no trigger. -/
  | unknownCatalog (kind : Json)
  /-- A catalog that is no list. -/
  | catalogNotList (trigger : Trigger)
  /-- The domains that were told of are to be forgotten. -/
  | clearNotified
  | other (type : Text)

namespace Inbound

/-- Whether a value can be the key of a table. -/
def isKey : Json → Bool
  | .list _ => false
  | .object _ => false
  | _ => true

/-- The reply in a message. -/
def replyOf (message : Fields) : Except Failure Inbound :=
  let id := Fields.getD message "id"
  if !isKey id then .error (.unhashable id.kind)
  else if (Fields.getD message "ok").truthy then
    .ok (.reply id (.ok (Fields.getD message "result")))
  else
    let reason := Fields.getD (Fields.getD message "error").fields "message"
    .ok (.reply id (.error (.bridge (if reason.truthy then reason.display else "rpc failed"))))

/-- The update of a tab in a message. -/
def tabUpdatedOf (message : Fields) : Except Failure Inbound := do
  let change := (Fields.getD message "changeInfo").fields
  let tab ← Tab.ofJson (Fields.getD message "tab")
  return .tabUpdated ⟨tab, (Fields.get? change "url").isSome, (Fields.getD change "status").asText?⟩

/-- The number of a tab that a value gives. -/
def tabIdOf (value : Json) : Except Failure TabId :=
  match value.toInteger with
  | .ok n => .ok (.number n)
  | .error error => .error (.number error)

/-- The activation of a tab in a message. -/
def tabActivatedOf (message : Fields) : Except Failure Inbound :=
  match Fields.get? message "tabId" with
  | none => .error (.unknownKey "tabId")
  | some value => (tabIdOf value).map .tabActivated

/-- The request in a message. One without a tab comes from none. -/
def requestOf (message : Fields) : Except Failure Inbound := do
  let tab ← tabIdOf ((Fields.get? message "tabId").getD (.int (-1)))
  return .request
    ⟨tab, Tab.textOr (Fields.getD message "url"), (Fields.getD message "requestType").asText?⟩

/-- The catalog in a message. -/
def catalogOf (message : Fields) : Inbound :=
  let kind := Fields.getD message "kind"
  match kind.asText?.bind Trigger.ofName? with
  | none => .unknownCatalog kind
  | some trigger =>
    match Fields.getD message "breakages" with
    | .null => .catalog trigger none
    | .list entries => .catalog trigger (some entries)
    | _ => .catalogNotList trigger

/-- The type of a message. -/
def typeOf (message : Fields) : Text := Tab.textOr (Fields.getD message "type")

/-- Reads a message by its type. -/
def ofFields (message : Fields) : Except Failure Inbound :=
  let type := typeOf message
  if type = "rpcResult" then replyOf message
  else if type = "hello" then .ok (.hello (Fields.getD message "featureActive").truthy)
  else if type = "featureActivated" then .ok (.feature (Fields.getD message "enabled").truthy)
  else if type = "tabUpdated" then tabUpdatedOf message
  else if type = "tabActivated" then tabActivatedOf message
  else if type = "request" then requestOf message
  else if type = "setDynamicBreakages" then .ok (catalogOf message)
  else if type = "clearNotifiedDomains" then .ok .clearNotified
  else .ok (.other type)

end Inbound

/-- What listeners are told of. -/
inductive Event where
  | tabUpdated (update : TabUpdate)
  | tabActivated (tab : TabId)
  | request (event : RequestEvent)
  | activation (enabled : Bool)
  | catalog (trigger : Trigger)

namespace Event

/-- The channel of an event. -/
def channel : Event → Channel
  | tabUpdated _ => .tabUpdated
  | tabActivated _ => .tabActivated
  | request _ => .request
  | activation _ => .activation
  | catalog _ => .catalog

/-- A text, or null. -/
def textOrNull : Option Text → Json
  | some t => .text t
  | none => .null

/-- What an event tells, as a value. -/
def payload : Event → Json
  | tabUpdated u =>
    .list [u.tab.id.toJson, .text u.tab.url, .bool u.tab.active, .bool u.urlChanged,
      textOrNull u.status]
  | tabActivated tab => .list [tab.toJson]
  | request e => .list [e.tab.toJson, .text e.url, textOrNull e.type]
  | activation enabled => .bool enabled
  | catalog trigger => .text trigger.name

end Event

end BreakageAdvisor
