import BreakageAdvisor.Frame
import BreakageAdvisor.Journal

/-!
# Messages to the browser

Queries that only the browser can answer are sent to it as calls with an id, and its reply bears
the same id.
-/

namespace BreakageAdvisor

namespace Outbound

/-- The version of the exchange. -/
def protocolVersion : Int := 1

/-- The acknowledgement of an introduction. -/
def helloAck : Json :=
  .object [("type", .text "helloAck"), ("protocolVersion", .int protocolVersion)]

/-- The call for a query: a method and its parameters. The other queries need no browser. -/
def call? : Query → Option (Text × Fields)
  | .notification message =>
    some ("showMessage", [("message", message.toJson), ("html", .text message.toMarkup),
      ("text", .text message.toText)])
  | .allow url => some ("allowURL", [("url", .text url)])
  | .reload tab => some ("tabs.reload", [("tabId", tab.toJson), ("bypassCache", .bool true)])
  | .tab id => some ("tabs.get", [("tabId", id.toJson)])
  | .cookies domain => some ("cookies.getAll", [("domain", .text domain)])
  | .baseDomain _ => none
  | .bundled _ => none
  | .configured _ => none

/-- The message of a call. -/
def callMessage (id : Nat) (method : Text) (params : Fields) : Json :=
  .object [("type", .text "rpc"), ("id", .int id), ("method", .text method),
    ("params", .object params)]

/-- Whether the answer to a query may take as long as it takes, since the user gives it. -/
def isPatient : Query → Bool
  | .notification _ => true
  | _ => false

end Outbound

namespace Query

/-- The reply to a query that a result of a call gives. A tab that cannot be had is gone. -/
def replyOf : (query : Query) → Except Failure Json → query.Reply
  | .notification _, result =>
    result.map fun
      | .text answer => .text answer
      | _ => .null
  | .cookies _, result => result.map Jar.ofJson
  | .allow _, result => result.map fun _ => ()
  | .reload _, result => result.map fun _ => ()
  | .tab _, .ok .null => .error .tabGone
  | .tab _, .ok described => Tab.ofJson described
  | .tab _, .error (.bridge _) => .error .tabGone
  | .tab _, .error cause => .error cause
  | .baseDomain _, result => result.map fun value => value.display
  | .bundled _, result => result
  | .configured _, result => result

end Query

end BreakageAdvisor
