import BreakageAdvisor.Bridge.Inbound
import BreakageAdvisor.Bridge.Outbound
import BreakageAdvisor.Store

/-!
# The bridge

The bridge takes the messages of the browser: it keeps the state of the feature and the configured
catalogs, and says which event the listeners are to be told of.
-/

namespace BreakageAdvisor

/-- The bridge, with the durable state that it changes. -/
structure Bridge where
  /-- Whether the feature is active, as the browser said last. -/
  active : Bool := false
  store : Store := {}
  preferences : Preferences := []

namespace Bridge

/-- A computation on the store. -/
def onStore {α : Type} : Act Store α → Act Bridge α :=
  Act.onPart (·.store) fun store bridge => { bridge with store }

/-- Changes the preferences. -/
def change (f : Preferences → Preferences) : Act Bridge Unit :=
  Act.modify fun bridge => { bridge with preferences := f bridge.preferences }

/-- Takes a message, and gives the event that it causes. -/
def receive : Inbound → Act Bridge (Except Failure (Option Event))
  | .reply _ _ => return .ok none
  | .hello active => do
    Act.modify fun bridge => { bridge with active }
    Act.enter (.sent Outbound.helloAck)
    return .ok (some (.activation active))
  | .feature active => do
    Act.modify fun bridge => { bridge with active }
    return .ok (some (.activation active))
  | .tabUpdated update => return .ok (some (.tabUpdated update))
  | .tabActivated tab => return .ok (some (.tabActivated tab))
  | .request event => return .ok (some (.request event))
  | .catalog trigger none => do
    change (·.clearCatalog trigger.name)
    return .ok (some (.catalog trigger))
  | .catalog trigger (some entries) => do
    change (·.setCatalog trigger.name (.list entries))
    return .ok (some (.catalog trigger))
  | .unknownCatalog kind => do
    Act.report (.unknownCatalog kind)
    return .ok none
  | .catalogNotList trigger => do
    Act.report (.catalogNotList trigger)
    return .ok none
  | .clearNotified => do
    match ← onStore Store.clearNotified with
    | some count =>
      Act.report (.clearedOnRequest count)
      return .ok none
    | none => return .error .storeUnavailable
  | .other type => do
    Act.report (.messageIgnored type)
    return .ok none

end Bridge

end BreakageAdvisor
