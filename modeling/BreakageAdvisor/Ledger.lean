import BreakageAdvisor.Store

/-!
# The ledger

The ledger keeps a user from being told twice of one domain. A domain is claimed from the moment
it is reserved until the reservation is recorded or released; a recorded domain is kept in the
durable store. A store that fails never stops the advisor: what cannot be read counts as not
recorded, what cannot be written is reported and dropped.
-/

namespace BreakageAdvisor

/-- The ledger: the claims of attempts that have not ended, and the store. -/
structure Ledger where
  inFlight : List Text := []
  store : Store := {}

namespace Ledger

/-- A call to the store of a ledger. -/
def onStore {α : Type} : Act Store α → Act Ledger α :=
  Act.onPart (·.store) fun store ledger => { ledger with store }

/-- Claims a domain. -/
def claim (domain : Text) (ledger : Ledger) : Ledger :=
  { ledger with inFlight := Store.adjoin ledger.inFlight domain }

/-- Ends the claim on a domain. -/
def unclaim (domain : Text) (ledger : Ledger) : Ledger :=
  { ledger with inFlight := ledger.inFlight.filter (· != domain) }

/-- Whether a domain is claimed or was told of. -/
def isNotified (domain : Text) : Act Ledger Bool := do
  if (← Act.get).inFlight.contains domain then return true
  match ← onStore (Store.isNotified domain) with
  | some found => return found
  | none =>
    Act.report .notifiedUnreadable
    return false

/-- Claims a domain for one attempt, unless it is empty, claimed, or was told of. -/
def reserve (domain : Text) : Act Ledger Bool := do
  if domain.isEmpty then return false
  if ← isNotified domain then return false
  Act.modify (claim domain)
  return true

/-- Drops the claim on a domain. -/
def release (domain : Text) : Act Ledger Unit := Act.modify (unclaim domain)

/-- Stores that a domain was told of, and ends the claim on it. -/
def record (domain : Text) : Act Ledger Unit := do
  if (← onStore (Store.addNotified domain)).isNone then
    Act.report (.notifiedUnstored domain)
  release domain

/-- Forgets all domains that were told of and counts them. A store that fails makes this fail. -/
def clear : Act Ledger (Except Failure Nat) := do
  match ← onStore Store.clearNotified with
  | some count =>
    Act.report (.notifiedCleared count)
    return .ok count
  | none => return .error .storeUnavailable

/-- Whether the user asked not to be told of a breakage again. -/
def isIgnored : Option Text → Act Ledger Bool
  | none => return false
  | some [] => return false
  | some id => do
    match ← onStore Store.listIgnored with
    | some ids => return ids.contains id
    | none =>
      Act.report .ignoredUnreadable
      return false

/-- Stores that the user asked not to be told of a breakage again. -/
def ignore : Option Text → Act Ledger Unit
  | none => return
  | some [] => return
  | some id => do
    if (← onStore (Store.addIgnored id)).isNone then Act.report (.ignoredUnstored id)

end Ledger

end BreakageAdvisor
