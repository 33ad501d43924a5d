import BreakageAdvisor.Bridge.Basic

/-!
# Observers

A bridge with observers in the place of an advisor. An observer notes each event that it is told
of; it may then remove a registration, and may fail. Failures are reported when all observers were
told.
-/

namespace BreakageAdvisor

/-- An observer of a channel. -/
structure Observer where
  number : Nat
  name : Text
  /-- The name whose registration it removes when it is told of an event. -/
  drops : Option Text := none
  fails : Bool := false
  deriving DecidableEq, Repr

/-- A bridge and its observers. -/
structure Switchboard where
  bridge : Bridge := {}
  listeners : Listeners Observer := []
  /-- The last registration of each name. -/
  named : List (Text × Channel × Observer) := []

namespace Switchboard

/-- Registers an observer on a channel a number of times. -/
def subscribe (channel : Channel) (name : Text) (times : Nat) (drops : Option Text)
    (fails : Bool) (board : Switchboard) : Switchboard :=
  let observer : Observer := ⟨board.named.length, name, drops, fails⟩
  { board with
    listeners := board.listeners ++ List.replicate times (channel, observer)
    named := (name, channel, observer) :: board.named }

/-- Removes one registration of a name, if there is any. -/
def unsubscribe (name : Text) (board : Switchboard) : Switchboard :=
  match board.named.lookup name with
  | none => board
  | some (channel, observer) =>
    { board with listeners := board.listeners.remove channel observer }

/-- Tells observers of an event, and counts the failures. -/
def tell (payload : Json) : List Observer → Act Switchboard Nat
  | [] => return 0
  | observer :: rest => do
    Act.enter (.notified observer.name payload)
    if let some name := observer.drops then Act.modify (unsubscribe name)
    let failures ← tell payload rest
    return failures + if observer.fails then 1 else 0

/-- Takes a message, and tells all observers that listen now of its event. -/
def receive (message : Fields) : Act Switchboard (Except Failure Unit) := do
  match Inbound.ofFields message with
  | .error cause => return .error cause
  | .ok inbound =>
    match ← Act.onPart (·.bridge) (fun bridge board => { board with bridge })
        (Bridge.receive inbound) with
    | .error cause => return .error cause
    | .ok none => return .ok ()
    | .ok (some event) =>
      let failures ← tell event.payload ((← Act.get).listeners.on event.channel)
      (List.replicate failures LogEntry.handlerFailed).forM Act.report
      return .ok ()

end Switchboard

end BreakageAdvisor
