import BreakageAdvisor.Host

/-!
# Serving

A host takes messages, one after the other, until it has served. A message may fire an event: every
listener is then to handle it. A handler begins at any later time, and messages may be taken
meanwhile. The messages stand in the frames of a stream.
-/

namespace BreakageAdvisor

/-- A host with the handlers that have not begun. -/
structure Desk where
  host : Host
  /-- The event of each handler that has not begun, oldest first. -/
  ready : List Event := []

namespace Desk

/-- A computation on the host. -/
def onHost {α : Type} : Act Host α → Act Desk α :=
  Act.onPart (·.host) fun host desk => { desk with host }

/-- Fires an event: all its listeners are to handle it. -/
def fire (event : Event) : Act Desk Unit :=
  Act.modify fun desk =>
    { desk with ready := desk.ready ++ (desk.host.listenersOf event).map fun _ => event }

/-- Takes a message, or the end of the messages. -/
def hear (message : Option (Except Failure Fields)) : Act Desk Host.Taken := do
  match ← onHost (Host.take message) with
  | .fired event => do
    fire event
    return .fired event
  | taken => return taken

/-- Takes a message, or the end of the messages, and gives the event that is fired. -/
def heed (message : Option (Except Failure Fields)) : Act Desk (Option Event) := do
  match ← hear message with
  | .quiet => return none
  | .fired event => return some event
  | .ended result => do
    onHost (Host.finish result)
    return none

/-- Begins the handler at a place among those that have not begun. -/
def begin (place : Nat) : Act Desk Unit := do
  match (← Act.get).ready[place]? with
  | none => return
  | some event =>
    Act.modify fun desk => { desk with ready := desk.ready.eraseIdx place }
    onHost (Host.run (Host.handler event))

/-- Begins all handlers that have not begun, in order. -/
def beginAll : Act Desk Unit := do
  (← Act.get).ready.forM fun _ => begin 0

end Desk

/-- A desk with the stream that it serves. -/
structure Serving where
  desk : Desk
  stream : ByteStream

namespace Serving

/-- A computation at the desk. -/
def onDesk {α : Type} : Act Desk α → Act Serving α :=
  Act.onPart (·.desk) fun desk serving => { serving with desk }

/-- A computation on the stream. -/
def onStream {α : Type} : Act ByteStream α → Act Serving α :=
  Act.onPart (·.stream) fun stream serving => { serving with stream }

/-- How serving has ended, if it has. -/
def served (serving : Serving) : Option (Except Failure Unit) := serving.desk.host.served

/-- Takes the next frame off the stream, and gives the event that it fires. Nothing is taken once
the host has served. -/
def take : Act Serving (Option Event) := do
  if (← Act.get).served.isSome then return none
  let message ← onStream Frame.read
  onDesk (Desk.heed message)

/-- Takes up to a number of frames while no handler begins, and says how the messages ended. -/
def takeAll : Nat → Act Serving (Except Failure Unit)
  | 0 => return .ok ()
  | more + 1 => do
    let message ← onStream Frame.read
    match ← onDesk (Desk.hear message) with
    | .ended result => return result
    | _ => takeAll more

end Serving

namespace Host

/-- Serves a stream. -/
def onServing {α : Type} (stream : ByteStream) : Act Serving α → Act Host α :=
  Act.onPart (fun host => ⟨{ host }, stream⟩) fun serving _ => serving.desk.host

/-- Takes the next frame off a stream, and begins the handlers of its event at once. -/
def receive (stream : ByteStream) : Act Host Unit :=
  onServing stream do
    let _ ← Serving.take
    Serving.onDesk Desk.beginAll

/-- Serves a stream whose messages are all there: they are all taken before any handler begins. Then
the advisor is stopped, and tasks that still wait are broken off. -/
def serve (stream : ByteStream) : Act Host Unit := do
  start
  let result ← onServing stream do
    let result ← Serving.takeAll (Frame.readAll stream).length
    Serving.onDesk Desk.beginAll
    return result
  onAdvisor Advisor.stop
  (← Act.get).calls.forM fun call => do
    change (·.drop call.id)
    onAdvisor (Advisor.abandon call.waiter)
  Act.modify fun host => { host with served := some result }

end Host

end BreakageAdvisor
