import BreakageAdvisor.Journal

/-!
# Calls

The calls to the browser that have not ended. The frame of a call is written first; then the call
waits until something settles it: the reply with its id, the end of its time, or the end of the
messages. A reply may come while the frame is still being written. A call that is settled ends when
its turn comes. Its time may run out and its reply come before that, in either order: which of the
two is its result is fixed for all calls of a table.
-/

namespace BreakageAdvisor

/-- How far the time of a call has run. -/
inductive Clock where
  /-- The time does not run: the frame is still to be written, or the call has no time, or it was
  settled before the frame was written. -/
  | stopped
  | running
  /-- The time is up. -/
  | up
  deriving DecidableEq

namespace Clock

/-- Starts a clock that has not run before. -/
def start : Clock → Clock
  | stopped => running
  | clock => clock

/-- The time of a clock that runs is up. -/
def ring : Clock → Clock
  | running => up
  | clock => clock

end Clock

/-- A call that has not ended. -/
structure Call (ω : Type) where
  id : Nat
  /-- Who waits for the result. -/
  waiter : ω
  method : Text
  /-- When its time is up, in milliseconds; never for a notification. -/
  deadline : Option Nat
  /-- Whether its frame was written. -/
  written : Bool := false
  clock : Clock := .stopped
  /-- What its reply or the end of the messages has given. -/
  result : Option (Except Failure Json) := none

namespace Call

variable {ω : Type}

/-- Gives a call its result. One that had a result before keeps it. -/
def settle (result : Except Failure Json) (call : Call ω) : Call ω :=
  if call.result.isNone then { call with result := some result } else call

/-- The frame of a call was written. Its time runs from then on, if it still waits. -/
def wrote (call : Call ω) : Call ω :=
  { call with
    written := true
    clock := if call.deadline.isSome && call.result.isNone then call.clock.start else call.clock }

/-- The time of a call is up. -/
def expire (call : Call ω) : Call ω := { call with clock := call.clock.ring }

/-- Whether a call waits for nothing any more. -/
def isSettled (call : Call ω) : Bool := call.result.isSome || call.clock = .up

/-- Why a call fails when its time is up, or when the writing of its frame takes too long. -/
def timedOut (call : Call ω) : Failure := .bridge (call.method ++ " timed out")

/-- How a call ends that gets its turn, if it is settled. -/
def ending? (replyPrevails : Bool) (call : Call ω) : Option (Except Failure Json) :=
  if call.clock = .up && !(replyPrevails && call.result.isSome) then some (.error call.timedOut)
  else call.result

/-- Why calls fail when the messages have ended. -/
def streamClosed : Failure := .bridge "native messaging stream closed"

end Call

/-- The calls that have not ended. -/
structure Calls (ω : Type) where
  /-- The calls, oldest first. -/
  live : List (Call ω) := []
  /-- The ids for which a reply is awaited. -/
  awaited : List Nat := []
  /-- How many calls were made. -/
  made : Nat := 0
  /-- Whether the reply is the result of a call that has its reply when it gets its turn, although
  its time is up. -/
  replyPrevails : Bool := true

namespace Calls

variable {ω : Type}

/-- Changes the call of an id. -/
def change (id : Nat) (f : Call ω → Call ω) (calls : Calls ω) : Calls ω :=
  { calls with live := calls.live.map fun call => if call.id = id then f call else call }

/-- Makes a call, under an id of its own. -/
def make (waiter : ω) (method : Text) (deadline : Option Nat) (calls : Calls ω) : Calls ω :=
  { calls with
    live := calls.live ++ [{ id := calls.made + 1, waiter, method, deadline }]
    awaited := calls.awaited ++ [calls.made + 1]
    made := calls.made + 1 }

/-- The frame of a call was written. -/
def wrote (id : Nat) : Calls ω → Calls ω := change id Call.wrote

/-- Whether a value is the id of a call. -/
def isId (value : Json) (id : Nat) : Bool := value.sameScalar (.int id)

/-- A reply came. One that is not awaited is passed over. -/
def reply (value : Json) (result : Except Failure Json) (calls : Calls ω) : Calls ω :=
  match calls.awaited.find? (isId value) with
  | none => calls
  | some id => { calls.change id (·.settle result) with awaited := calls.awaited.erase id }

/-- The time of a call is up. -/
def expire (id : Nat) : Calls ω → Calls ω := change id Call.expire

/-- The messages have ended: no reply comes any more. -/
def close (calls : Calls ω) : Calls ω :=
  { calls with
    live := calls.live.map fun call =>
      if call.id ∈ calls.awaited then call.settle (.error Call.streamClosed) else call
    awaited := [] }

/-- Removes a call that has ended. -/
def drop (id : Nat) (calls : Calls ω) : Calls ω :=
  { calls with
    live := calls.live.filter (·.id != id)
    awaited := calls.awaited.erase id }

/-- The call of an id. -/
def call? (id : Nat) (calls : Calls ω) : Option (Call ω) := calls.live.find? (·.id == id)

/-- The call of an id, if it may end, and its result. -/
def ready? (id : Nat) (calls : Calls ω) : Option (Call ω × Except Failure Json) :=
  (calls.call? id).bind fun call =>
    if call.written then (call.ending? calls.replyPrevails).map (call, ·) else none

/-- Ends a call that is settled, and gives who waits for it and its result. -/
def collect (id : Nat) : Act (Calls ω) (Option (ω × Except Failure Json)) := do
  match (← Act.get).ready? id with
  | none => return none
  | some (call, result) =>
    Act.modify (drop id)
    return some (call.waiter, result)

end Calls

end BreakageAdvisor
