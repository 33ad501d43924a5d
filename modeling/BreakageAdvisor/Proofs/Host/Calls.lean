import BreakageAdvisor.Proofs.Bridge.Reached
import BreakageAdvisor.Proofs.Serving

/-!
# The calls of a host

Whatever a host does, the calls for which its tasks wait are what possible events have made of them:
calls are made, their frames are written or not, replies come, time passes and the messages end. So
every call that a host makes ends as those events say.
-/

namespace BreakageAdvisor

namespace Inbound

variable {message : Fields} {value : Json} {result : Except Failure Json}

/-- What is read in steps is read from what the first step reads. -/
private theorem exists_of_bind {α : Type} {first : Except Failure α}
    {next : α → Except Failure Inbound} {inbound : Inbound} (h : first >>= next = .ok inbound) :
    ∃ a, next a = .ok inbound := by
  cases first with
  | error cause => cases h
  | ok a => exact ⟨a, h⟩

private theorem catalogOf_ne_reply : catalogOf message ≠ .reply value result := by
  simp only [catalogOf]
  split
  · exact nofun
  · split <;> exact nofun

private theorem replyOf_of_ofFields (h : ofFields message = .ok (.reply value result)) :
    replyOf message = .ok (.reply value result) := by
  simp only [ofFields] at h
  split at h
  · exact h
  split at h
  · cases h
  split at h
  · cases h
  split at h
  · obtain ⟨tab, ht⟩ := exists_of_bind h
    cases ht
  split at h
  · unfold tabActivatedOf at h
    split at h
    · cases h
    · next v _ =>
      cases hv : tabIdOf v with
      | error cause =>
        rw [hv] at h
        cases h
      | ok tab =>
        rw [hv] at h
        cases h
  split at h
  · obtain ⟨tab, ht⟩ := exists_of_bind h
    cases ht
  split at h
  · exact absurd (Except.ok.inj h) catalogOf_ne_reply
  split at h
  · cases h
  · cases h

end Inbound

namespace Host

/-- The calls of a host have a property. -/
def CallsAre (P : Calls Task → Prop) (host : Host) : Prop := P host.table

/-- Possible events have made of the calls what they are. -/
def Correlated (replyPrevails : Bool) (host : Host) : Prop :=
  host.CallsAre (Calls.Reached replyPrevails)

section Lasting

variable {P : Calls Task → Prop}

private theorem callsAre_of_keeps {α : Type} {act : Act Host α} (h : Act.Keeps (·.table) act) :
    Act.Stable (CallsAre P) act :=
  Act.Stable.of_keeps (Q := P) h

private theorem callsAre_onAdvisor {α : Type} (act : Act Advisor α) :
    Act.Stable (CallsAre P) (onAdvisor act) := callsAre_of_keeps fun _ => rfl

private theorem callsAre_sendCall (hP : Calls.Lasting P) (task : Task) (id : Nat)
    (deadline : Option Nat)
    (message : Json) (encoded : Except Failure Bytes) {host : Host} (h : host.CallsAre P)
    {call : Call Task} (hc : host.table.call? id = some call) (hw : call.written = false) :
    ((sendCall task id deadline message encoded).state host).CallsAre P := by
  have hp (outcome : Except Failure Unit) : host.table.possible (.wrote id outcome) := by
    rw [Calls.possible, hc, Option.any_some, hw]
    rfl
  cases encoded with
  | error cause => exact hP.step _ (.wrote id (.error cause)) h (hp _) rfl
  | ok frame =>
    have hwrote : P (host.table.wrote id) := hP.step _ (.wrote id (.ok ())) h (hp _) rfl
    simp only [sendCall, Act.state_bind]
    split
    · exact hP.collect (hP.expire hwrote id) id
    · exact hP.collect hwrote id

private theorem callsAre_makeCall (hP : Calls.Lasting P) (task : Task) (method : Text)
    (params : Fields) :
    Act.Stable (CallsAre P) (makeCall task method params) := by
  intro host h
  have hmade (deadline : Option Nat) : P (host.table.make task method deadline) :=
    hP.step _ (.made task method deadline) h rfl rfl
  unfold makeCall
  rw [Act.state_get_bind]
  dsimp only
  rw [Act.state_bind]
  exact callsAre_sendCall hP task _ _ _ _ (hmade _)
    ((hP.numbered _ h).call?_make task method _) rfl

private theorem callsAre_ask (hP : Calls.Lasting P) (task : Task) :
    Act.Stable (CallsAre P) (ask task) := by
  unfold ask
  split
  · exact callsAre_makeCall hP _ _ _
  · exact callsAre_of_keeps
      (.bind .get fun _ => .bind (.forM _ fun _ => .report _) fun _ => .pure _)

private theorem callsAre_proceed (hP : Calls.Lasting P) (progress : Task.Progress) :
    Act.Stable (CallsAre P) (proceed progress) := by
  induction progress using proceed.induct with
  | case1 task ih =>
    rw [proceed_waiting]
    intro host h
    rw [Act.state_bind]
    have hasked := callsAre_ask hP task host h
    have hlater := ih host
    change ∀ reply,
      Act.Stable (CallsAre P) (proceed ((Advisor.resume _ task reply).value _)) at hlater
    cases (ask task).value host with
    | none => exact hasked
    | some reply => exact hlater reply _ (callsAre_onAdvisor _ _ hasked)
  | case2 progress h =>
    rw [proceed_of_ne h]
    exact fun _ hh => hh

/-- A task begins and goes on. -/
theorem callsAre_run (hP : Calls.Lasting P) (begin : Setting → Act Advisor Task.Progress) :
    Act.Stable (CallsAre P) (run begin) :=
  .bind (callsAre_of_keeps .get) fun _ => .bind (callsAre_onAdvisor _) fun _ =>
    callsAre_proceed hP _

private theorem callsAre_wake (hP : Calls.Lasting P) (id : Nat) :
    Act.Stable (CallsAre P) (wake id) := by
  refine .bind (fun _ h => hP.collect h id) fun ended => ?_
  split
  · exact fun _ h => h
  · exact .bind (callsAre_of_keeps .get) fun _ => .bind (callsAre_onAdvisor _) fun _ =>
      callsAre_proceed hP _

/-- Time passes. -/
theorem callsAre_advance (hP : Calls.Lasting P) (milliseconds : Nat) :
    Act.Stable (CallsAre P) (advance milliseconds) :=
  .bind (callsAre_of_keeps fun _ => rfl) fun _ => .bind (callsAre_of_keeps .get) fun _ =>
    .bind (.forM _ fun call _ h => hP.expire h call.id) fun _ =>
      .forM _ fun _ => callsAre_wake hP _

/-- What goes on when serving ends, once all calls have failed. -/
theorem callsAre_finish (hP : Calls.Lasting P) (result : Except Failure Unit) {host : Host}
    (h : P host.table.close) : ((finish result).state host).CallsAre P := by
  have hafter : Act.Stable (CallsAre P) (do
      (host.calls.filter (Outbound.isPatient ·.waiter.query)).forM (wake ·.id)
      onAdvisor Advisor.stop
      (host.calls.filter (!Outbound.isPatient ·.waiter.query)).forM (wake ·.id)
      Act.modify fun host => { host with served := some result }) :=
    .bind (.forM _ fun _ => callsAre_wake hP _) fun _ => .bind (callsAre_onAdvisor _) fun _ =>
      .bind (.forM _ fun _ => callsAre_wake hP _) fun _ => callsAre_of_keeps fun _ => rfl
  exact hafter { host with table := host.table.close } h

end Lasting

section Correlated

variable {replyPrevails : Bool}

private theorem correlated_settle {message : Fields} {value : Json} {result : Except Failure Json}
    (h : Inbound.replyOf message = .ok (.reply value result)) :
    Act.Stable (Correlated replyPrevails) (settle value result) := by
  refine .bind (callsAre_of_keeps .get) fun host => ?_
  split
  · exact fun _ hh => hh
  · refine .bind (fun host hh => ?_) fun _ => callsAre_wake (Calls.lasting_reached _) _
    have hstep := Calls.Reached.step (e := .replied message) hh rfl
    rw [Calls.step, Calls.receive, h] at hstep
    exact hstep

private theorem correlated_refuse (fields : Fields) (cause : Failure) :
    Act.Stable (Correlated replyPrevails) (refuse fields cause) := by
  unfold refuse
  split
  · exact fun _ h => h
  · exact fun _ h => h

/-- A message is taken, or the end of the messages. -/
theorem correlated_take (message : Option (Except Failure Fields)) :
    Act.Stable (Correlated replyPrevails) (take message) := by
  unfold take
  split
  · exact fun _ h => h
  · exact fun _ h => h
  · split
    · exact correlated_refuse _ _
    · next h => exact .bind (correlated_settle (Inbound.replyOf_of_ofFields h)) fun _ _ hh => hh
    · refine .bind (callsAre_of_keeps fun _ => rfl) fun received => ?_
      split
      · exact correlated_refuse _ _
      · exact fun _ h => h
      · exact fun _ h => h

/-- Serving ends. -/
theorem correlated_finish (result : Except Failure Unit) :
    Act.Stable (Correlated replyPrevails) (finish result) := fun _ h =>
  callsAre_finish (Calls.lasting_reached _) result (Calls.Reached.step (e := .closed) h rfl)

/-- A property of hosts that is kept in all that is done while they serve. -/
structure Invariant (Q : Host → Prop) : Prop where
  /-- No message is taken once the host has served. -/
  take : ∀ message host, host.served = none → Q host → Q ((take message).state host)
  finish : ∀ result, Act.Stable Q (finish result)
  handle : ∀ event, Act.Stable Q (run (handler event))
  advance : ∀ milliseconds, Act.Stable Q (advance milliseconds)

private theorem invariant_correlated : Invariant (Correlated replyPrevails) where
  take message host _ := correlated_take message host
  finish := correlated_finish
  handle _ := callsAre_run (Calls.lasting_reached _) _
  advance := callsAre_advance (Calls.lasting_reached _)

end Correlated

end Host

namespace Desk

variable {Q : Host → Prop}

private theorem stable_onHost {α : Type} {act : Act Host α} (h : Act.Stable Q act) :
    Act.Stable (fun desk => Q desk.host) (onHost act) := fun desk => h desk.host

private theorem stable_of_keeps {α : Type} {act : Act Desk α} (h : Act.Keeps (·.host) act) :
    Act.Stable (fun desk => Q desk.host) act := Act.Stable.of_keeps (Q := Q) h

private theorem heed_of_invariant (hQ : Host.Invariant Q) (message : Option (Except Failure Fields))
    {desk : Desk} (hs : desk.host.served = none) (h : Q desk.host) :
    Q ((heed message).state desk).host := by
  have hhear : Q ((hear message).state desk).host := by
    have htake : Q ((onHost (Host.take message)).state desk).host := hQ.take message _ hs h
    rw [hear, Act.state_bind]
    split
    · exact htake
    · exact htake
  rw [heed, Act.state_bind]
  cases (hear message).value desk with
  | quiet => exact hhear
  | fired event => exact hhear
  | ended result => exact stable_onHost (hQ.finish result) _ hhear

/-- A handler begins. -/
theorem stable_begin (hQ : Host.Invariant Q) (place : Nat) :
    Act.Stable (fun desk => Q desk.host) (begin place) := by
  refine .bind (stable_of_keeps .get) fun desk => ?_
  split
  · exact stable_of_keeps (.pure _)
  · exact .bind (stable_of_keeps fun _ => rfl) fun _ => stable_onHost (hQ.handle _)

end Desk

namespace Serving

variable {Q : Host → Prop}

private theorem stable_onDesk {α : Type} {act : Act Desk α}
    (h : Act.Stable (fun desk => Q desk.host) act) :
    Act.Stable (fun serving => Q serving.desk.host) (onDesk act) :=
  fun serving => h serving.desk

private theorem stable_take (hQ : Host.Invariant Q) :
    Act.Stable (fun serving => Q serving.desk.host) take := by
  intro serving h
  cases hs : serving.served with
  | none =>
    rw [(take_of_serving hs).2.1]
    exact Desk.heed_of_invariant hQ _ hs h
  | some result =>
    rw [Act.state, take_of_served (Option.isSome_of_eq_some hs)]
    exact h

private theorem stable_turn (hQ : Host.Invariant Q) (t : Turn) :
    Act.Stable (fun serving => Q serving.desk.host) (turn t) := by
  cases t with
  | framed body => exact stable_take hQ
  | began place => exact .bind (stable_onDesk (Desk.stable_begin hQ place)) fun _ => .pure _
  | passed milliseconds =>
    exact .bind (stable_onDesk (Desk.stable_onHost (hQ.advance milliseconds))) fun _ => .pure _

/-- Whatever the turns in which a host serves, what holds of it in all that it does holds of it
afterwards, if it did at first. -/
theorem stable_run (hQ : Host.Invariant Q) (turns : List Turn) :
    Act.Stable (fun serving => Q serving.desk.host) (run turns) := by
  induction turns with
  | nil => exact .pure _
  | cons t rest ih => exact .bind (stable_turn hQ t) fun _ => .bind ih fun _ => .pure _

/-- The calls of a host that had none are what possible events have made of them, whatever the turns
in which it serves. -/
theorem exists_events_attend (turns : List Turn) (serving : Serving) {replyPrevails : Bool}
    (h : serving.desk.host.table = .fresh replyPrevails) :
    ∃ events, (.fresh replyPrevails : Calls Task).feasible events ∧
      (.fresh replyPrevails : Calls Task).run events =
        ((attend turns).state serving).desk.host.table := by
  have hstart : serving.desk.host.Correlated replyPrevails := by
    rw [Host.Correlated, Host.CallsAre, h]
    exact .nil replyPrevails
  have hQ : Host.Invariant (Host.Correlated replyPrevails) := Host.invariant_correlated
  exact Act.Stable.bind (stable_run hQ turns) (fun _ => .bind (stable_take hQ) fun _ => .pure _)
    serving hstart

end Serving

end BreakageAdvisor
