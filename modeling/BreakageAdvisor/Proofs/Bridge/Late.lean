import BreakageAdvisor.Proofs.Bridge.Reached

/-!
# Calls after the end of the messages

The end of the messages fails every call whose reply is awaited. The tasks that waited for them go
on meanwhile, and may make more calls. Nothing fails those: their replies are awaited although none
can come, until their time is up, and where they have none, for ever.
-/

namespace BreakageAdvisor

namespace Calls

variable {ω : Type}

/-- No reply is awaited, and all calls that have not ended are settled. -/
def Idle (calls : Calls ω) : Prop :=
  calls.awaited = [] ∧ ∀ n call, calls.call? n = some call → call.result.isSome

section Steps

variable {past : List (Event ω)} {calls : Calls ω} {e : Event ω} {n : Nat} {call' : Call ω}

/-- What an event that is no message makes of the call of an id, where the call is there
afterwards. -/
inductive Leaves (calls : Calls ω) (e : Event ω) (n : Nat) (call' : Call ω) : Prop where
  /-- The call was there. Its time is up if it was, or runs out in the event; it does not begin to
  run for a call without one. -/
  | kept (call : Call ω) (hc : calls.call? n = some call) (hr : call'.result = call.result)
    (hd : call'.deadline = call.deadline)
    (hup : call'.clock = .up ↔ call.clock = .up ∨ e = .expired n)
    (hstopped : call.deadline = none → call.clock = .stopped → call'.clock = .stopped)
  /-- The call was made. -/
  | made (he : e.makes) (hn : n = calls.made + 1) (hr : call'.result = none)
    (hstopped : call'.clock = .stopped)

/-- An event that has no part in a call leaves it as it is. -/
theorem Leaves.refl (hc : calls.call? n = some call') (hx : e ≠ .expired n) :
    Leaves calls e n call' :=
  .kept call' hc rfl rfl (by simp [hx]) fun _ h => h

private theorem leaves_step (hp : calls.possible e) (hq : e.isInbound = false)
    (hc : (calls.step e).call? n = some call') : Leaves calls e n call' := by
  have hdrop {id : Nat} (hx : e ≠ .expired n) (hc : (calls.drop id).call? n = some call') :
      Leaves calls e n call' := by
    rw [call?_drop] at hc
    split at hc
    · cases hc
    · exact .refl hc hx
  cases e with
  | made waiter method deadline =>
    rcases calls.call?_or_new_of_make hc with hc | ⟨hn, rfl⟩
    · exact .refl hc (by simp)
    · exact .made rfl hn rfl rfl
  | wrote id outcome =>
    cases outcome with
    | error cause => exact hdrop (by simp) hc
    | ok done =>
      rw [Calls.step, call?_wrote] at hc
      split at hc
      · obtain ⟨call, hcall, rfl⟩ := Option.map_eq_some_iff.mp hc
        refine .kept call hcall rfl rfl (by simp) fun hd hs => ?_
        simp [Call.wrote, hd, hs]
      · exact .refl hc (by simp)
  | stalled id => exact hdrop (by simp) hc
  | replied message => cases hq
  | expired id =>
    rw [Calls.step, call?_expire] at hc
    split at hc
    · next hn =>
      subst hn
      obtain ⟨call, hcall, rfl⟩ := Option.map_eq_some_iff.mp hc
      rw [possible, hcall, Option.any_some, decide_eq_true_eq] at hp
      refine .kept call hcall rfl rfl ?_ fun _ hs => ?_
      · simp [Call.expire, Clock.ring_eq_up, hp]
      · rw [hs] at hp
        cases hp
    · next hn => exact .refl hc fun he => hn (Event.expired.inj he).symm
  | closed => cases hq
  | woken id =>
    obtain ⟨ready, hr⟩ := Option.isSome_iff_exists.mp hp
    rw [Calls.step, (collect_of_ready hr).1] at hc
    exact hdrop (by simp) hc

/-- An event that is no message adds a new call to those whose reply is awaited, or leaves them as
they are, or removes a call. -/
private theorem awaited_step_cases (hp : calls.possible e) (hq : e.isInbound = false) :
    e.makes ∧ (calls.step e).awaited = calls.awaited ++ [calls.made + 1] ∨
      e.makes = false ∧
        ((calls.step e).awaited = calls.awaited ∨ ∃ id, calls.step e = calls.drop id) := by
  cases e with
  | made waiter method deadline => exact .inl ⟨rfl, rfl⟩
  | wrote id outcome =>
    cases outcome with
    | error cause => exact .inr ⟨rfl, .inr ⟨id, rfl⟩⟩
    | ok done => exact .inr ⟨rfl, .inl rfl⟩
  | stalled id => exact .inr ⟨rfl, .inr ⟨id, rfl⟩⟩
  | replied message => cases hq
  | expired id => exact .inr ⟨rfl, .inl rfl⟩
  | closed => cases hq
  | woken id =>
    obtain ⟨ready, hr⟩ := Option.isSome_iff_exists.mp hp
    exact .inr ⟨rfl, .inr ⟨id, (collect_of_ready hr).1⟩⟩

/-- Replies are awaited for the calls for which they were before and for new ones, while they are
there. -/
private theorem mem_awaited_step (ht : Tracks past calls) (hp : calls.possible e)
    (hq : e.isInbound = false) :
    n ∈ (calls.step e).awaited ↔
      (n ∈ calls.awaited ∨ e.makes ∧ n = calls.made + 1) ∧ ((calls.step e).call? n).isSome := by
  have hlive : n ∈ (calls.step e).awaited → ((calls.step e).call? n).isSome := (ht.step hp).live n
  rcases awaited_step_cases hp hq with ⟨hm, ha⟩ | ⟨hm, ha | ⟨id, hs⟩⟩
  · rw [ha, List.mem_append, List.mem_singleton] at hlive ⊢
    simp only [hm, true_and]
    exact ⟨fun hn => ⟨hn, hlive hn⟩, And.left⟩
  · rw [ha] at hlive ⊢
    simp only [hm, Bool.false_eq_true, false_and, or_false]
    exact ⟨fun hn => ⟨hn, hlive hn⟩, And.left⟩
  · simp only [hm, Bool.false_eq_true, false_and, or_false]
    rw [hs] at hlive ⊢
    refine ⟨fun hn => ⟨List.mem_of_mem_erase hn, hlive hn⟩, fun ⟨hn, hc⟩ => ?_⟩
    rw [call?_drop] at hc
    split at hc
    · cases hc
    · next hne => exact (List.mem_erase_of_ne hne).mpr hn

end Steps

section Awaited

variable {hist events : List (Event ω)} {calls : Calls ω} {e : Event ω}

/-- Calls whose reply is still awaited have no result, or have failed. -/
def AwaitedOrFailed (calls : Calls ω) : Prop :=
  ∀ n ∈ calls.awaited, ∀ call r, calls.call? n = some call → call.result = some r →
    FailedAtBridge r

/-- A reply that settles a call is no longer awaited. -/
theorem AwaitedOrFailed.receive (h : AwaitedOrFailed calls) (hn : calls.awaited.Nodup)
    (message : Fields) : AwaitedOrFailed (calls.receive message) := by
  unfold Calls.receive reply
  split
  · next value result _ =>
    split
    · exact h
    · next id _ =>
      intro n hm call r hc hr
      have hne : n ≠ id := by
        rintro rfl
        exact hn.not_mem_erase hm
      change (calls.change id _).call? n = some call at hc
      rw [calls.call?_change id (Call.id_settle result), if_neg hne] at hc
      exact h n (List.mem_of_mem_erase hm) call r hc hr
  · exact h

/-- Whatever happens, no reply is awaited that has come. -/
theorem AwaitedOrFailed.step (h : AwaitedOrFailed calls) (ht : Tracks hist calls)
    (hp : calls.possible e) : AwaitedOrFailed (calls.step e) := by
  by_cases hq : e.isInbound = false
  · intro n hn call' r hc hr
    obtain ⟨hn, -⟩ := (mem_awaited_step ht hp hq).mp hn
    cases leaves_step hp hq hc with
    | kept call hcall hresult =>
      rw [hresult] at hr
      rcases hn with hn | ⟨-, rfl⟩
      · exact h n hn call r hcall hr
      · -- A new call is none that was there before.
        have := (ht.bound _ call hcall).2
        omega
    | made _ _ hnone =>
      rw [hnone] at hr
      cases hr
  · cases e with
    | replied message => exact h.receive ht.nodup message
    | closed => exact nofun
    | _ => exact absurd rfl hq

/-- No reply is awaited that has come, after any possible events. -/
theorem AwaitedOrFailed.run (h : AwaitedOrFailed calls) (ht : Tracks hist calls)
    (hf : calls.feasible events) : AwaitedOrFailed (calls.run events) := by
  induction events generalizing hist calls with
  | nil => exact h
  | cons e rest ih =>
    obtain ⟨hp, hrest⟩ := Bool.and_eq_true_iff.mp hf
    exact ih (h.step ht hp) (ht.step hp) hrest

end Awaited

section Late

variable {atEnd calls : Calls ω} {hist past after : List (Event ω)} {e : Event ω} {n : Nat}
  {call call' : Call ω}

/-- What a call is like some time after the end of the messages. -/
structure Standing (atEnd : Calls ω) (past : List (Event ω)) (n : Nat) (call : Call ω) : Prop where
  /-- A call that was made before the end is settled. -/
  settled : n ≤ atEnd.made → call.result.isSome
  /-- If its reply was awaited at the end it has failed. -/
  failed : n ∈ atEnd.awaited → ∀ r, call.result = some r → FailedAtBridge r
  /-- A call that was made later is settled only by the end of its time, if it has one. -/
  timed : atEnd.made < n → call.result = none ∧ (call.clock = .up ↔ .expired n ∈ past) ∧
    (call.deadline = none → call.clock = .stopped)

/-- The calls some time after the end of the messages. -/
structure Late (atEnd : Calls ω) (past : List (Event ω)) (calls : Calls ω) : Prop where
  made : atEnd.made ≤ calls.made
  expired : ∀ n, .expired n ∈ past → n ≤ calls.made
  /-- Replies are awaited for the calls that were made later. -/
  awaited : ∀ n, n ∈ calls.awaited ↔ atEnd.made < n ∧ (calls.call? n).isSome
  standing : ∀ n call, calls.call? n = some call → Standing atEnd past n call

/-- At the end of the messages every call is settled, and none was made later. -/
theorem Late.close (ht : Tracks hist atEnd) (hfailed : AwaitedOrFailed atEnd) :
    Late atEnd [] atEnd.close := by
  have hbound (n : Nat) (call : Call ω) (hc : atEnd.close.call? n = some call) : n ≤ atEnd.made :=
    (ht.close.bound n call hc).2
  refine ⟨Nat.le_refl _, nofun, fun n => ⟨nofun, fun ⟨hn, hc⟩ => ?_⟩, fun n call' hc => ?_⟩
  · obtain ⟨call, hc⟩ := Option.isSome_iff_exists.mp hc
    exact absurd (hbound n call hc) (by omega)
  · have hle := hbound n call' hc
    rw [call?_close] at hc
    obtain ⟨call, hcall, rfl⟩ := Option.map_eq_some_iff.mp hc
    refine ⟨fun _ => ?_, fun ha r hr => ?_, fun hn => absurd hle (by omega)⟩
    · -- The reply of a call without a result is awaited, so the end gives it one.
      cases hr : call.result with
      | none =>
        rw [if_pos (ht.unsettled n call hcall hr).1, Call.result_settle_of_none _ _ hr]
        rfl
      | some r =>
        rw [call.settle_of_some _ hr, ite_self, hr]
        rfl
    · -- The result that it has while its reply is awaited is a failure.
      rw [if_pos ha] at hr
      cases hcr : call.result with
      | none =>
        rw [Call.result_settle_of_none _ _ hcr] at hr
        exact ⟨_, (Option.some.inj hr).symm⟩
      | some r' =>
        rw [call.settle_of_some _ hcr] at hr
        exact hfailed n ha call r hcall hr

/-- What a call is like is kept in an event that leaves it there. -/
theorem Standing.keep (h : Standing atEnd past n call) (hr : call'.result = call.result)
    (hd : call'.deadline = call.deadline)
    (hup : call'.clock = .up ↔ call.clock = .up ∨ e = .expired n)
    (hstopped : call.deadline = none → call.clock = .stopped → call'.clock = .stopped) :
    Standing atEnd (past ++ [e]) n call' := by
  refine ⟨?_, ?_, fun hn => ?_⟩
  · rw [hr]
    exact h.settled
  · rw [hr]
    exact h.failed
  · obtain ⟨hnone, hx, hs⟩ := h.timed hn
    rw [hr, hd, hup, hx, List.mem_append, List.mem_singleton, eq_comm (a := e)]
    exact ⟨hnone, Iff.rfl, fun hd => hstopped hd (hs hd)⟩

/-- An event that is no message keeps the calls what they are like. -/
theorem Late.step (h : Late atEnd past calls) (ht : Tracks hist calls) (hp : calls.possible e)
    (hq : e.isInbound = false) : Late atEnd (past ++ [e]) (calls.step e) := by
  have hle : calls.made ≤ (calls.step e).made := by
    rw [(ht.step hp).made, ht.made, List.countP_append]
    exact Nat.le_add_right _ _
  refine ⟨Nat.le_trans h.made hle, fun n hn => ?_, fun n => ?_, fun n call' hc => ?_⟩
  · rcases List.mem_append.mp hn with hn | hn
    · exact Nat.le_trans (h.expired n hn) hle
    · cases List.mem_singleton.mp hn
      obtain ⟨call, hcall, -⟩ := exists_of_any hp
      exact Nat.le_trans (ht.bound n call hcall).2 hle
  · rw [mem_awaited_step ht hp hq, h.awaited]
    refine and_congr_left fun hc => ?_
    obtain ⟨call', hc⟩ := Option.isSome_iff_exists.mp hc
    have hmade := h.made
    constructor
    · rintro (⟨hn, -⟩ | ⟨-, rfl⟩)
      · exact hn
      · omega
    · intro hn
      cases leaves_step hp hq hc with
      | kept call hcall => exact .inl ⟨hn, Option.isSome_of_eq_some hcall⟩
      | made he hm => exact .inr ⟨he, hm⟩
  · cases leaves_step hp hq hc with
    | kept call hcall hr hd hup hs => exact (h.standing n call hcall).keep hr hd hup hs
    | made he hn hr hs =>
      have hmade := h.made
      have hx : .expired n ∉ past ++ [e] := fun hx => by
        rcases List.mem_append.mp hx with hx | hx
        · exact absurd (h.expired n hx) (by omega)
        · cases List.mem_singleton.mp hx
          cases he
      refine ⟨fun hle => absurd hle (by omega), fun _ r hs => ?_, fun _ => ⟨hr, ?_, fun _ => hs⟩⟩
      · rw [hr] at hs
        cases hs
      · simp [hs, hx]

/-- Events that are no messages keep the calls what they are like. -/
theorem Late.run (h : Late atEnd past calls) (ht : Tracks hist calls) (hf : calls.feasible after)
    (hq : ∀ e ∈ after, e.isInbound = false) : Late atEnd (past ++ after) (calls.run after) := by
  induction after generalizing hist past calls with
  | nil => rwa [List.append_nil]
  | cons e rest ih =>
    obtain ⟨hp, hrest⟩ := Bool.and_eq_true_iff.mp hf
    obtain ⟨he, hq⟩ := List.forall_mem_cons.mp hq
    rw [List.append_cons]
    exact ih (h.step ht hp he) (ht.step hp) hrest hq

private theorem Standing.failedAtBridge (h : Standing atEnd past n call)
    (hn : n ∈ atEnd.awaited ∨ atEnd.made < n) {r : Except Failure Json}
    (hr : call.result = some r) : FailedAtBridge r := by
  rcases hn with hn | hn
  · exact h.failed hn r hr
  · rw [(h.timed hn).1] at hr
    cases hr

/-- A call that ends after the end of the messages, and was pending then or made later, ends with
the failure of its frame or at the bridge. -/
theorem Late.result_of_ended? (h : Late atEnd past calls) (hp : calls.possible e)
    {r : Except Failure Json} (hn : n ∈ atEnd.awaited ∨ atEnd.made < n)
    (he : calls.ended? e = some (n, r)) :
    (∃ cause, e = .wrote n (.error cause) ∧ r = .error cause) ∨ FailedAtBridge r := by
  cases e with
  | wrote id outcome =>
    cases outcome with
    | error cause =>
      cases he
      exact .inl ⟨cause, rfl, rfl⟩
    | ok done => cases he
  | stalled id =>
    obtain ⟨call, -, heq⟩ := Option.map_eq_some_iff.mp he
    exact .inr ⟨_, (Prod.mk.inj heq).2.symm⟩
  | woken id =>
    obtain ⟨⟨call, result⟩, hready⟩ := Option.isSome_iff_exists.mp hp
    rw [ended?, (collect_of_ready hready).2] at he
    cases he
    obtain ⟨hc, -, hr⟩ := calls.ready?_eq_some hready
    rcases call.ending?_eq_some hr with ⟨hr, -⟩ | ⟨hr, -⟩
    · exact .inr ((h.standing n call hc).failedAtBridge hn hr)
    · exact .inr ⟨_, hr⟩
  | _ => cases he

end Late

section Endless

variable {calls : Calls ω} {e : Event ω} {events : List (Event ω)} {n : Nat} {call : Call ω}

/-- A call whose frame was written, and that has no time that runs and no result. -/
def Endless (call : Call ω) : Prop := call.written ∧ call.clock = .stopped ∧ call.result = none

/-- An event that is no message leaves a call as it is that has no time that runs and no result. -/
theorem Endless.step (h : Endless call) (hc : calls.call? n = some call) (hp : calls.possible e)
    (hq : e.isInbound = false) : (calls.step e).call? n = some call := by
  obtain ⟨hw, hs, hr⟩ := h
  -- The call lacks what an event that would end or change it asks for.
  have hne {id : Nat} {p : Call ω → Bool} (hp : (calls.call? id).any p) (hn : p call = false) :
      n ≠ id := by
    rintro rfl
    rw [hc, Option.any_some, hn] at hp
    cases hp
  have hdrop {id : Nat} (hid : n ≠ id) : (calls.drop id).call? n = some call := by
    rw [call?_drop, if_neg hid, hc]
  cases e with
  | made waiter method deadline => rw [Calls.step, call?_make, hc, Option.some_or]
  | wrote id outcome =>
    have hid : n ≠ id := hne hp (by simp [hw])
    cases outcome with
    | error cause => exact hdrop hid
    | ok done => rw [Calls.step, call?_wrote, if_neg hid, hc]
  | stalled id => exact hdrop (hne hp (by simp [hw]))
  | replied message => cases hq
  | expired id => rw [Calls.step, call?_expire, if_neg (hne hp (by simp [hs])), hc]
  | closed => cases hq
  | woken id =>
    obtain ⟨⟨found, r⟩, hready⟩ := Option.isSome_iff_exists.mp hp
    rw [Calls.step, (collect_of_ready hready).1]
    refine hdrop ?_
    rintro rfl
    obtain ⟨hf, -, hending⟩ := calls.ready?_eq_some hready
    cases hf.symm.trans hc
    simp [Call.ending?, hs, hr] at hending

/-- As long as no message comes, a call that has no time that runs and no result stays as it is. -/
theorem Endless.run (h : Endless call) (hc : calls.call? n = some call)
    (hf : calls.feasible events) (hq : ∀ e ∈ events, e.isInbound = false) :
    (calls.run events).call? n = some call := by
  induction events generalizing calls with
  | nil => exact hc
  | cons e rest ih =>
    obtain ⟨hp, hrest⟩ := Bool.and_eq_true_iff.mp hf
    obtain ⟨he, hq⟩ := List.forall_mem_cons.mp hq
    exact ih (h.step hc hp he) hrest hq

end Endless

section Since

variable {calls atEnd : Calls ω} {hist after events : List (Event ω)} {n : Nat}
  {replyPrevails : Bool}

/-- Events that are no messages have made of the calls what they are, from the end of the messages
on, where the calls were as given. -/
def SinceEnd (atEnd calls : Calls ω) : Prop :=
  ∃ after, atEnd.close.feasible after ∧ (∀ e ∈ after, e.isInbound = false) ∧
    atEnd.close.run after = calls

/-- At the end of the messages nothing has happened since. -/
theorem SinceEnd.close (atEnd : Calls ω) : SinceEnd atEnd atEnd.close :=
  ⟨[], rfl, List.forall_mem_nil _, rfl⟩

private theorem Tracks.made_run {hist : List (Event ω)} (ht : Tracks hist calls)
    (hf : calls.feasible events) :
    (calls.run events).made = calls.made + events.countP Event.makes := by
  rw [(ht.run hf).made, ht.made, List.countP_append]

private theorem Reached.tracks (h : Reached replyPrevails calls) : ∃ hist, Tracks hist calls := by
  obtain ⟨hist, hf, rfl⟩ := h
  exact ⟨hist, (Tracks.nil replyPrevails).run hf⟩

private theorem Reached.awaitedOrFailed (h : Reached replyPrevails calls) :
    AwaitedOrFailed calls := by
  obtain ⟨hist, hf, rfl⟩ := h
  exact .run nofun (.nil replyPrevails) hf

/-- Some time after the end of the messages the calls are what they are then like. -/
theorem Reached.late (h : Reached replyPrevails atEnd) (hf : atEnd.close.feasible after)
    (hq : ∀ e ∈ after, e.isInbound = false) : Late atEnd after (atEnd.close.run after) := by
  obtain ⟨hist, ht⟩ := h.tracks
  exact (Late.close ht h.awaitedOrFailed).run ht.close hf hq

/-- Where no call is made after the end of the messages, all calls were made before. -/
theorem Reached.le_made (h : Reached replyPrevails atEnd) (hf : atEnd.close.feasible after)
    (hm : ∀ e ∈ after, e.makes = false) {call : Call ω}
    (hc : (atEnd.close.run after).call? n = some call) : n ≤ atEnd.made := by
  obtain ⟨hist, ht⟩ := h.tracks
  have hbound := ((ht.close.run hf).bound n call hc).2
  rwa [ht.close.made_run hf, List.countP_eq_zero.mpr fun e he => by simp [hm e he]] at hbound

/-- Where no call is made after the end of the messages, none waits. -/
theorem Reached.idle (h : Reached replyPrevails atEnd) (hf : atEnd.close.feasible after)
    (hq : ∀ e ∈ after, e.isInbound = false) (hm : ∀ e ∈ after, e.makes = false) :
    Idle (atEnd.close.run after) := by
  have hlate := h.late hf hq
  refine ⟨List.eq_nil_iff_forall_not_mem.mpr fun n hn => ?_, fun n call hc => ?_⟩
  · obtain ⟨hlt, hc⟩ := (hlate.awaited n).mp hn
    obtain ⟨call, hc⟩ := Option.isSome_iff_exists.mp hc
    exact absurd (h.le_made hf hm hc) (by omega)
  · exact (hlate.standing n call hc).settled (h.le_made hf hm hc)

/-- What is possible after the end of the messages, and is no message, comes after the end. -/
theorem lasting_sinceEnd (h : Reached replyPrevails atEnd) : Lasting (SinceEnd atEnd) where
  numbered calls := by
    rintro ⟨after, hf, -, rfl⟩
    exact ((h.step (e := .closed) rfl).run hf).numbered
  step calls e := by
    rintro ⟨after, hf, hq, rfl⟩ hp he
    refine ⟨after ++ [e], ?_, List.forall_mem_append.mpr ⟨hq, List.forall_mem_singleton.mpr he⟩,
      List.foldl_append⟩
    rw [feasible_append, hf, feasible, hp]
    rfl

end Since

end Calls

end BreakageAdvisor
