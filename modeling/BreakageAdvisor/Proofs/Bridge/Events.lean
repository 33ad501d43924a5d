import BreakageAdvisor.Bridge.Inbound
import BreakageAdvisor.Proofs.Act
import BreakageAdvisor.Proofs.Bridge.Calls

/-!
# What events make of calls

Any number of calls at once. Frames are written, replies come, times run out and the messages end in
any order, and a call that is settled gets its turn at any later time: its time may still run out
when the reply is there, and the reply may still come when the time is up. As long as a call has not
ended, its result is that of the first answer since it was made, and its time is up if it ran out
since then.
-/

namespace BreakageAdvisor

namespace Calls

variable {ω : Type}

/-- What happens to calls. -/
inductive Event (ω : Type) where
  /-- A call is made, and its frame is to be written. -/
  | made (waiter : ω) (method : Text) (deadline : Option Nat)
  /-- The frame of a call was written, or could not be. -/
  | wrote (id : Nat) (outcome : Except Failure Unit)
  /-- The frame of a call could not be written in time. -/
  | stalled (id : Nat)
  /-- A message came that bears a reply. -/
  | replied (message : Fields)
  /-- The time of a call is up. -/
  | expired (id : Nat)
  /-- The messages have ended. -/
  | closed
  /-- A call that is settled gets its turn. -/
  | woken (id : Nat)

/-- The calls after a message that bears a reply. One that is refused changes nothing. -/
def receive (message : Fields) (calls : Calls ω) : Calls ω :=
  match Inbound.replyOf message with
  | .ok (.reply value result) => calls.reply value result
  | _ => calls

/-- The calls after an event. -/
def step (calls : Calls ω) : Event ω → Calls ω
  | .made waiter method deadline => calls.make waiter method deadline
  | .wrote id (.ok ()) => calls.wrote id
  | .wrote id (.error _) => calls.drop id
  | .stalled id => calls.drop id
  | .replied message => calls.receive message
  | .expired id => calls.expire id
  | .closed => calls.close
  | .woken id => (collect id).state calls

/-- The call that ends in an event, and its result. A frame that takes too long to be written is
taken for the end of the time of its call. -/
def ended? (calls : Calls ω) : Event ω → Option (Nat × Except Failure Json)
  | .wrote id (.error cause) => some (id, .error cause)
  | .stalled id => (calls.call? id).map fun call => (id, .error call.timedOut)
  | .woken id => ((collect id).value calls).map fun ended => (id, ended.2)
  | _ => none

/-- Whether an event can happen: a frame is written once, the time of a call runs out if it runs,
also when the call has its reply, and only a settled call gets its turn. -/
def possible (calls : Calls ω) : Event ω → Bool
  | .wrote id _ | .stalled id => (calls.call? id).any fun call => !call.written
  | .expired id => (calls.call? id).any fun call => call.clock = .running
  | .woken id => (calls.ready? id).isSome
  | _ => true

/-- Whether events can happen one after the other. -/
def feasible (calls : Calls ω) : List (Event ω) → Bool
  | [] => true
  | e :: rest => calls.possible e && (calls.step e).feasible rest

/-- The calls after events, one after the other. -/
def run (calls : Calls ω) (events : List (Event ω)) : Calls ω := events.foldl step calls

/-- The calls that end in events, in order, with their results. -/
def ended (calls : Calls ω) : List (Event ω) → List (Nat × Except Failure Json)
  | [] => []
  | e :: rest => (calls.ended? e).toList ++ (calls.step e).ended rest

/-- The ids of the calls that are made in events, in order. -/
def issued (calls : Calls ω) : List (Event ω) → List Nat
  | [] => []
  | e :: rest =>
    match e with
    | .made _ _ _ => (calls.made + 1) :: (calls.step e).issued rest
    | _ => (calls.step e).issued rest

namespace Event

/-- Whether an event makes a call. -/
def makes : Event ω → Bool
  | made _ _ _ => true
  | _ => false

/-- Whether an event answers the call of an id: a reply that bears the id, or the end of the
messages. -/
def answers (id : Nat) : Event ω → Bool
  | replied message => isId (Fields.getD message "id") id
  | closed => true
  | _ => false

/-- Whether the call of an id gets its turn in an event. -/
def wakes (id : Nat) : Event ω → Bool
  | woken n => n == id
  | _ => false

/-- The result that an event gives: that of a reply that says that all went well. -/
def result? : Event ω → Option Json
  | replied message =>
    if (Fields.getD message "ok").truthy then some (Fields.getD message "result") else none
  | _ => none

/-- Whether a call that an event answers gets such a result: the one that the event gives, or a
failure of the bridge. -/
def Gives (e : Event ω) (r : Except Failure Json) : Prop :=
  match e.result? with
  | some value => r = .ok value
  | none => ∃ reason, r = .error (.bridge reason)

end Event

/-- The events after the call of an id was made, where ids count calls from one. -/
def since : Nat → List (Event ω) → List (Event ω)
  | 0, events => events
  | _ + 1, [] => []
  | id + 1, e :: rest => if e.makes then since id rest else since (id + 1) rest

/-- The events from when the call of an id was made until it got its turn. -/
def lifetime (id : Nat) (events : List (Event ω)) : List (Event ω) :=
  (since id events).takeWhile fun e => !e.wakes id

/-- A call failed at the bridge. -/
def FailedAtBridge (r : Except Failure Json) : Prop := ∃ reason, r = .error (.bridge reason)

/-- Whether the first answer that a call had in events gives such a result. -/
def Answered (id : Nat) (events : List (Event ω)) (r : Except Failure Json) : Prop :=
  ∃ e, events.find? (·.answers id) = some e ∧ e.Gives r

/-- How a call ends that had events when it got its turn. -/
inductive Settled (replyPrevails : Bool) (id : Nat) (events : List (Event ω))
    (r : Except Failure Json) : Prop where
  /-- It had an answer, and its time was not up, or the answer prevails. -/
  | answered (ha : Answered id events r) (hp : replyPrevails ∨ .expired id ∉ events)
  /-- Its time was up, and it had no answer, or the answer does not prevail. -/
  | timedOut (hx : .expired id ∈ events) (hn : replyPrevails → ∀ e ∈ events, e.answers id = false)
    (hr : FailedAtBridge r)

section Histories

variable {past : List (Event ω)} {e : Event ω} {id : Nat} {r : Except Failure Json}

theorem since_concat_of_le (h : id ≤ past.countP Event.makes) :
    since id (past ++ [e]) = since id past ++ [e] := by
  induction past generalizing id with
  | nil =>
    obtain rfl : id = 0 := by simpa using h
    rfl
  | cons first rest ih =>
    cases id with
    | zero => rfl
    | succ id =>
      simp only [List.cons_append, since]
      by_cases hm : first.makes
      · rw [if_pos hm, if_pos hm]
        apply ih
        rw [List.countP_cons_of_pos hm] at h
        omega
      · rw [if_neg hm, if_neg hm]
        apply ih
        rwa [List.countP_cons_of_neg hm] at h

private theorem since_concat_of_makes (he : e.makes) :
    since (past.countP Event.makes + 1) (past ++ [e]) = [] := by
  induction past with
  | nil => simp [since, he]
  | cons first rest ih =>
    by_cases hm : first.makes
    · rw [List.countP_cons_of_pos hm, List.cons_append, since, if_pos hm, ih]
    · rw [List.countP_cons_of_neg hm, List.cons_append, since, if_neg hm, ih]

/-- The first answer to a call stays the first. -/
theorem Answered.concat (h : Answered id past r) : Answered id (past ++ [e]) r := by
  obtain ⟨first, hf, hg⟩ := h
  exact ⟨first, by rw [List.find?_append, hf, Option.some_or], hg⟩

private theorem Answered.of_answers (hn : past.find? (·.answers id) = none) (hc : e.answers id)
    (hg : e.Gives r) : Answered id (past ++ [e]) r := by
  refine ⟨e, ?_, hg⟩
  rw [List.find?_append, hn, Option.none_or, List.find?_cons_of_pos hc]

end Histories

/-- A message that bears a reply is refused, and its id is that of no call, or it gives its result
to its id. -/
private theorem replyOf_cases (message : Fields) :
    (∃ cause, Inbound.replyOf message = .error cause) ∧
        (∀ id, isId (Fields.getD message "id") id = false) ∨
      ∃ result, Inbound.replyOf message = .ok (.reply (Fields.getD message "id") result) ∧
        (Event.replied (ω := ω) message).Gives result := by
  simp only [Inbound.replyOf, Event.Gives, Event.result?]
  by_cases hk : Inbound.isKey (Fields.getD message "id")
  · right
    by_cases ho : (Fields.getD message "ok").truthy
    · refine ⟨.ok (Fields.getD message "result"), ?_, ?_⟩
      · simp [hk, ho]
      · simp [ho]
    · have hr := Fields.getD (Fields.getD message "error").fields "message"
      rw [if_neg (by simp [hk]), if_neg ho, if_neg ho]
      exact ⟨_, rfl, _, rfl⟩
  · left
    refine ⟨⟨_, by simp [hk]; rfl⟩, fun id => ?_⟩
    cases hv : Fields.getD message "id" with
    | list items => rfl
    | object fields => rfl
    | _ => simp [hv, Inbound.isKey] at hk

section Live

variable {past : List (Event ω)} {calls calls' : Calls ω} {e : Event ω}

/-- The calls that have not ended are what the events have made of them. -/
structure Tracks (past : List (Event ω)) (calls : Calls ω) : Prop where
  made : calls.made = past.countP Event.makes
  bound : ∀ n call, calls.call? n = some call → 1 ≤ n ∧ n ≤ calls.made
  /-- Replies are awaited for calls that have not ended. -/
  live : ∀ n ∈ calls.awaited, (calls.call? n).isSome
  nodup : calls.awaited.Nodup
  /-- The reply of a call without a result is awaited, and nothing has answered the call. -/
  unsettled : ∀ n call, calls.call? n = some call → call.result = none →
    n ∈ calls.awaited ∧ (since n past).find? (·.answers n) = none
  settled : ∀ n call r, calls.call? n = some call → call.result = some r →
    Answered n (since n past) r
  /-- The time of a call is up if it has run out. -/
  clock : ∀ n call, calls.call? n = some call → (call.clock = .up ↔ .expired n ∈ since n past)
  /-- No call that has not ended has got its turn. -/
  asleep : ∀ n call, calls.call? n = some call → ∀ e ∈ since n past, e.wakes n = false

/-- What an event does to the result of the call of an id, given the ids awaited afterwards. -/
inductive Fate (e : Event ω) (n : Nat) (awaited : List Nat) :
    Option (Except Failure Json) → Option (Except Failure Json) → Prop where
  | kept (r : Except Failure Json) : Fate e n awaited (some r) (some r)
  | untouched (hc : e.answers n = false) (ha : n ∈ awaited) : Fate e n awaited none none
  | settled (r : Except Failure Json) (hc : e.answers n) (hg : e.Gives r) :
    Fate e n awaited none (some r)

private theorem Fate.of_not_answers {n : Nat} {awaited : List Nat} (hc : e.answers n = false)
    {result : Option (Except Failure Json)} (ha : result = none → n ∈ awaited) :
    Fate e n awaited result result := by
  cases result with
  | none => exact .untouched hc (ha rfl)
  | some r => exact .kept r

/-- What becomes of the call of an id that is there after an event, given the ids awaited
afterwards. -/
structure Becomes (e : Event ω) (n : Nat) (awaited : List Nat) (call call' : Call ω) : Prop where
  fate : Fate e n awaited call.result call'.result
  clock : call'.clock = .up ↔ call.clock = .up ∨ e = .expired n
  asleep : e.wakes n = false

/-- An event that has no part in a call leaves it as it is. -/
theorem Becomes.refl {n : Nat} {awaited : List Nat} {call : Call ω} (hc : e.answers n = false)
    (hx : e ≠ .expired n) (hw : e.wakes n = false) (ha : call.result = none → n ∈ awaited) :
    Becomes e n awaited call call where
  fate := .of_not_answers hc ha
  clock := by simp [hx]
  asleep := hw

/-- An event that makes no call keeps the calls what the events have made of them, if it makes of
every call what becomes of it. -/
private theorem Tracks.of_becomes (h : Tracks past calls) (hm : e.makes = false)
    (hmade : calls'.made = calls.made)
    (hbecomes : ∀ n call', calls'.call? n = some call' →
      ∃ call, calls.call? n = some call ∧ Becomes e n calls'.awaited call call')
    (hlive : ∀ n ∈ calls'.awaited, (calls'.call? n).isSome) (hnodup : calls'.awaited.Nodup) :
    Tracks (past ++ [e]) calls' := by
  have hsince (n : Nat) (call : Call ω) (hc : calls.call? n = some call) :
      since n (past ++ [e]) = since n past ++ [e] :=
    since_concat_of_le (h.made ▸ (h.bound n call hc).2)
  refine ⟨?_, ?_, hlive, hnodup, ?_, ?_, ?_, ?_⟩
  · rw [List.countP_append, hmade, h.made]
    simp [hm]
  · intro n call' hc'
    obtain ⟨call, hc, _⟩ := hbecomes n call' hc'
    rw [hmade]
    exact h.bound n call hc
  · intro n call' hc' hr
    obtain ⟨call, hc, hb⟩ := hbecomes n call' hc'
    have hf := hb.fate
    rw [hr] at hf
    generalize hcr : call.result = before at hf
    cases hf with
    | untouched hn ha =>
      refine ⟨ha, ?_⟩
      rw [hsince n call hc, List.find?_append, (h.unsettled n call hc hcr).2]
      simp [hn]
  · intro n call' r hc' hr
    obtain ⟨call, hc, hb⟩ := hbecomes n call' hc'
    have hf := hb.fate
    rw [hr] at hf
    rw [hsince n call hc]
    generalize hcr : call.result = before at hf
    cases hf with
    | kept => exact (h.settled n call r hc hcr).concat
    | settled _ hn hg => exact .of_answers (h.unsettled n call hc hcr).2 hn hg
  · intro n call' hc'
    obtain ⟨call, hc, hb⟩ := hbecomes n call' hc'
    rw [hb.clock, h.clock n call hc, hsince n call hc, List.mem_append, List.mem_singleton, eq_comm]
  · intro n call' hc'
    obtain ⟨call, hc, hb⟩ := hbecomes n call' hc'
    rw [hsince n call hc]
    exact List.forall_mem_append.mpr ⟨h.asleep n call hc, List.forall_mem_singleton.mpr hb.asleep⟩

/-- A new call keeps the calls what the events have made of them. -/
theorem Tracks.make (h : Tracks past calls) (waiter : ω) (method : Text) (deadline : Option Nat) :
    Tracks (past ++ [.made waiter method deadline]) (calls.make waiter method deadline) := by
  have hfresh : calls.call? (calls.made + 1) = none := by
    cases hc : calls.call? (calls.made + 1) with
    | none => rfl
    | some call =>
      have := (h.bound _ call hc).2
      omega
  have hsome {n : Nat} {call : Call ω} (hc : calls.call? n = some call) :
      (calls.make waiter method deadline).call? n = some call := by
    rw [call?_make, hc, Option.some_or]
  have hold {n : Nat} (call : Call ω) (hc : calls.call? n = some call) :
      since n (past ++ [.made waiter method deadline]) =
        since n past ++ [.made waiter method deadline] :=
    since_concat_of_le (h.made ▸ (h.bound n call hc).2)
  refine ⟨?_, ?_, ?_, ?_, ?_, ?_, ?_, ?_⟩
  · rw [List.countP_append, ← h.made]
    rfl
  · intro n call hc
    change 1 ≤ n ∧ n ≤ calls.made + 1
    rcases calls.call?_or_new_of_make hc with hc | ⟨rfl, _⟩
    · have := h.bound n call hc
      omega
    · omega
  · intro n hn
    rcases List.mem_append.mp hn with hn | hn
    · obtain ⟨call, hc⟩ := Option.isSome_iff_exists.mp (h.live n hn)
      rw [hsome hc]
      rfl
    · rw [List.mem_singleton.mp hn, call?_make, hfresh]
      simp
  · refine List.nodup_append.mpr ⟨h.nodup, by simp, ?_⟩
    rintro n hn _ hm rfl
    rw [List.mem_singleton.mp hm] at hn
    have := h.live _ hn
    rw [hfresh] at this
    cases this
  · intro n call hc hr
    rcases calls.call?_or_new_of_make hc with hc | ⟨rfl, _⟩
    · obtain ⟨ha, hn⟩ := h.unsettled n call hc hr
      refine ⟨List.mem_append_left _ ha, ?_⟩
      rw [hold call hc, List.find?_append, hn]
      rfl
    · refine ⟨List.mem_append_right _ (List.mem_singleton_self _), ?_⟩
      rw [h.made, since_concat_of_makes rfl]
      rfl
  · intro n call r hc hr
    rcases calls.call?_or_new_of_make hc with hc | ⟨_, rfl⟩
    · rw [hold call hc]
      exact (h.settled n call r hc hr).concat
    · cases hr
  · intro n call hc
    rcases calls.call?_or_new_of_make hc with hc | ⟨rfl, rfl⟩
    · rw [hold call hc, h.clock n call hc]
      simp
    · rw [h.made, since_concat_of_makes rfl]
      simp
  · intro n call hc
    rcases calls.call?_or_new_of_make hc with hc | ⟨rfl, rfl⟩
    · rw [hold call hc]
      exact List.forall_mem_append.mpr
        ⟨h.asleep n call hc, List.forall_mem_singleton.mpr rfl⟩
    · rw [h.made, since_concat_of_makes rfl]
      exact List.forall_mem_nil _

/-- A call that ends keeps the others what the events have made of them, if the event has no part in
them. -/
theorem Tracks.drop (h : Tracks past calls) (id : Nat) (hm : e.makes = false)
    (hc : ∀ n, e.answers n = false) (hx : ∀ n, e ≠ .expired n)
    (hw : ∀ n, n ≠ id → e.wakes n = false) : Tracks (past ++ [e]) (calls.drop id) := by
  refine h.of_becomes hm rfl ?_ ?_ (h.nodup.erase id)
  · intro n call hn
    rw [call?_drop] at hn
    split at hn
    · cases hn
    · next hne =>
      refine ⟨call, hn, .refl (hc n) (hx n) (hw n hne) fun hr => ?_⟩
      exact (List.mem_erase_of_ne hne).mpr (h.unsettled n call hn hr).1
  · intro n hn
    rw [call?_drop, if_neg fun hne => h.nodup.not_mem_erase (hne ▸ hn)]
    exact h.live n (List.mem_of_mem_erase hn)

/-- An event that changes one call, and the ids awaited at most by that of the call, keeps the calls
what the events have made of them, if it makes of the call what becomes of it. -/
theorem Tracks.change (h : Tracks past calls) (id : Nat) (f : Call ω → Call ω)
    (hid : ∀ call, (f call).id = call.id) {awaited : List Nat} (hm : e.makes = false)
    (hother : ∀ n, n ≠ id → e.answers n = false ∧ e ≠ .expired n)
    (hw : ∀ n, e.wakes n = false)
    (hself : ∀ call, calls.call? id = some call → Becomes e id awaited call (f call))
    (hsub : ∀ n ∈ awaited, n ∈ calls.awaited)
    (hkeep : ∀ n ∈ calls.awaited, n ≠ id → n ∈ awaited) (hnodup : awaited.Nodup) :
    Tracks (past ++ [e]) { calls.change id f with awaited := awaited } := by
  have hcall := calls.call?_change id hid
  refine h.of_becomes hm rfl ?_ ?_ hnodup
  · intro n call' hc'
    replace hc' : (calls.change id f).call? n = some call' := hc'
    rw [hcall] at hc'
    by_cases hn : n = id
    · subst hn
      rw [if_pos rfl] at hc'
      obtain ⟨call, hc, rfl⟩ := Option.map_eq_some_iff.mp hc'
      exact ⟨call, hc, hself call hc⟩
    · rw [if_neg hn] at hc'
      refine ⟨call', hc', .refl (hother n hn).1 (hother n hn).2 (hw n) fun hr => ?_⟩
      exact hkeep n (h.unsettled n call' hc' hr).1 hn
  · intro n hn
    change ((calls.change id f).call? n).isSome
    have hl := h.live n (hsub n hn)
    rw [hcall]
    split
    · rwa [Option.isSome_map]
    · exact hl

/-- A frame that was written keeps the calls what the events have made of them. -/
theorem Tracks.wrote (h : Tracks past calls) (id : Nat) :
    Tracks (past ++ [.wrote id (.ok ())]) (calls.wrote id) := by
  refine h.change id Call.wrote (fun _ => rfl) rfl (fun _ _ => ⟨rfl, by simp⟩) (fun _ => rfl) ?_
    (fun _ hn => hn) (fun _ hn _ => hn) h.nodup
  intro call hc
  refine ⟨.of_not_answers rfl fun hr => (h.unsettled id call hc hr).1, ?_, rfl⟩
  simp

/-- A reply keeps the calls what the events have made of them. -/
theorem Tracks.receive (h : Tracks past calls) (message : Fields) :
    Tracks (past ++ [.replied message]) (calls.receive message) := by
  have hsame (hn : ∀ n ∈ calls.awaited, isId (Fields.getD message "id") n = false) :
      Tracks (past ++ [.replied message]) calls := by
    refine h.of_becomes rfl rfl ?_ h.live h.nodup
    intro n call hc
    refine ⟨call, hc, ?_, by simp, rfl⟩
    cases hr : call.result with
    | none =>
      have ha := (h.unsettled n call hc hr).1
      exact .untouched (hn n ha) ha
    | some r => exact .kept r
  rcases replyOf_cases (ω := ω) message with ⟨⟨cause, hr⟩, hn⟩ | ⟨result, hr, hg⟩
  · rw [Calls.receive, hr]
    exact hsame fun n _ => hn n
  · rw [Calls.receive, hr]
    dsimp only
    rw [reply]
    cases hf : calls.awaited.find? (isId (Fields.getD message "id")) with
    | none => exact hsame fun n ha => by simpa using List.find?_eq_none.mp hf n ha
    | some m =>
      have hm : isId (Fields.getD message "id") m := List.find?_some hf
      refine h.change m (·.settle result) (Call.id_settle result) rfl ?_ (fun _ => rfl) ?_
        (fun _ => List.mem_of_mem_erase) (fun n hn hne => (List.mem_erase_of_ne hne).mpr hn)
        (h.nodup.erase m)
      · exact fun n hn => ⟨Bool.eq_false_iff.mpr fun hi => hn (isId_inj hi hm), by simp⟩
      · intro call hc
        refine ⟨?_, by simp, rfl⟩
        cases hcr : call.result with
        | none =>
          rw [call.result_settle_of_none result hcr]
          exact .settled result hm hg
        | some r =>
          rw [call.settle_of_some result hcr, hcr]
          exact .kept r

/-- What is checked of the call of an id is so only if there is one. -/
theorem exists_of_any {n : Nat} {p : Call ω → Bool} (h : (calls.call? n).any p) :
    ∃ call, calls.call? n = some call ∧ p call := by
  cases hc : calls.call? n with
  | none =>
    rw [hc] at h
    cases h
  | some call =>
    rw [hc] at h
    exact ⟨call, rfl, h⟩

/-- Time that runs out for a call keeps the calls what the events have made of them. -/
theorem Tracks.expire (h : Tracks past calls) {id : Nat} (hp : calls.possible (.expired id)) :
    Tracks (past ++ [.expired id]) (calls.expire id) := by
  refine h.change id Call.expire (fun _ => rfl) rfl ?_ (fun _ => rfl) ?_ (fun _ hn => hn)
    (fun _ hn _ => hn) h.nodup
  · exact fun n hn => ⟨rfl, fun he => hn (Event.expired.inj he).symm⟩
  · intro call hc
    obtain ⟨call', hc', hrun⟩ := exists_of_any hp
    cases hc.symm.trans hc'
    refine ⟨.of_not_answers rfl fun hr => (h.unsettled id call hc hr).1, ?_, rfl⟩
    simp [Call.expire, Clock.ring_eq_up, of_decide_eq_true hrun]

/-- The end of the messages keeps the calls what the events have made of them. -/
theorem Tracks.close (h : Tracks past calls) : Tracks (past ++ [.closed]) calls.close := by
  refine h.of_becomes rfl rfl ?_ (fun n hn => by cases hn) List.nodup_nil
  intro n call' hc'
  rw [call?_close] at hc'
  obtain ⟨call, hc, rfl⟩ := Option.map_eq_some_iff.mp hc'
  refine ⟨call, hc, ?_, ?_, rfl⟩
  · cases hr : call.result with
    | none =>
      rw [if_pos (h.unsettled n call hc hr).1, Call.result_settle_of_none _ _ hr]
      exact .settled _ rfl ⟨_, rfl⟩
    | some r =>
      rw [call.settle_of_some _ hr, ite_self, hr]
      exact .kept r
  · split <;> simp

/-- A call that is ready is there, and is settled by the events since it was made. -/
theorem Tracks.ready (h : Tracks past calls) {id : Nat} {ready : Call ω × Except Failure Json}
    (hr : calls.ready? id = some ready) :
    calls.call? id = some ready.1 ∧ Settled calls.replyPrevails id (since id past) ready.2 := by
  obtain ⟨hc, -, hs⟩ := calls.ready?_eq_some hr
  refine ⟨hc, ?_⟩
  rcases ready.1.ending?_eq_some hs with ⟨hr, hp⟩ | ⟨hr, hup, hn⟩
  · exact .answered (h.settled id ready.1 ready.2 hc hr)
      (hp.imp_right fun hup hx => hup ((h.clock id ready.1 hc).mpr hx))
  · refine .timedOut ((h.clock id ready.1 hc).mp hup) (fun hp => ?_) ⟨_, hr⟩
    simpa using (h.unsettled id ready.1 hc (hn hp)).2

/-- What a settled call leaves and gives when it gets its turn. -/
theorem collect_of_ready {id : Nat} {ready : Call ω × Except Failure Json}
    (hr : calls.ready? id = some ready) :
    (collect id).state calls = calls.drop id ∧
      (collect id).value calls = some (ready.1.waiter, ready.2) := by
  unfold collect
  rw [Act.state_get_bind, Act.value_get_bind, hr]
  exact ⟨rfl, rfl⟩

/-- Every possible event keeps the calls what the events have made of them. -/
theorem Tracks.step (h : Tracks past calls) (hp : calls.possible e) :
    Tracks (past ++ [e]) (calls.step e) := by
  cases e with
  | made waiter method deadline => exact h.make waiter method deadline
  | wrote id outcome =>
    cases outcome with
    | error cause => exact h.drop id rfl (fun _ => rfl) (by simp) (fun _ _ => rfl)
    | ok done => exact h.wrote id
  | stalled id => exact h.drop id rfl (fun _ => rfl) (by simp) (fun _ _ => rfl)
  | replied message => exact h.receive message
  | expired id => exact h.expire hp
  | closed => exact h.close
  | woken id =>
    obtain ⟨ready, hr⟩ := Option.isSome_iff_exists.mp hp
    rw [Calls.step, (collect_of_ready hr).1]
    exact h.drop id rfl (fun _ => rfl) (by simp) fun n hn => by simpa [Event.wakes] using hn.symm

end Live

section Runs

variable {past events : List (Event ω)} {calls : Calls ω}

/-- Possible events, one after the other, keep the calls what the events have made of them. -/
theorem Tracks.run (h : Tracks past calls) (hf : calls.feasible events) :
    Tracks (past ++ events) (calls.run events) := by
  induction events generalizing past calls with
  | nil => rwa [List.append_nil]
  | cons e rest ih =>
    obtain ⟨hp, hrest⟩ := Bool.and_eq_true_iff.mp hf
    rw [List.append_cons]
    exact ih (h.step hp) hrest

/-- A table of which no call was made yet. -/
def fresh (replyPrevails : Bool) : Calls ω := { replyPrevails }

/-- Before anything happened there are no calls. -/
theorem Tracks.nil (replyPrevails : Bool) : Tracks [] (fresh replyPrevails : Calls ω) where
  made := rfl
  bound _ _ h := by cases h
  live _ h := by cases h
  nodup := List.nodup_nil
  unsettled _ _ h := by cases h
  settled _ _ _ h := by cases h
  clock _ _ h := by cases h
  asleep _ _ h := by cases h

end Runs

end Calls

end BreakageAdvisor
