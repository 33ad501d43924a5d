import BreakageAdvisor.Proofs.Bridge.Events

/-!
# Calls and their results

Whatever the order of events, every call ends at most once: with the failure of its frame, or with
what the first answer gives, or because its time was up. Where a call has both an answer and no time
left when it gets its turn, the table says which of the two prevails.
-/

namespace BreakageAdvisor

namespace Calls

variable {ω : Type}

section Histories

variable {past : List (Event ω)} {e : Event ω} {id : Nat}

private theorem lifetime_concat_of_woken (h : id ≤ past.countP Event.makes)
    (hw : .woken id ∈ since id past) : lifetime id (past ++ [e]) = lifetime id past := by
  have hwakes : (Event.woken id : Event ω).wakes id := by simp [Event.wakes]
  obtain ⟨before, after, hsplit⟩ := List.append_of_mem hw
  simp only [lifetime, since_concat_of_le h, hsplit, List.append_assoc, List.cons_append,
    List.takeWhile_append, List.takeWhile_cons, hwakes, Bool.not_true, Bool.false_eq_true, if_false]

private theorem lifetime_concat_woken (h : id ≤ past.countP Event.makes)
    (hw : ∀ e ∈ since id past, e.wakes id = false) :
    lifetime id (past ++ [.woken id]) = since id past := by
  rw [lifetime, since_concat_of_le h, List.takeWhile_append_of_pos fun e he => by simp [hw e he]]
  simp [Event.wakes]

end Histories

section Steps

private theorem kept_receive (message : Fields) (calls : Calls ω) :
    (calls.receive message).made = calls.made ∧
      (calls.receive message).replyPrevails = calls.replyPrevails := by
  unfold receive reply
  split
  · split <;> exact ⟨rfl, rfl⟩
  · exact ⟨rfl, rfl⟩

private theorem call?_receive_of_none {message : Fields} {calls : Calls ω} {n : Nat}
    (h : calls.call? n = none) : (calls.receive message).call? n = none := by
  unfold receive reply
  split
  · split
    · exact h
    · next id _ =>
      change (calls.change id _).call? n = none
      rw [calls.call?_change id (Call.id_settle _), h, Option.map_none, ite_self]
  · exact h

private theorem kept_collect (id : Nat) (calls : Calls ω) :
    ((collect id).state calls).made = calls.made ∧
      ((collect id).state calls).replyPrevails = calls.replyPrevails := by
  unfold collect
  rw [Act.state_get_bind]
  cases calls.ready? id with
  | none => exact ⟨rfl, rfl⟩
  | some ready => exact ⟨rfl, rfl⟩

private theorem replyPrevails_step (calls : Calls ω) (e : Event ω) :
    (calls.step e).replyPrevails = calls.replyPrevails := by
  cases e with
  | wrote id outcome =>
    cases outcome with
    | error cause => rfl
    | ok done => rfl
  | replied message => exact (kept_receive message calls).2
  | woken id => exact (kept_collect id calls).2
  | _ => rfl

end Steps

section Gone

variable {past : List (Event ω)} {calls : Calls ω} {e : Event ω}
  {fates : List (Nat × Except Failure Json)}

/-- The frame of a call could not be written. -/
def Unwritten (past : List (Event ω)) (id : Nat) (cause : Failure) : Prop :=
  .wrote id (.error cause) ∈ past

/-- How a call has ended. -/
inductive Ends (replyPrevails : Bool) (past : List (Event ω)) (id : Nat)
    (r : Except Failure Json) : Prop where
  /-- Its frame could not be written, and it has ended with that failure. -/
  | unwritten (cause : Failure) (hu : Unwritten past id cause) (hr : r = .error cause)
  /-- Its frame could not be written in time, and it has failed at the bridge. -/
  | stalled (hs : .stalled id ∈ past) (hr : FailedAtBridge r)
  /-- Its frame was written, and it got its turn when it was settled. -/
  | settled (hu : ∀ cause, ¬Unwritten past id cause) (hs : .stalled id ∉ past)
    (hw : .woken id ∈ since id past) (hr : Settled replyPrevails id (lifetime id past) r)

/-- The calls that have ended are what the events have made of them. -/
structure Recalls (past : List (Event ω)) (calls : Calls ω)
    (fates : List (Nat × Except Failure Json)) : Prop where
  gone : ∀ n r, (n, r) ∈ fates → 1 ≤ n ∧ n ≤ calls.made ∧ calls.call? n = none
  once : (fates.map Prod.fst).Nodup
  unwritten : ∀ n cause, Unwritten past n cause → (n, .error cause) ∈ fates
  stalled : ∀ n, .stalled n ∈ past → ∃ r, FailedAtBridge r ∧ (n, r) ∈ fates
  ends : ∀ n r, (n, r) ∈ fates → Ends calls.replyPrevails past n r

/-- Whether the frame of a call fails in an event. -/
def Event.fails (id : Nat) : Event ω → Bool
  | wrote n (.error _) => n == id
  | stalled n => n == id
  | _ => false

/-- A call that has ended stays so in an event that leaves out the failure of its frame. -/
theorem Ends.concat {replyPrevails : Bool} {id : Nat} {r : Except Failure Json}
    (h : Ends replyPrevails past id r) (hn : id ≤ past.countP Event.makes)
    (he : e.fails id = false) : Ends replyPrevails (past ++ [e]) id r := by
  cases h with
  | unwritten cause hu hr => exact .unwritten cause (List.mem_append_left _ hu) hr
  | stalled hs hr => exact .stalled (List.mem_append_left _ hs) hr
  | settled hu hs hw hr =>
    refine .settled (fun cause hw => ?_) (fun hs' => ?_) ?_ ?_
    · rcases List.mem_append.mp hw with hw | hw
      · exact hu cause hw
      · rw [← List.mem_singleton.mp hw] at he
        simp [Event.fails] at he
    · rcases List.mem_append.mp hs' with hs' | hs'
      · exact hs hs'
      · rw [← List.mem_singleton.mp hs'] at he
        simp [Event.fails] at he
    · rw [since_concat_of_le hn]
      exact List.mem_append_left _ hw
    · rwa [lifetime_concat_of_woken hn hw]

private theorem Recalls.not_mem (h : Recalls past calls fates) {id : Nat} {call : Call ω}
    (hc : calls.call? id = some call) {r : Except Failure Json} : (id, r) ∉ fates :=
  fun hn => Option.some_ne_none call (hc.symm.trans (h.gone id r hn).2.2)

/-- A call that ends in an event was there before, and nothing that had ended ends again. -/
theorem Recalls.end (h : Recalls past calls fates) (ht : Tracks past calls) {id : Nat}
    {call : Call ω} (hc : calls.call? id = some call) {r : Except Failure Json}
    (hother : ∀ n, n ≠ id → e.fails n = false)
    (hw : ∀ n cause, e = .wrote n (.error cause) → r = .error cause)
    (hs : ∀ n, e = .stalled n → FailedAtBridge r)
    (hr : Ends calls.replyPrevails (past ++ [e]) id r) :
    Recalls (past ++ [e]) (calls.drop id) (fates ++ [(id, r)]) := by
  have hne (n : Nat) (s : Except Failure Json) (hn : (n, s) ∈ fates) : n ≠ id := by
    rintro rfl
    exact h.not_mem hc hn
  have hself (n : Nat) (hf : e.fails n) : n = id :=
    Decidable.byContradiction fun hn => by simp [hother n hn] at hf
  refine ⟨?_, ?_, ?_, ?_, ?_⟩
  · intro n s hn
    rw [call?_drop]
    rcases List.mem_append.mp hn with hn | hn
    · rw [if_neg (hne n s hn)]
      exact h.gone n s hn
    · cases List.mem_singleton.mp hn
      obtain ⟨h1, hle⟩ := ht.bound id call hc
      exact ⟨h1, hle, if_pos rfl⟩
  · rw [List.map_append, List.nodup_append]
    refine ⟨h.once, by simp, ?_⟩
    rintro n hn _ hm' rfl
    obtain ⟨⟨n', s⟩, hover, rfl⟩ := List.mem_map.mp hn
    exact hne n' s hover (List.mem_singleton.mp hm')
  · intro n cause hu
    rcases List.mem_append.mp hu with hu | hu
    · exact List.mem_append_left _ (h.unwritten n cause hu)
    · have he := (List.mem_singleton.mp hu).symm
      rw [hself n (by simp [he, Event.fails]), hw n cause he]
      exact List.mem_append_right _ (List.mem_singleton_self _)
  · intro n hn
    rcases List.mem_append.mp hn with hn | hn
    · obtain ⟨s, hs, hmem⟩ := h.stalled n hn
      exact ⟨s, hs, List.mem_append_left _ hmem⟩
    · have he := (List.mem_singleton.mp hn).symm
      rw [hself n (by simp [he, Event.fails])]
      exact ⟨r, hs n he, List.mem_append_right _ (List.mem_singleton_self _)⟩
  · intro n s hn
    rcases List.mem_append.mp hn with hn | hn
    · exact (h.ends n s hn).concat (ht.made ▸ (h.gone n s hn).2.1) (hother n (hne n s hn))
    · cases List.mem_singleton.mp hn
      exact hr

/-- An event in which no call ends leaves those that have ended as they are. -/
theorem Recalls.keep (h : Recalls past calls fates) (ht : Tracks past calls) {calls' : Calls ω}
    (hnone : calls.ended? e = none) (hfails : ∀ n, e.fails n = false)
    (hmade : calls.made ≤ calls'.made) (hp : calls'.replyPrevails = calls.replyPrevails)
    (hgone : ∀ n, n ≤ calls.made → calls.call? n = none → calls'.call? n = none) :
    Recalls (past ++ [e]) calls' (fates ++ (calls.ended? e).toList) := by
  rw [hnone, Option.toList_none, List.append_nil]
  refine ⟨?_, h.once, ?_, ?_, ?_⟩
  · intro n r hn
    obtain ⟨h1, hle, hg⟩ := h.gone n r hn
    exact ⟨h1, Nat.le_trans hle hmade, hgone n hle hg⟩
  · intro n cause hu
    rcases List.mem_append.mp hu with hu | hu
    · exact h.unwritten n cause hu
    · have := hfails n
      simp [← List.mem_singleton.mp hu, Event.fails] at this
  · intro n hs
    rcases List.mem_append.mp hs with hs | hs
    · exact h.stalled n hs
    · have := hfails n
      simp [← List.mem_singleton.mp hs, Event.fails] at this
  · intro n r hn
    rw [hp]
    exact (h.ends n r hn).concat (ht.made ▸ (h.gone n r hn).2.1) (hfails n)

/-- A settled call that gets its turn has ended. -/
private theorem Recalls.wake (h : Recalls past calls fates) (ht : Tracks past calls) {id : Nat}
    (hp : calls.possible (.woken id)) :
    Recalls (past ++ [.woken id]) (calls.step (.woken id))
      (fates ++ (calls.ended? (.woken id)).toList) := by
  obtain ⟨ready, hr⟩ := Option.isSome_iff_exists.mp hp
  obtain ⟨hc, hs⟩ := ht.ready hr
  obtain ⟨hstate, hvalue⟩ := collect_of_ready hr
  have hover : calls.ended? (.woken id) = some (id, ready.2) := by
    rw [ended?, hvalue]
    rfl
  have hle : id ≤ past.countP Event.makes := ht.made ▸ (ht.bound id ready.1 hc).2
  rw [Calls.step, hstate, hover]
  refine h.end ht hc (fun _ _ => rfl) (fun _ _ he => by cases he) (fun _ he => by cases he)
    (.settled (fun cause hu => ?_) (fun hs => ?_) ?_ ?_)
  · rcases List.mem_append.mp hu with hu | hu
    · exact h.not_mem hc (h.unwritten id cause hu)
    · cases List.mem_singleton.mp hu
  · rcases List.mem_append.mp hs with hs | hs
    · obtain ⟨r, -, hmem⟩ := h.stalled id hs
      exact h.not_mem hc hmem
    · cases List.mem_singleton.mp hs
  · rw [since_concat_of_le hle]
    exact List.mem_append_right _ (List.mem_singleton_self _)
  · rwa [lifetime_concat_woken hle (ht.asleep id ready.1 hc)]

/-- Every possible event adds the call that ends in it to those that have ended. -/
theorem Recalls.step (h : Recalls past calls fates) (ht : Tracks past calls)
    (hp : calls.possible e) :
    Recalls (past ++ [e]) (calls.step e) (fates ++ (calls.ended? e).toList) := by
  have hchange (id : Nat) (f : Call ω → Call ω) (hid : ∀ call, (f call).id = call.id) (n : Nat)
      (hn : calls.call? n = none) : (calls.change id f).call? n = none := by
    rw [calls.call?_change id hid, hn, Option.map_none, ite_self]
  have hlast : e ∈ past ++ [e] := List.mem_append_right _ (List.mem_singleton_self _)
  cases e with
  | made waiter method deadline =>
    refine h.keep ht rfl (fun _ => rfl) (Nat.le_succ _) rfl fun n hle hn => ?_
    rw [Calls.step, call?_make, hn, Option.none_or, if_neg (by omega)]
  | wrote id outcome =>
    cases outcome with
    | error cause =>
      obtain ⟨call, hc, _⟩ := exists_of_any hp
      refine h.end ht hc (fun n hn => by simpa [Event.fails] using hn.symm) (fun n c he => ?_)
        (fun _ he => by cases he) (.unwritten cause hlast rfl)
      cases he
      rfl
    | ok done =>
      exact h.keep ht rfl (fun _ => rfl) (Nat.le_refl _) rfl fun n _ =>
        hchange id Call.wrote (fun _ => rfl) n
  | stalled id =>
    obtain ⟨call, hc, _⟩ := exists_of_any hp
    have hended : calls.ended? (.stalled id) = some (id, .error call.timedOut) := by
      rw [ended?, hc]
      rfl
    rw [hended]
    exact h.end ht hc (fun n hn => by simpa [Event.fails] using hn.symm)
      (fun _ _ he => by cases he) (fun _ _ => ⟨_, rfl⟩) (.stalled hlast ⟨_, rfl⟩)
  | replied message =>
    obtain ⟨hmade, hprevails⟩ := kept_receive message calls
    exact h.keep ht rfl (fun _ => rfl) (Nat.le_of_eq hmade.symm) hprevails fun n _ hn =>
      call?_receive_of_none hn
  | expired id =>
    exact h.keep ht rfl (fun _ => rfl) (Nat.le_refl _) rfl fun n _ =>
      hchange id Call.expire (fun _ => rfl) n
  | closed =>
    refine h.keep ht rfl (fun _ => rfl) (Nat.le_refl _) rfl fun n _ hn => ?_
    rw [Calls.step, call?_close, hn, Option.map_none]
  | woken id => exact h.wake ht hp

end Gone

section Runs

variable {past events : List (Event ω)} {calls : Calls ω} {fates : List (Nat × Except Failure Json)}

/-- Possible events, one after the other, add the calls that end in them to those that have
ended. -/
theorem Recalls.run (h : Recalls past calls fates) (ht : Tracks past calls)
    (hf : calls.feasible events) :
    Recalls (past ++ events) (calls.run events) (fates ++ calls.ended events) := by
  induction events generalizing past calls fates with
  | nil => rwa [List.append_nil, ended, List.append_nil]
  | cons e rest ih =>
    obtain ⟨hp, hrest⟩ := Bool.and_eq_true_iff.mp hf
    rw [List.append_cons, ended, ← List.append_assoc]
    exact ih (h.step ht hp) (ht.step hp) hrest

/-- Before anything happened no call has ended. -/
theorem Recalls.nil (replyPrevails : Bool) : Recalls [] (fresh replyPrevails : Calls ω) [] where
  gone _ _ h := by cases h
  once := List.nodup_nil
  unwritten _ _ h := by cases h
  stalled _ h := by cases h
  ends _ _ h := by cases h

private theorem replyPrevails_run (calls : Calls ω) (events : List (Event ω)) :
    (calls.run events).replyPrevails = calls.replyPrevails := by
  induction events generalizing calls with
  | nil => rfl
  | cons e rest ih => exact (ih (calls.step e)).trans (replyPrevails_step calls e)

private theorem issued_eq (calls : Calls ω) (events : List (Event ω)) :
    calls.issued events = List.range' (calls.made + 1) (events.countP Event.makes) := by
  induction events generalizing calls with
  | nil => rfl
  | cons e rest ih =>
    cases e with
    | made waiter method deadline =>
      rw [List.countP_cons_of_pos rfl, List.range'_succ]
      exact congrArg _ (ih _)
    | wrote id outcome =>
      cases outcome with
      | error cause => exact ih _
      | ok done => exact ih _
    | stalled id => exact ih _
    | replied message =>
      rw [← (kept_receive message calls).1]
      exact ih _
    | expired id => exact ih _
    | closed => exact ih _
    | woken id =>
      rw [← (kept_collect id calls).1]
      exact ih _

end Runs

/-- Ids are never given out again. A call ends at most once. A failure of its frame ends it for
certain: with that failure, or, if the frame takes too long to be written, with a failure of the
bridge. Any other call that ends has got its turn, and ends as what happened since it was made has
settled it: with the result of the first reply that bears its id, if the reply comes before the end
of the messages, says that all went well and prevails over the end of its time, and otherwise with a
failure of the bridge. No reply is awaited for a call that has ended. -/
theorem ended_of_feasible (replyPrevails : Bool) (events : List (Event ω))
    (hf : (fresh replyPrevails : Calls ω).feasible events) :
    ((fresh replyPrevails : Calls ω).issued events).Nodup ∧
      (((fresh replyPrevails : Calls ω).ended events).map Prod.fst).Nodup ∧
      (∀ id cause, Unwritten events id cause →
        (id, .error cause) ∈ (fresh replyPrevails : Calls ω).ended events) ∧
      (∀ id, .stalled id ∈ events →
        ∃ r, FailedAtBridge r ∧ (id, r) ∈ (fresh replyPrevails : Calls ω).ended events) ∧
      ∀ id r, (id, r) ∈ (fresh replyPrevails : Calls ω).ended events →
        id ∈ (fresh replyPrevails : Calls ω).issued events ∧ Ends replyPrevails events id r ∧
          id ∉ ((fresh replyPrevails : Calls ω).run events).awaited := by
  have ht := (Tracks.nil replyPrevails).run hf
  have hr := (Recalls.nil replyPrevails).run (Tracks.nil replyPrevails) hf
  simp only [List.nil_append] at ht hr
  refine ⟨?_, hr.once, hr.unwritten, hr.stalled, fun id r hid => ?_⟩
  · rw [issued_eq]
    exact List.nodup_range'
  obtain ⟨h1, hle, hgone⟩ := hr.gone id r hid
  have hends := hr.ends id r hid
  rw [replyPrevails_run] at hends
  refine ⟨?_, hends, fun ha => ?_⟩
  · rw [issued_eq, ← ht.made, List.mem_range'_1]
    exact ⟨h1, by omega⟩
  · have := ht.live id ha
    rw [hgone] at this
    cases this

/-- Five calls. The reply to the second comes while its frame is being written, and comes again
later beside one whose id is a text; the time of the first runs out; the third is not sent, and the
sending of the fourth takes too long; the messages end before the fifth has its reply. -/
def fiveCalls : List (Event Unit) := [
  .made () "tabs.get" (some 10),
  .made () "showMessage" none,
  .replied [("id", .int 2), ("ok", .bool true), ("result", .text "clicked")],
  .wrote 1 (.ok ()),
  .wrote 2 (.ok ()),
  .woken 2,
  .replied [("id", .int 2), ("ok", .bool false)],
  .replied [("id", .text "1"), ("ok", .bool true), ("result", .null)],
  .expired 1,
  .woken 1,
  .made () "allowURL" (some 20),
  .wrote 3 (.error .port),
  .made () "cookies.getAll" (some 30),
  .stalled 4,
  .made () "tabs.reload" (some 40),
  .wrote 5 (.ok ()),
  .closed,
  .woken 5]

/-- Five calls end, each in its own way. -/
theorem ended_of_feasible_fiveCalls :
    (fresh true : Calls Unit).feasible fiveCalls ∧
      (fresh true : Calls Unit).issued fiveCalls = [1, 2, 3, 4, 5] ∧
      (fresh true : Calls Unit).ended fiveCalls = [
        (2, .ok (.text "clicked")),
        (1, .error (.bridge "tabs.get timed out")),
        (3, .error .port),
        (4, .error (.bridge "cookies.getAll timed out")),
        (5, .error (.bridge "native messaging stream closed"))] ∧
      Ends true fiveCalls 2 (.ok (.text "clicked")) ∧
        2 ∉ ((fresh true : Calls Unit).run fiveCalls).awaited := by
  have hf : (fresh true : Calls Unit).feasible fiveCalls := by decide +kernel
  have hended : (fresh true : Calls Unit).ended fiveCalls = [
      (2, .ok (.text "clicked")),
      (1, .error (.bridge "tabs.get timed out")),
      (3, .error .port),
      (4, .error (.bridge "cookies.getAll timed out")),
      (5, .error (.bridge "native messaging stream closed"))] := by rfl
  obtain ⟨_, _, _, _, hends⟩ := ended_of_feasible true fiveCalls hf
  have h2 := hends 2 (.ok (.text "clicked")) (by rw [hended]; exact List.mem_cons_self)
  exact ⟨hf, rfl, hended, h2.2.1, h2.2.2⟩

/-- A call whose frame takes too long to be written. -/
def slowFrame : List (Event Unit) := [.made () "tabs.get" (some 10), .stalled 1]

/-- A call that has its reply and no time left when it gets its turn: the reply came first, or
last. -/
def closeFinish (replyFirst : Bool) : List (Event Unit) :=
  let reply := .replied [("id", .int 1), ("ok", .bool true), ("result", .text "there")]
  [.made () "tabs.get" (some 10), .wrote 1 (.ok ())] ++
    (if replyFirst then [reply, .expired 1] else [.expired 1, reply]) ++ [.woken 1]

/-- A call whose reply bears a truth value in place of an id. -/
def truthfulReply : List (Event Unit) := [
  .made () "tabs.get" (some 10),
  .wrote 1 (.ok ()),
  .replied [("id", .bool true), ("ok", .bool true), ("result", .text "there")],
  .woken 1]

/-- A call whose frame takes too long to be written does not end with that failure. A call whose
reply comes before its time is up fails if replies do not prevail, and one whose reply comes
afterwards has its result if they do. A reply that bears a truth value is one to the first call. -/
theorem ended_otherwise :
    (fresh true : Calls Unit).feasible slowFrame ∧
      (fresh true : Calls Unit).ended slowFrame = [(1, .error (.bridge "tabs.get timed out"))] ∧
      (fresh false : Calls Unit).feasible (closeFinish true) ∧
      (fresh false : Calls Unit).ended (closeFinish true) =
        [(1, .error (.bridge "tabs.get timed out"))] ∧
      (fresh true : Calls Unit).feasible (closeFinish false) ∧
      (fresh true : Calls Unit).ended (closeFinish false) = [(1, .ok (.text "there"))] ∧
      (fresh true : Calls Unit).feasible truthfulReply ∧
      (fresh true : Calls Unit).ended truthfulReply = [(1, .ok (.text "there"))] := by
  refine ⟨?_, rfl, ?_, rfl, ?_, rfl, ?_, rfl⟩
  all_goals decide +kernel

end Calls

end BreakageAdvisor
