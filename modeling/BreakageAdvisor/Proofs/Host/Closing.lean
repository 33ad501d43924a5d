import BreakageAdvisor.Proofs.Bridge.Late
import BreakageAdvisor.Proofs.Host.Calls

/-!
# Hosts that have served

When the messages end, a host fails the calls that are pending and serves no more. Its tasks go on,
and their calls are then what events other than messages make of them. That leaves no call waiting
exactly if no call is made any more.
-/

namespace BreakageAdvisor

namespace Host

/-- Possible events have made of the calls of a host what they are, and events that are no messages
since the end of the messages, once the host has served. -/
structure Accounted (replyPrevails : Bool) (host : Host) : Prop where
  correlated : host.Correlated replyPrevails
  sinceEnd : host.served.isSome →
    ∃ atEnd : Calls Task, atEnd.Reached replyPrevails ∧ host.CallsAre (Calls.SinceEnd atEnd)

variable {replyPrevails : Bool}

/-- What keeps whether the host has served, and makes of the calls what events that are no messages
make of them. -/
private theorem accounted_of_stable {α : Type} {act : Act Host α} (hk : Act.Keeps standing act)
    (hc : ∀ {P : Calls Task → Prop}, Calls.Lasting P → Act.Stable (CallsAre P) act) :
    Act.Stable (Accounted replyPrevails) act := by
  intro host h
  have hserved : (act.state host).served = host.served := congrArg Prod.fst (hk host)
  refine ⟨hc (Calls.lasting_reached _) host h.correlated, fun hs => ?_⟩
  rw [hserved] at hs
  obtain ⟨atEnd, hr, hsince⟩ := h.sinceEnd hs
  exact ⟨atEnd, hr, hc (Calls.lasting_sinceEnd hr) host hsince⟩

private theorem invariant_accounted : Invariant (Accounted replyPrevails) where
  take message host hs h := by
    have hserved : ((take message).state host).served = none :=
      (congrArg Prod.fst (keeps_take message host)).trans hs
    refine ⟨correlated_take message host h.correlated, fun hs' => ?_⟩
    rw [hserved] at hs'
    cases hs'
  finish result host h := by
    have hlasting := Calls.lasting_sinceEnd h.correlated
    exact ⟨correlated_finish result host h.correlated, fun _ =>
      ⟨host.table, h.correlated, callsAre_finish hlasting result (.close host.table)⟩⟩
  handle event := accounted_of_stable (keeps_run (keeps_handler event)) fun hP => callsAre_run hP _
  advance milliseconds :=
    accounted_of_stable (keeps_advance milliseconds) fun hP => callsAre_advance hP milliseconds

end Host

namespace Serving

variable {serving : Serving} {turns : List Turn} {replyPrevails : Bool}

/-- Whatever the turns, once a host has served, events that are no messages have made of its calls
what they are, from an end of the messages on. -/
private theorem exists_end_of_served (h : serving.desk.host.table = .fresh replyPrevails)
    (hs : serving.served = none)
    (hended : ((run turns).state serving).served.isSome) :
    ∃ (atEnd : Calls Task) (after : List (Calls.Event Task)), atEnd.Reached replyPrevails ∧
      atEnd.close.feasible after ∧ (∀ e ∈ after, e.isInbound = false) ∧
      atEnd.close.run after = ((run turns).state serving).desk.host.table := by
  have hstart : serving.desk.host.Accounted replyPrevails := by
    refine ⟨?_, fun hs' => ?_⟩
    · rw [Host.Correlated, Host.CallsAre, h]
      exact .nil replyPrevails
    · rw [← served, hs] at hs'
      cases hs'
  have hafter := stable_run Host.invariant_accounted turns serving hstart
  obtain ⟨atEnd, hr, after, hf, hq, htable⟩ := hafter.sinceEnd hended
  exact ⟨atEnd, after, hr, hf, hq, htable⟩

/-- Once a host has served, every call that it had made before is settled, and it awaits replies to
the calls that it has made since. -/
theorem awaited_of_served (h : serving.desk.host.table = .fresh replyPrevails)
    (hs : serving.served = none) (hended : ((run turns).state serving).served.isSome) :
    let table := ((run turns).state serving).desk.host.table
    ∃ before, (∀ n, n ∈ table.awaited ↔ before < n ∧ (table.call? n).isSome) ∧
      ∀ n call, table.call? n = some call → n ≤ before → call.result.isSome := by
  obtain ⟨atEnd, after, hr, hf, hq, htable⟩ := exists_end_of_served h hs hended
  have hlate := hr.late hf hq
  rw [htable] at hlate
  exact ⟨atEnd.made, hlate.awaited, fun n call hc => (hlate.standing n call hc).settled⟩

end Serving

namespace Calls

variable {ω : Type}

section Released

variable {calls atEnd : Calls ω} {events after : List (Event ω)} {n : Nat}
  {r : Except Failure Json} {replyPrevails : Bool}

private theorem exists_of_mem_ended (h : (n, r) ∈ calls.ended events) :
    ∃ before e later, events = before ++ e :: later ∧
      (calls.run before).ended? e = some (n, r) := by
  induction events generalizing calls with
  | nil => cases h
  | cons e rest ih =>
    rcases List.mem_append.mp h with h | h
    · exact ⟨[], e, rest, rfl, Option.mem_toList.mp h⟩
    · obtain ⟨before, e', later, rfl, he⟩ := ih h
      exact ⟨e :: before, e', later, rfl, he⟩

private theorem mem_ended_of_unwritten {cause : Failure} (h : Unwritten events n cause) :
    (n, .error cause) ∈ calls.ended events := by
  induction events generalizing calls with
  | nil => cases h
  | cons e rest ih =>
    rcases List.mem_cons.mp h with rfl | h
    · exact List.mem_append_left _ (List.mem_singleton_self _)
    · exact List.mem_append_right _ (ih h)

/-- What is to be expected of the end of the messages, where the calls were as given: from then on
no call waits for a reply, and the calls that were pending and those that are made later end with a
failure of the bridge, if they end. -/
structure Released (atEnd : Calls ω) (after : List (Event ω)) : Prop where
  idle : ∀ later, later <+: after → Idle (atEnd.close.run later)
  failed : ∀ n r, (n, r) ∈ atEnd.close.ended after → n ∈ atEnd.awaited ∨ atEnd.made < n →
    FailedAtBridge r

private theorem not_idle_of_makes {e : Event ω} (hm : e.makes) : ¬ Idle (calls.step e) := by
  cases e with
  | made waiter method deadline =>
    rintro ⟨ha, -⟩
    exact List.append_ne_nil_of_right_ne_nil _ (List.cons_ne_nil _ _) ha
  | _ => cases hm

/-- The end of the messages has the effect that is to be expected exactly if no call is made
afterwards, and no frame of a pending call fails otherwise than at the bridge. -/
private theorem released_iff (h : Reached replyPrevails atEnd) (hf : atEnd.close.feasible after)
    (hq : ∀ e ∈ after, e.isInbound = false) :
    Released atEnd after ↔ (∀ e ∈ after, e.makes = false) ∧
      ∀ n ∈ atEnd.awaited, ∀ cause, Unwritten after n cause → FailedAtBridge (.error cause) := by
  constructor
  · intro hr
    refine ⟨fun e he => Bool.eq_false_iff.mpr fun hm => ?_, fun n hn cause hu => ?_⟩
    · obtain ⟨before, later, rfl⟩ := List.append_of_mem he
      have hidle := hr.idle (before ++ [e]) ⟨later, by simp⟩
      rw [run, List.foldl_concat] at hidle
      exact not_idle_of_makes hm hidle
    · exact hr.failed n _ (mem_ended_of_unwritten hu) (.inl hn)
  · rintro ⟨hm, hu⟩
    refine ⟨fun later hl => ?_, fun n r hn hpending => ?_⟩
    · obtain ⟨rest, rfl⟩ := hl
      rw [feasible_append, Bool.and_eq_true] at hf
      exact h.idle hf.1 (List.forall_mem_append.mp hq).1 (List.forall_mem_append.mp hm).1
    · obtain ⟨before, e, later, rfl, he⟩ := exists_of_mem_ended hn
      rw [feasible_append, Bool.and_eq_true, feasible, Bool.and_eq_true] at hf
      obtain ⟨hbefore, hp, -⟩ := hf
      have hlate := h.late hbefore (List.forall_mem_append.mp hq).1
      rcases hlate.result_of_ended? hp hpending he with ⟨cause, rfl, rfl⟩ | hr
      · -- Since no call was made later, the one whose frame failed was pending at the end.
        obtain ⟨call, hc, -⟩ := exists_of_any hp
        have hle := h.le_made hbefore (List.forall_mem_append.mp hm).1 hc
        have hn := hpending.resolve_right (by omega)
        exact hu n hn cause (List.mem_append_right _ List.mem_cons_self)
      · exact hr

private theorem Standing.isSettled_iff {call : Call ω} (h : Standing atEnd after n call)
    (hn : atEnd.made < n) : call.isSettled ↔ .expired n ∈ after := by
  obtain ⟨hr, hx, -⟩ := h.timed hn
  simp [Call.isSettled, hr, hx]

private theorem Standing.endless {call : Call ω} (h : Standing atEnd after n call)
    (hn : atEnd.made < n)
    (hw : call.written) (hd : call.deadline = none) : Endless call :=
  ⟨hw, (h.timed hn).2.2 hd, (h.timed hn).1⟩

end Released

/-- The end of the messages leaves no call waiting exactly if no call is made afterwards, and the
calls that were pending then fail at the bridge exactly if their frames do not fail otherwise.
Replies are awaited for exactly the calls that are made afterwards, until these end. They are
settled by the end of their time only, and a call without one stays as it is for ever, once its
frame was written. -/
theorem closing_releases_iff (replyPrevails : Bool) (atEnd : Calls ω) (after : List (Event ω))
    (h : Reached replyPrevails atEnd) (hf : atEnd.close.feasible after)
    (hq : ∀ e ∈ after, e.isInbound = false) :
    (Released atEnd after ↔ (∀ e ∈ after, e.makes = false) ∧
        ∀ n ∈ atEnd.awaited, ∀ cause, Unwritten after n cause → FailedAtBridge (.error cause)) ∧
      (∀ n, n ∈ (atEnd.close.run after).awaited ↔
        atEnd.made < n ∧ ((atEnd.close.run after).call? n).isSome) ∧
      ∀ n call, (atEnd.close.run after).call? n = some call →
        (n ≤ atEnd.made → call.result.isSome) ∧
          (atEnd.made < n →
            (call.isSettled ↔ .expired n ∈ after) ∧
              (call.written → call.deadline = none →
                ∀ more, (atEnd.close.run after).feasible more →
                  (∀ e ∈ more, e.isInbound = false) →
                    ((atEnd.close.run after).run more).call? n = some call)) := by
  have hlate := h.late hf hq
  refine ⟨released_iff h hf hq, hlate.awaited, fun n call hc => ?_⟩
  have hstanding := hlate.standing n call hc
  refine ⟨hstanding.settled, fun hn => ⟨hstanding.isSettled_iff hn, fun hw hd more hf' hq' => ?_⟩⟩
  exact (hstanding.endless hn hw hd).run hc hf' hq'

/-- A lookup of cookies is pending. -/
def pendingLookup : Calls Unit :=
  (fresh true : Calls Unit).run [.made () "cookies.getAll" (some 10000), .wrote 1 (.ok ())]

/-- The task whose lookup has failed shows a notification. -/
def noticeAfterwards : List (Event Unit) :=
  [.woken 1, .made () "showMessage" none, .wrote 2 (.ok ())]

/-- A notification that is shown after the end of the messages waits for ever. -/
theorem closing_releases_iff_notice :
    Reached true pendingLookup ∧ pendingLookup.close.feasible noticeAfterwards ∧
      (∀ e ∈ noticeAfterwards, e.isInbound = false) ∧
      ¬ Released pendingLookup noticeAfterwards ∧
      ∀ more, (pendingLookup.close.run noticeAfterwards).feasible more →
        (∀ e ∈ more, e.isInbound = false) →
          ((pendingLookup.close.run noticeAfterwards).run more).call? 2 =
            some { id := 2, waiter := (), method := "showMessage", deadline := none
                   written := true } := by
  have h : Reached true pendingLookup := ⟨_, by decide +kernel, rfl⟩
  have hf : pendingLookup.close.feasible noticeAfterwards := by decide +kernel
  have hq : ∀ e ∈ noticeAfterwards, e.isInbound = false := by
    simp [noticeAfterwards, Event.isInbound]
  obtain ⟨hiff, -, hcalls⟩ := closing_releases_iff true pendingLookup noticeAfterwards h hf hq
  refine ⟨h, hf, hq, fun hr => ?_, ?_⟩
  · have hm := (hiff.mp hr).1 (.made () "showMessage" none) (by simp [noticeAfterwards])
    cases hm
  · have hc : (pendingLookup.close.run noticeAfterwards).call? 2 =
        some { id := 2, waiter := (), method := "showMessage", deadline := none
               written := true } := by rfl
    have hlate : pendingLookup.made < 2 := by decide
    exact ((hcalls 2 _ hc).2 hlate).2 rfl rfl

end Calls

namespace Desk

/-- A host that tells of a site unless another site has set a cookie. -/
def cookieless : Desk where
  host.bundled := .both (.ok (.list [.object [("id", .text "r"), ("domains", .list [.text "a.com"]),
    ("message", .text "m"), ("condition", .object [("type", .text "not"),
      ("condition", .object [("type", .text "cookie"), ("domain", .text "c.com"),
        ("name", .text "n")])])]]))

/-- A visit of the site, and the end of the messages before the cookies are there. -/
def lastVisit : Act Desk Unit := do
  onHost Host.start
  let _ ← heed (some (.ok [("type", .text "hello"), ("featureActive", .bool true)]))
  beginAll
  let _ ← heed (some (.ok [("type", .text "tabUpdated"),
    ("tab", .object [("id", .int 1), ("url", .text "https://a.com/"), ("active", .bool true)]),
    ("changeInfo", .object [("url", .text "https://a.com/")])]))
  beginAll
  let _ ← heed none

/-- When the last visit is over the host has served, and waits for the answer to a notification. -/
theorem lastVisit_waits :
    (lastVisit.state cookieless).host.served = some (.ok ()) ∧
      (lastVisit.state cookieless).host.table.awaited = [2] ∧
      (lastVisit.state cookieless).host.table.live.map
        (fun call => (call.id, call.method, call.deadline, call.result.isSome)) =
          [(2, ("showMessage" : Text), none, false)] := by
  refine ⟨?_, ?_⟩
  · -- The last message that is taken is their end, whatever came before.
    simp only [lastVisit, Act.state_bind]
    refine served_heed ?_
    rfl
  · unfold lastVisit beginAll begin heed hear Host.start Host.run Host.take Host.settle Host.finish
      Host.wake Host.conclude
    iterate 6 rw [Host.proceed_eq_proceedWith]
    exact ⟨by decide +kernel, by decide +kernel⟩

end Desk

end BreakageAdvisor
