import BreakageAdvisor.Proofs.Handler.History

/-!
# Requests that are taken and put back

While a tab stays in the background, every activation takes what is deferred for it, and puts it
back when the tab was looked up. In between the handler has it.
-/

namespace BreakageAdvisor

namespace Handler

/-- The URLs that a handler has taken for a tab, if there are any. -/
def Progress.taken? (t : TabId) : Progress → Option (List Text)
  | lookingUp (.activation id _ urls) => if id == t && !urls.isEmpty then some urls else none
  | _ => none

private theorem taken?_of_ne {t : TabId} {p : Progress} (h : ∀ lookup, p ≠ .lookingUp lookup) :
    p.taken? t = none := by
  cases p with
  | ended => rfl
  | lookingUp lookup => exact absurd rfl (h lookup)
  | judging case purpose => rfl

/-- A tab is found in the background whenever it is looked up, and never in the place of another. -/
def Reply.KeepsBackground (t : TabId) : Reply → Prop
  | found answer => ∀ id,
      if id == t then ∃ tab, answer id = .ok tab ∧ tab.id == t ∧ tab.active = false
      else ∀ tab, answer id = .ok tab → ¬ tab.id == t
  | decided _ => True
  | abandoned => False

end Handler

open Handler

namespace Crew

/-- An event leaves a tab in the background, without a navigation, and breaks no handler off. -/
def Event.KeepsBackground (policy : TrackingPolicy) (t : TabId) : Event → Prop
  | began (.updated update) => update.tab.id == t → ¬ policy.isNavigation update
  | began _ => True
  | replied _ reply => reply.KeepsBackground t

/-- What handlers have taken for a tab and not put back, in the order in which they began. -/
def pieces (t : TabId) (c : Crew) : List (List Text) := c.members.filterMap (·.taken? t)

/-- The URL that is deferred in an event as a request of a tab in the background. -/
def queued? (t : TabId) (c : Crew) : Event → Option Text
  | .replied place (.found _) =>
    match c.members[place]? with
    | some (.lookingUp (.request event)) => if event.tab == t then some event.url else none
    | _ => none
  | _ => none

/-- The URLs deferred in events as requests of a tab in the background, in order. -/
def queued (policy : TrackingPolicy) (t : TabId) (c : Crew) : List Event → List Text
  | [] => []
  | e :: rest => (c.queued? t e).toList ++ (c.step policy e).queued policy t rest

/-- The URLs of a tab that are put back in an event. -/
def returned? (t : TabId) (c : Crew) : Event → Option (List Text)
  | .replied place (.found _) => c.members[place]?.bind (·.taken? t)
  | _ => none

/-- What the handlers have taken for a tab that began after the one that an event is about. -/
def laterPieces (t : TabId) (c : Crew) : Event → List (List Text)
  | .replied place _ => (c.members.drop (place + 1)).filterMap (·.taken? t)
  | _ => []

/-- What an event does to the requests of a tab in the background. -/
inductive Change (t : TabId) (c : Crew) (e : Event) (c' : Crew) : Prop where
  /-- Nothing changes. -/
  | same (hq : c.queued? t e = none) (hr : c.returned? t e = none)
      (hu : c'.deferred.urls t = c.deferred.urls t) (hp : c'.pieces t = c.pieces t)
  /-- A URL is deferred. -/
  | queued (url : Text) (hq : c.queued? t e = some url) (hr : c.returned? t e = none)
      (hu : c'.deferred.urls t = Deferred.addUrl (c.deferred.urls t) url)
      (hp : c'.pieces t = c.pieces t)
  /-- What is deferred is taken. -/
  | took (hq : c.queued? t e = none) (hr : c.returned? t e = none)
      (hu : c'.deferred.urls t = []) (hp : c'.pieces t = c.pieces t ++ [c.deferred.urls t])
  /-- What was taken is put back. -/
  | returned (before urls : _) (hq : c.queued? t e = none) (hr : c.returned? t e = some urls)
      (hu : c'.deferred.urls t = (c.deferred.urls t).foldl Deferred.addUrl urls)
      (hp : c.pieces t = before ++ urls :: c.laterPieces t e)
      (hp' : c'.pieces t = before ++ c.laterPieces t e)

section Steps

variable {policy : TrackingPolicy} {t : TabId} {c : Crew}

private theorem pieces_began (report : Report) :
    (c.step policy (.began report)).pieces t =
      c.pieces t ++ (((report.handle policy).value c.deferred).taken? t).toList := by
  rw [step_began, pieces, List.filterMap_append]
  rfl

private theorem pieces_eq {place : Nat} {p : Progress} (hp : c.members[place]? = some p)
    (reply : Reply) :
    c.pieces t = (c.members.take place).filterMap (·.taken? t) ++ (p.taken? t).toList ++
      c.laterPieces t (.replied place reply) := by
  obtain ⟨hl, hg⟩ := List.getElem?_eq_some_iff.mp hp
  have hs : c.members = c.members.take place ++ p :: c.members.drop (place + 1) := by
    rw [← hg, List.getElem_cons_drop, List.take_append_drop]
  have hf := congrArg (List.filterMap (·.taken? t)) hs
  rw [List.filterMap_append, List.filterMap_cons] at hf
  rw [pieces, hf, laterPieces]
  cases p.taken? t <;> simp

private theorem pieces_replied {place : Nat} {p : Progress} {reply : Reply}
    {act : Act Deferred Progress}
    (hp : c.members[place]? = some p) (ha : p.resume? reply = some act)
    (hv : ∀ lookup, act.value c.deferred ≠ .lookingUp lookup) :
    (c.step policy (.replied place reply)).pieces t =
      (c.members.take place).filterMap (·.taken? t) ++
        c.laterPieces t (.replied place reply) := by
  obtain ⟨hl, _⟩ := List.getElem?_eq_some_iff.mp hp
  rw [step_replied policy c hp ha, pieces, List.set_eq_take_append_cons_drop, if_pos hl,
    List.filterMap_append, List.filterMap_cons, taken?_of_ne hv]
  rfl

private theorem pieces_replied_of_none {place : Nat} {p : Progress} {reply : Reply}
    {act : Act Deferred Progress} (hp : c.members[place]? = some p)
    (ha : p.resume? reply = some act) (hv : ∀ lookup, act.value c.deferred ≠ .lookingUp lookup)
    (ht : p.taken? t = none) : (c.step policy (.replied place reply)).pieces t = c.pieces t := by
  rw [pieces_replied hp ha hv, pieces_eq hp reply, ht, Option.toList_none, List.append_nil]

private theorem change_updated {update : TabUpdate}
    (h : update.tab.id == t → ¬ policy.isNavigation update) :
    Change t c (.began (.updated update)) (c.step policy (.began (.updated update))) := by
  refine .same rfl rfl ?_ ?_
  · rw [step_began]
    simp only [Report.handle, state_tabUpdated]
    by_cases hn : policy.isNavigation update
    · have hne : ¬ update.tab.id == t := fun ht => h ht hn
      rw [if_pos hn]
      split
      · rw [Deferred.urls_dropTab, Deferred.urls_dropRequests, if_neg hne]
      · rw [Deferred.urls_addTab, Deferred.urls_dropRequests, if_neg hne]
    · rw [if_neg hn]
  · rw [pieces_began, taken?_of_ne, Option.toList_none, List.append_nil]
    intro lookup
    simp only [Report.handle, value_tabUpdated]
    split <;> exact Progress.noConfusion

private theorem change_requested (event : RequestEvent) :
    Change t c (.began (.requested event)) (c.step policy (.began (.requested event))) := by
  refine .same rfl rfl ?_ ?_
  · rw [step_began]
    simp only [Report.handle, state_requested]
  · have hnone : (((Report.requested event).handle policy).value c.deferred).taken? t = none := by
      simp only [Report.handle, value_requested]
      split <;> rfl
    rw [pieces_began, hnone, Option.toList_none, List.append_nil]

private theorem change_activated (id : TabId) :
    Change t c (.began (.activated id)) (c.step policy (.began (.activated id))) := by
  have hu : (c.step policy (.began (.activated id))).deferred.urls t =
      if id == t then [] else c.deferred.urls t := by
    rw [step_began]
    simp only [Report.handle, state_activated, Deferred.urls_dropTab, Deferred.urls_dropRequests]
  have hp : (c.step policy (.began (.activated id))).pieces t = _ := pieces_began (.activated id)
  simp only [Report.handle, value_activated] at hp
  by_cases ht : id == t
  · rw [if_pos ht] at hu
    rw [c.deferred.urls_congr ht] at hp
    by_cases he : (c.deferred.urls t).isEmpty
    · -- Nothing was deferred, so nothing is taken.
      refine .same rfl rfl ?_ ?_
      · rw [hu, List.isEmpty_iff.mp he]
      · rw [hp]
        cases c.deferred.hasTab id <;> simp [he, Progress.taken?]
    · refine .took rfl rfl hu ?_
      rw [hp]
      cases c.deferred.hasTab id <;> simp [he, ht, Progress.taken?]
  · rw [if_neg ht] at hu
    refine .same rfl rfl hu ?_
    rw [hp]
    split
    · exact List.append_nil _
    · simp [ht, Progress.taken?]

private theorem change_found_request {place : Nat} {event : RequestEvent}
    {answer : TabId → Except Failure Tab}
    (hp : c.members[place]? = some (.lookingUp (.request event)))
    (ha : (Reply.found answer).KeepsBackground t) :
    Change t c (.replied place (.found answer))
      (c.step policy (.replied place (.found answer))) := by
  have hr : (Progress.lookingUp (.request event)).resume? (.found answer) =
      some (lookedUp (.request event) (answer event.tab)) := rfl
  have hs := congrArg (·.deferred.urls t) (step_replied policy c hp hr)
  have hpieces : (c.step policy (.replied place (.found answer))).pieces t = c.pieces t :=
    pieces_replied_of_none hp hr (fun lookup => Advisor.lookedUp_ne_lookingUp _ lookup _ _) rfl
  have hreturned : c.returned? t (.replied place (.found answer)) = none := by
    simp only [returned?, hp, Option.bind_some, Progress.taken?]
  have hqueued : c.queued? t (.replied place (.found answer)) =
      if event.tab == t then some event.url else none := by
    simp only [queued?, hp]
  have hanswer := ha event.tab
  dsimp only at hs
  by_cases ht : event.tab == t
  · rw [if_pos ht] at hanswer hqueued
    obtain ⟨tab, hok, hid, hactive⟩ := hanswer
    rw [hok, state_lookedUp_request, hactive, if_neg Bool.false_ne_true, Deferred.urls_addRequest,
      if_pos hid] at hs
    exact .queued event.url hqueued hreturned hs hpieces
  · rw [if_neg ht] at hanswer hqueued
    refine .same hqueued hreturned ?_ hpieces
    rw [hs]
    cases hok : answer event.tab with
    | error cause => rw [state_lookedUp_error]
    | ok tab =>
      rw [state_lookedUp_request]
      split
      · rfl
      · rw [Deferred.urls_addRequest, if_neg (hanswer tab hok)]

private theorem change_found_activation {place : Nat} {id : TabId} {navigated : Bool}
    {urls : List Text}
    {answer : TabId → Except Failure Tab}
    (hp : c.members[place]? = some (.lookingUp (.activation id navigated urls)))
    (ha : (Reply.found answer).KeepsBackground t) :
    Change t c (.replied place (.found answer))
      (c.step policy (.replied place (.found answer))) := by
  have hr : (Progress.lookingUp (.activation id navigated urls)).resume? (.found answer) =
      some (lookedUp (.activation id navigated urls) (answer id)) := rfl
  have hv (lookup : Lookup) := Advisor.lookedUp_ne_lookingUp (.activation id navigated urls) lookup
    (answer id) c.deferred
  have hs := congrArg (·.deferred.urls t) (step_replied policy c hp hr)
  dsimp only at hs
  have hreturned : c.returned? t (.replied place (.found answer)) =
      if id == t && !urls.isEmpty then some urls else none := by
    simp only [returned?, hp, Option.bind_some, Progress.taken?]
  have hqueued : c.queued? t (.replied place (.found answer)) = none := by
    simp only [queued?, hp]
  by_cases ht : id == t && !urls.isEmpty
  · rw [if_pos ht] at hreturned
    have hid : id == t := (Bool.and_eq_true_iff.mp ht).1
    have hanswer := ha id
    rw [if_pos hid] at hanswer
    obtain ⟨tab, hok, _, hactive⟩ := hanswer
    have htaken : (Progress.lookingUp (.activation id navigated urls)).taken? t = some urls :=
      if_pos ht
    refine .returned _ urls hqueued hreturned ?_ ?_ (pieces_replied hp hr hv)
    · rw [hs, hok, state_lookedUp_activation, hactive, if_neg Bool.false_ne_true,
        Deferred.urls_putBack, if_pos ht]
    · rw [pieces_eq hp (.found answer), htaken, Option.toList_some, List.append_assoc,
        List.singleton_append]
  · have htaken : (Progress.lookingUp (.activation id navigated urls)).taken? t = none :=
      if_neg ht
    rw [if_neg ht] at hreturned
    refine .same hqueued hreturned ?_ (pieces_replied_of_none hp hr hv htaken)
    rw [hs]
    cases answer id with
    | error cause => rw [state_lookedUp_error]
    | ok tab =>
      rw [state_lookedUp_activation]
      split
      · rfl
      · rw [Deferred.urls_putBack, if_neg ht]

/-- Every event that leaves a tab in the background is one of the changes of its requests. -/
theorem change_step {e : Event} (he : e.KeepsBackground policy t) :
    Change t c e (c.step policy e) := by
  cases e with
  | began report =>
    cases report with
    | updated update => exact change_updated he
    | requested event => exact change_requested event
    | activated id => exact change_activated id
  | replied place reply =>
    have hstays (h : c.act? policy (.replied place reply) = none)
        (hq : c.queued? t (.replied place reply) = none)
        (hr : c.returned? t (.replied place reply) = none) :
        Change t c (.replied place reply) (c.step policy (.replied place reply)) := by
      have hs : c.step policy (.replied place reply) = c := by rw [step, h]
      exact .same hq hr (by rw [hs]) (by rw [hs])
    cases hp : c.members[place]? with
    | none =>
      apply hstays
      · simp only [act?, hp, Option.bind_none]
      · cases reply <;> simp only [queued?, hp]
      · cases reply <;> simp only [returned?, hp, Option.bind_none]
    | some p =>
      cases reply with
      | found answer =>
        cases p with
        | lookingUp lookup =>
          cases lookup with
          | request event => exact change_found_request hp he
          | activation id navigated urls => exact change_found_activation hp he
        | ended =>
          apply hstays
          · simp only [act?, hp, Option.bind_some, Progress.resume?]
          · simp only [queued?, hp]
          · simp only [returned?, hp, Option.bind_some, Progress.taken?]
        | judging case purpose =>
          apply hstays
          · simp only [act?, hp, Option.bind_some, Progress.resume?]
          · simp only [queued?, hp]
          · simp only [returned?, hp, Option.bind_some, Progress.taken?]
      | decided verdict =>
        cases p with
        | judging case purpose =>
          have hr : (Progress.judging case purpose).resume? (.decided verdict) =
              some (judged purpose verdict) := rfl
          refine .same rfl rfl ?_ (pieces_replied_of_none hp hr
            (fun lookup => Advisor.judged_ne_lookingUp _ _ lookup _) rfl)
          rw [step_replied policy c hp hr]
          simp only [state_judged]
        | ended =>
          exact hstays (by simp only [act?, hp, Option.bind_some, Progress.resume?]) rfl rfl
        | lookingUp lookup =>
          exact hstays (by simp only [act?, hp, Option.bind_some, Progress.resume?]) rfl rfl
      | abandoned => exact absurd he id

end Steps

end Crew

end BreakageAdvisor
