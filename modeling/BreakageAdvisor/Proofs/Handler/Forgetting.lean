import BreakageAdvisor.Proofs.Handler.Crew

/-!
# Forgotten requests

A navigation of a tab forgets the requests that are deferred for it. It cannot reach those that a
handler has taken and carries while it waits: such a request is handed over for judgement later, or
deferred again. A request that no handler carries stays forgotten until it is issued again.
-/

namespace BreakageAdvisor

namespace Handler

/-- A case is the request of a URL by a tab. -/
def Case.IsRequest (tab : TabId) (url : Text) (case : Case) : Prop :=
  case.trigger = .request ∧ case.tab.id == tab ∧ case.url = url

/-- A handler carries a URL that it may hand over or defer as a request of a tab. What it looks up
counts if it looks up one of some tabs. -/
def Progress.Carries (tabs : TabId → Prop) (tab : TabId) (url : Text) : Progress → Prop
  | lookingUp (.request event) => tabs event.tab ∧ event.url = url
  | lookingUp (.activation id _ taken) => tabs id ∧ url ∈ taken
  | judging _ (.replay shown rest) => shown.id == tab ∧ url ∈ rest
  | _ => False

/-- A report is a request of a URL by one of some tabs. -/
def Report.Requests (tabs : TabId → Prop) (url : Text) : Report → Prop
  | requested event => tabs event.tab ∧ event.url = url
  | _ => False

/-- Tabs outside a set of tabs are never answered with tabs in it. -/
def Reply.Within (tabs : TabId → Prop) : Reply → Prop
  | found answer => ∀ id tab, answer id = .ok tab → tabs tab.id → tabs id
  | _ => True

/-- A URL is gone from a handler and the deferred activity, and is not handed over just now. -/
structure Gone (tabs : TabId → Prop) (tab : TabId) (url : Text) (p : Progress) (d : Deferred) :
    Prop where
  queues : ∀ t, tabs t → url ∉ d.urls t
  carries : ¬ p.Carries tabs tab url
  case : ∀ case, p.case? = some case → ¬ case.IsRequest tab url

section Steps

variable {tabs : TabId → Prop} {tab : TabId} {url : Text} {d : Deferred}

private theorem gone_ended (h : ∀ t, tabs t → url ∉ d.urls t) : Gone tabs tab url .ended d :=
  ⟨h, fun hc => hc, by simp [Progress.case?]⟩

private theorem gone_page (h : ∀ t, tabs t → url ∉ d.urls t) {page : Tab} {purpose : Purpose}
    (hc : ¬ (Progress.judging ⟨page, .tab, page.url⟩ purpose).Carries tabs tab url) :
    Gone tabs tab url (.judging ⟨page, .tab, page.url⟩ purpose) d := by
  refine ⟨h, hc, ?_⟩
  rintro case hcase ⟨ht, _⟩
  cases hcase
  cases ht

private theorem gone_replay (h : ∀ t, tabs t → url ∉ d.urls t) {shown : Tab} {rest : List Text}
    (hr : ¬ (shown.id == tab ∧ url ∈ rest)) : Gone tabs tab url (replay shown rest) d := by
  cases rest with
  | nil => exact gone_ended h
  | cons u rest =>
    refine ⟨h, fun hc => hr ⟨hc.1, List.mem_cons_of_mem u hc.2⟩, ?_⟩
    rintro case hcase ⟨_, ht, hu⟩
    cases hcase
    exact hr ⟨ht, hu ▸ List.mem_cons_self⟩

private theorem not_mem_urls_dropRequests (h : ∀ t, tabs t → url ∉ d.urls t) (u t : TabId)
    (ht : tabs t) :
    url ∉ (d.dropRequests u).urls t := by
  rw [Deferred.urls_dropRequests]
  split
  · exact List.not_mem_nil
  · exact h t ht

private theorem gone_handle (policy : TrackingPolicy) {report : Report}
    (h : ∀ t, tabs t → url ∉ d.urls t) (hr : ¬ report.Requests tabs url) :
    Gone tabs tab url ((report.handle policy).value d) ((report.handle policy).state d) := by
  cases report with
  | updated update =>
    have hs : ∀ t, tabs t → url ∉ ((tabUpdated policy update).state d).urls t := by
      intro t ht
      rw [state_tabUpdated]
      split
      · split
        · rw [Deferred.urls_dropTab]
          exact not_mem_urls_dropRequests h _ t ht
        · rw [Deferred.urls_addTab]
          exact not_mem_urls_dropRequests h _ t ht
      · exact h t ht
    simp only [Report.handle, value_tabUpdated]
    split
    · exact gone_page hs fun hc => hc
    · exact gone_ended hs
  | requested event =>
    simp only [Report.handle, value_requested, state_requested]
    split
    · exact ⟨h, hr, by simp [Progress.case?]⟩
    · exact gone_ended h
  | activated id =>
    -- What the handler takes was deferred for the tab, where the URL is not.
    have hs : ∀ t, tabs t → url ∉ ((activated id).state d).urls t := by
      intro t ht
      rw [state_activated, Deferred.urls_dropTab]
      exact not_mem_urls_dropRequests h _ t ht
    simp only [Report.handle, value_activated]
    split
    · exact gone_ended hs
    · exact ⟨hs, fun hc => h id hc.1 hc.2, by simp [Progress.case?]⟩

private theorem gone_lookedUp_request {event : RequestEvent} {found : Tab}
    (h : ∀ t, tabs t → url ∉ d.urls t) (htabs : ∀ t u, t == u → tabs u → tabs t)
    (htab : tabs tab) (hne : tabs found.id → event.url ≠ url) :
    Gone tabs tab url ((lookedUp (.request event) (.ok found)).value d)
      ((lookedUp (.request event) (.ok found)).state d) := by
  rw [value_lookedUp_request, state_lookedUp_request]
  by_cases hactive : found.active
  · rw [if_pos hactive, if_pos hactive]
    refine ⟨h, id, ?_⟩
    rintro case hcase ⟨_, ht, hu⟩
    cases hcase
    exact hne (htabs _ _ ht htab) hu
  · rw [if_neg hactive, if_neg hactive]
    apply gone_ended
    intro t ht
    rw [Deferred.urls_addRequest]
    split
    · next hft =>
      rw [Deferred.mem_addUrl]
      rintro (hm | hm)
      · exact h t ht hm
      · exact hne (htabs _ _ hft ht) hm.symm
    · exact h t ht

private theorem gone_lookedUp_activation {id : TabId} {navigated : Bool} {taken : List Text}
    {found : Tab}
    (h : ∀ t, tabs t → url ∉ d.urls t) (htabs : ∀ t u, t == u → tabs u → tabs t)
    (htab : tabs tab) (hin : tabs found.id → tabs id) (hne : tabs id → url ∉ taken) :
    Gone tabs tab url ((lookedUp (.activation id navigated taken) (.ok found)).value d)
      ((lookedUp (.activation id navigated taken) (.ok found)).state d) := by
  have hr : ¬ (found.id == tab ∧ url ∈ taken) :=
    fun hr => hne (hin (htabs _ _ hr.1 htab)) hr.2
  rw [value_lookedUp_activation, state_lookedUp_activation]
  by_cases hactive : found.active
  · rw [if_pos hactive, if_pos hactive]
    split
    · exact gone_page h hr
    · exact gone_replay h hr
  · rw [if_neg hactive, if_neg hactive]
    apply gone_ended
    intro t ht
    rw [Deferred.urls_putBack]
    split
    · next hft =>
      rw [Deferred.mem_foldl_addUrl]
      rintro (hm | hm)
      · exact hne (htabs _ _ (Bool.and_eq_true_iff.mp hft).1 ht) hm
      · exact h t ht hm
    · exact h t ht

private theorem gone_lookedUp {lookup : Lookup} {answer : Except Failure Tab}
    (h : ∀ t, tabs t → url ∉ d.urls t) (htabs : ∀ t u, t == u → tabs u → tabs t)
    (htab : tabs tab) (hc : ¬ (Progress.lookingUp lookup).Carries tabs tab url)
    (ha : ∀ found, answer = .ok found → tabs found.id → tabs lookup.tab) :
    Gone tabs tab url ((lookedUp lookup answer).value d) ((lookedUp lookup answer).state d) := by
  cases answer with
  | error cause =>
    rw [value_lookedUp_error, state_lookedUp_error]
    exact gone_ended h
  | ok found =>
    have hin : tabs found.id → tabs lookup.tab := ha found rfl
    cases lookup with
    | request event =>
      exact gone_lookedUp_request h htabs htab fun hf he => hc ⟨hin hf, he⟩
    | activation id navigated taken =>
      exact gone_lookedUp_activation h htabs htab hin fun hi hu => hc ⟨hi, hu⟩

private theorem gone_judged {case : Case} {purpose : Purpose} (verdict : Except Failure Bool)
    (h : ∀ t, tabs t → url ∉ d.urls t)
    (hc : ¬ (Progress.judging case purpose).Carries tabs tab url) :
    Gone tabs tab url ((judged purpose verdict).value d) ((judged purpose verdict).state d) := by
  rw [state_judged]
  by_cases hv : verdict = .ok false
  · rw [hv]
    cases purpose with
    | update => exact gone_ended h
    | request => exact gone_ended h
    | replay shown rest => exact gone_replay h hc
  · rw [value_judged_of_ne d purpose hv]
    exact gone_ended h

end Steps

end Handler

open Handler

namespace Crew

/-- A URL is deferred in none of some tabs, and no handler carries it. -/
structure Free (tabs : TabId → Prop) (tab : TabId) (url : Text) (c : Crew) : Prop where
  queues : ∀ t, tabs t → url ∉ c.deferred.urls t
  members : ∀ p ∈ c.members, ¬ p.Carries tabs tab url

/-- An event neither requests a URL in one of some tabs nor mistakes another tab for one of them. -/
def Event.Spares (tabs : TabId → Prop) (url : Text) : Event → Prop
  | began report => ¬ report.Requests tabs url
  | replied _ reply => reply.Within tabs

section Steps

variable {tabs : TabId → Prop} {tab : TabId} {url : Text}

private theorem gone_act {policy : TrackingPolicy} {c : Crew} {e : Event}
    {act : Act Deferred Progress}
    (hc : c.Free tabs tab url) (htabs : ∀ t u, t == u → tabs u → tabs t) (htab : tabs tab)
    (he : e.Spares tabs url) (ha : c.act? policy e = some act) :
    Gone tabs tab url (act.value c.deferred) (act.state c.deferred) := by
  cases e with
  | began report =>
    cases ha
    exact gone_handle policy hc.queues he
  | replied place reply =>
    obtain ⟨p, hp, hr⟩ := Option.bind_eq_some_iff.mp ha
    have hm := hc.members p (List.mem_of_getElem? hp)
    cases p with
    | ended =>
      cases reply with
      | found answer => cases hr
      | decided verdict => cases hr
      | abandoned => cases hr; exact gone_ended hc.queues
    | lookingUp lookup =>
      cases reply with
      | found answer =>
        cases hr
        exact gone_lookedUp hc.queues htabs htab hm fun found hf => he lookup.tab found hf
      | decided verdict => cases hr
      | abandoned => cases hr; exact gone_ended hc.queues
    | judging case purpose =>
      cases reply with
      | found answer => cases hr
      | decided verdict => cases hr; exact gone_judged verdict hc.queues hm
      | abandoned => cases hr; exact gone_ended hc.queues

/-- A crew that is free of a URL stays so in an event that spares the URL, and does not hand it
over. -/
theorem Free.step (policy : TrackingPolicy) {c : Crew} {e : Event} (hc : c.Free tabs tab url)
    (htabs : ∀ t u, t == u → tabs u → tabs t) (htab : tabs tab) (he : e.Spares tabs url) :
    (c.step policy e).Free tabs tab url ∧
      ∀ case, c.call? policy e = some case → ¬ case.IsRequest tab url := by
  unfold Crew.step call?
  cases ha : c.act? policy e with
  | none => exact ⟨hc, by simp⟩
  | some act =>
    have hg := gone_act hc htabs htab he ha
    refine ⟨⟨hg.queues, ?_⟩, hg.case⟩
    intro p hp
    rcases mem_seat c hp with hp | rfl
    · exact hc.members p hp
    · exact hg.carries

/-- A crew that is free of a URL stays so in every run that spares the URL, and does not hand it
over. -/
theorem Free.run (policy : TrackingPolicy) {events : List Event} {c : Crew}
    (hc : c.Free tabs tab url) (htabs : ∀ t u, t == u → tabs u → tabs t) (htab : tabs tab)
    (he : ∀ e ∈ events, e.Spares tabs url) :
    (c.run policy events).Free tabs tab url ∧
      ∀ case ∈ c.calls policy events, ¬ case.IsRequest tab url := by
  -- `Free` is the invariant; it says of every step that it hands over no such request.
  induction events generalizing c with
  | nil => exact ⟨hc, by simp [calls]⟩
  | cons e rest ih =>
    obtain ⟨hs, hcall⟩ := hc.step policy htabs htab (he e List.mem_cons_self)
    obtain ⟨hr, hcalls⟩ := ih hs fun e' he' => he e' (List.mem_cons_of_mem e he')
    refine ⟨hr, ?_⟩
    intro case hcase
    rcases List.mem_append.mp hcase with hcase | hcase
    · exact hcall case (Option.mem_toList.mp hcase)
    · exact hcalls case hcase

end Steps

end Crew

end BreakageAdvisor
