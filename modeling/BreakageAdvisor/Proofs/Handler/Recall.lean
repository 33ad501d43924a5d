import BreakageAdvisor.Proofs.Handler.Forgetting

/-!
# Recalled requests

A handler that carries a request while a navigation forgets the requests of its tab brings the
request back, if the tab is found in the foreground and no notification is shown before. So a
navigation forgets a request for good exactly if no handler carries it.
-/

namespace BreakageAdvisor

open Handler

namespace Crew

variable {tabs : TabId → Prop} {tab : TabId} {url : Text} {policy : TrackingPolicy}

/-- The judgement that no notification is needed. -/
def unshown (place : Nat) : Event := .replied place (.decided (.ok false))

private theorem recalled_of_replay {c : Crew} {e : Event} {place : Nat} {shown : Tab}
    {rest : List Text}
    (hm : (c.step policy e).members[place]? = some (replay shown rest))
    (hcall : c.call? policy e = (replay shown rest).case?) (hs : shown.id == tab)
    (hu : url ∈ rest) :
    ∃ n, ∃ called ∈ c.calls policy (e :: List.replicate n (unshown place)),
      called.IsRequest tab url := by
  -- The event has handed over the first URL; the next judgement hands over the one after it.
  induction rest generalizing c e with
  | nil => exact absurd hu List.not_mem_nil
  | cons u rest ih =>
    by_cases huu : u = url
    · refine ⟨0, ⟨shown, .request, u⟩, ?_, rfl, hs, huu⟩
      rw [calls, hcall]
      exact List.mem_append_left _ List.mem_cons_self
    · have hrest : url ∈ rest := by
        rcases List.mem_cons.mp hu with h | h
        · exact absurd h.symm huu
        · exact h
      have hr : (replay shown (u :: rest)).resume? (.decided (.ok false)) =
          some (judged (.replay shown rest) (.ok false)) := rfl
      obtain ⟨n, called, hmem, hcase⟩ :=
        ih (member_replied policy _ hm hr) (call_replied policy _ hm hr) hrest
      refine ⟨n + 1, called, ?_, hcase⟩
      rw [calls]
      exact List.mem_append_right _ hmem

/-- A URL that a handler carries is handed over if its tab is found in the foreground and no
notification is shown. -/
private theorem recalled_of_carried (policy : TrackingPolicy) {c : Crew} {place : Nat}
    {p : Progress}
    {answer : TabId → Except Failure Tab} (hp : c.members[place]? = some p)
    (hc : p.Carries tabs tab url)
    (ha : ∀ id, tabs id → ∃ found, answer id = .ok found ∧ found.active ∧ found.id == tab) :
    ∃ later, (∀ e ∈ later, e = .replied place (.found answer) ∨ e = unshown place) ∧
      ∃ called ∈ c.calls policy later, called.IsRequest tab url := by
  cases p with
  | ended => exact absurd hc id
  | lookingUp lookup =>
    have hr : (Progress.lookingUp lookup).resume? (.found answer) =
        some (lookedUp lookup (answer lookup.tab)) := rfl
    have hm := member_replied policy c hp hr
    have hcall := call_replied policy c hp hr
    cases lookup with
    | request event =>
      obtain ⟨found, hf, hactive, hid⟩ := ha event.tab hc.1
      refine ⟨[.replied place (.found answer)], by simp, ⟨found, .request, event.url⟩, ?_, rfl, hid,
        hc.2⟩
      rw [calls, hcall, Lookup.tab, hf, value_lookedUp_request, if_pos hactive]
      exact List.mem_append_left _ List.mem_cons_self
    | activation id navigated taken =>
      obtain ⟨found, hf, hactive, hid⟩ := ha id hc.1
      rw [Lookup.tab, hf, value_lookedUp_activation, if_pos hactive] at hm hcall
      cases navigated with
      | false =>
        obtain ⟨n, hn⟩ := recalled_of_replay hm hcall hid hc.2
        refine ⟨_ :: List.replicate n (unshown place), ?_, hn⟩
        intro e he
        rcases List.mem_cons.mp he with rfl | he
        · exact .inl rfl
        · exact .inr (List.eq_of_mem_replicate he)
      | true =>
        have hr' : (Progress.judging ⟨found, .tab, found.url⟩ (.replay found taken)).resume?
            (.decided (.ok false)) = some (judged (.replay found taken) (.ok false)) := rfl
        obtain ⟨n, called, hmem, hcase⟩ := recalled_of_replay (member_replied policy _ hm hr')
          (call_replied policy _ hm hr') hid hc.2
        refine ⟨.replied place (.found answer) :: unshown place ::
          List.replicate n (unshown place), ?_, called, ?_, hcase⟩
        · intro e he
          rcases List.mem_cons.mp he with rfl | he
          · exact .inl rfl
          · exact .inr (List.eq_of_mem_replicate (n := n + 1) he)
        · rw [calls]
          exact List.mem_append_right _ hmem
  | judging case purpose =>
    cases purpose with
    | update => exact absurd hc id
    | request => exact absurd hc id
    | replay shown rest =>
      have hr : (Progress.judging case (.replay shown rest)).resume? (.decided (.ok false)) =
          some (judged (.replay shown rest) (.ok false)) := rfl
      obtain ⟨n, hn⟩ := recalled_of_replay (member_replied policy c hp hr)
        (call_replied policy c hp hr) hc.1 hc.2
      exact ⟨_, fun e he => .inr (List.eq_of_mem_replicate (n := n + 1) he), hn⟩

/-- A URL is not handed over as a request of a tab, and not deferred for it, as long as it is
spared. -/
def Forgets (policy : TrackingPolicy) (tabs : TabId → Prop) (tab : TabId) (url : Text) (c : Crew) :
    Prop :=
  ∀ later : List Event, (∀ e ∈ later, e.Spares tabs url) →
    (∀ case ∈ c.calls policy later, ¬ case.IsRequest tab url) ∧
      url ∉ (c.run policy later).deferred.urls tab

section Navigation

variable {c : Crew} {update : TabUpdate}

private theorem urls_navigated (hn : policy.isNavigation update) (t : TabId) :
    (c.step policy (.began (.updated update))).deferred.urls t =
      if update.tab.id == t then [] else c.deferred.urls t := by
  rw [step_began]
  simp only [Report.handle, state_tabUpdated, if_pos hn]
  split
  · rw [Deferred.urls_dropTab, Deferred.urls_dropRequests]
  · rw [Deferred.urls_addTab, Deferred.urls_dropRequests]

/-- A crew is free of a URL after a navigation of a tab if no handler carries it and it is deferred
for no other tab. -/
private theorem free_navigated (hn : policy.isNavigation update)
    (hp : ∀ p ∈ c.members, ¬ p.Carries tabs update.tab.id url)
    (hq : ∀ t, tabs t → ¬ update.tab.id == t → url ∉ c.deferred.urls t) :
    (c.step policy (.began (.updated update))).Free tabs update.tab.id url := by
  refine ⟨?_, ?_⟩
  · intro t ht
    rw [urls_navigated hn]
    split
    · exact List.not_mem_nil
    · next h => exact hq t ht h
  · intro p hm
    rw [step_began] at hm
    rcases List.mem_append.mp hm with hm | hm
    · exact hp p hm
    · rw [List.mem_singleton.mp hm]
      simp only [Report.handle, value_tabUpdated]
      split
      · exact id
      · exact id

private theorem not_forgets_of_carried {p : Progress} {answer : TabId → Except Failure Tab}
    (hp : p ∈ c.members) (hc : p.Carries tabs tab url)
    (ha : ∀ id, tabs id → ∃ found, answer id = .ok found ∧ found.active ∧ found.id == tab)
    (hw : (Reply.found answer).Within tabs) : ¬ c.Forgets policy tabs tab url := by
  intro hf
  obtain ⟨place, hplace⟩ := List.getElem?_of_mem hp
  obtain ⟨later, hlater, called, hmem, hcase⟩ :=
    recalled_of_carried policy hplace hc ha
  refine (hf later ?_).1 called hmem hcase
  intro e he
  rcases hlater e he with rfl | rfl
  · exact hw
  · trivial

/-- A crew that forgets a URL goes on doing so in an event that spares the URL. -/
theorem Forgets.step {e : Event} (hf : c.Forgets policy tabs tab url) (he : e.Spares tabs url) :
    (c.step policy e).Forgets policy tabs tab url := by
  intro later hlater
  obtain ⟨hcalls, hq⟩ := hf (e :: later) (List.forall_mem_cons.mpr ⟨he, hlater⟩)
  exact ⟨fun case hcase => hcalls case (List.mem_append_right _ hcase), hq⟩

/-- A URL that is deferred for another tab keeps a crew from forgetting it, where a lookup may give
one tab for the other. -/
private theorem not_forgets_of_deferred {t : TabId} {answer : TabId → Except Failure Tab}
    (ht : tabs t)
    (hu : url ∈ c.deferred.urls t)
    (ha : ∀ id, tabs id → ∃ found, answer id = .ok found ∧ found.active ∧ found.id == tab)
    (hw : (Reply.found answer).Within tabs) : ¬ c.Forgets policy tabs tab url := by
  intro hf
  have hne : ¬ (c.deferred.urls t).isEmpty := by
    rw [List.isEmpty_iff]
    exact List.ne_nil_of_mem hu
  have hv : (activated t).value c.deferred =
      .lookingUp (.activation t (c.deferred.hasTab t) (c.deferred.urls t)) := by
    rw [value_activated, if_neg]
    simp [hne]
  have hp : Progress.lookingUp (.activation t (c.deferred.hasTab t) (c.deferred.urls t)) ∈
      (c.step policy (.began (.activated t))).members := by
    rw [step_began]
    exact List.mem_append_right _ (hv ▸ List.mem_cons_self)
  have hs : (Event.began (.activated t)).Spares tabs url := id
  exact not_forgets_of_carried hp ⟨ht, hu⟩ ha hw (hf.step hs)

/-- A crew forgets a URL after a navigation of a tab exactly if no handler carries the URL and it is
deferred for no other tab that may be mistaken for this one. -/
private theorem forgets_navigated_iff (answer : TabId → Except Failure Tab)
    (hn : policy.isNavigation update) (htabs : ∀ t u, t == u → tabs u → tabs t)
    (htab : tabs update.tab.id)
    (ha : ∀ id, tabs id →
      ∃ found, answer id = .ok found ∧ found.active ∧ found.id == update.tab.id)
    (hw : (Reply.found answer).Within tabs) :
    (c.step policy (.began (.updated update))).Forgets policy tabs update.tab.id url ↔
      (∀ p ∈ c.members, ¬ p.Carries tabs update.tab.id url) ∧
        ∀ t, tabs t → ¬ update.tab.id == t → url ∉ c.deferred.urls t := by
  constructor
  · intro hf
    constructor
    · intro p hp hc
      exact not_forgets_of_carried (List.mem_append_left _ hp) hc ha hw hf
    · intro t ht hne hu
      refine not_forgets_of_deferred ht ?_ ha hw hf
      rw [urls_navigated hn, if_neg hne]
      exact hu
  · rintro ⟨hp, hq⟩ later hlater
    obtain ⟨hfree, hcalls⟩ := (free_navigated hn hp hq).run policy htabs htab hlater
    exact ⟨hcalls, hfree.queues _ htab⟩

end Navigation

/-- After a navigation of a tab, a URL stays forgotten for the tab until it is requested again,
exactly if no handler carries it. Where lookups may give any tab, a URL that a lookup of any tab
carries comes back too, and one that is deferred for another tab; where no other tab is answered
with this one, only what is carried for this one counts. -/
theorem forgets_iff_not_carried (policy : TrackingPolicy) (c : Crew) (update : TabUpdate)
    (url : Text) (hn : policy.isNavigation update) :
    ((c.step policy (.began (.updated update))).Forgets policy (fun _ => True) update.tab.id url ↔
        (∀ p ∈ c.members, ¬ p.Carries (fun _ => True) update.tab.id url) ∧
          ∀ t, ¬ update.tab.id == t → url ∉ c.deferred.urls t) ∧
      ((c.step policy (.began (.updated update))).Forgets policy (· == update.tab.id)
          update.tab.id url ↔
        ∀ p ∈ c.members, ¬ p.Carries (· == update.tab.id) update.tab.id url) := by
  constructor
  · rw [forgets_navigated_iff (fun _ => .ok ⟨update.tab.id, [], true⟩) hn]
    · simp only [true_implies]
    · exact fun _ _ _ _ => trivial
    · trivial
    · exact fun _ _ => ⟨_, rfl, rfl, BEq.rfl⟩
    · exact fun _ _ _ _ => trivial
  · rw [forgets_navigated_iff (fun id => .ok ⟨id, [], true⟩) hn]
    · rw [and_iff_left]
      intro t ht hne
      exact absurd (BEq.symm ht) hne
    · exact fun t u htu hu => PartialEquivBEq.trans htu hu
    · exact BEq.rfl
    · exact fun id hid => ⟨_, rfl, rfl, hid⟩
    · rintro id found hf ht
      cases hf
      exact ht

/-- A tab in the background. -/
def background : Tab := ⟨.number 1, "https://a.com/", false⟩

/-- The tab goes to another page. -/
def departure : TabUpdate := ⟨{ background with url := "https://b.com/" }, true, none⟩

/-- A request of the first page is deferred. -/
def deferral : List Event :=
  [.began (.requested ⟨.number 1, "https://t.com/", none⟩),
    .replied 0 (.found fun _ => .ok background)]

/-- The departure forgets the request for good if the tab does not come to the foreground
before. -/
theorem forgets_at_departure :
    TrackingPolicy.isNavigation {} departure ∧
      (({} : Crew).run {} deferral).deferred.urls (.number 1) =
        (["https://t.com/"] : List Text) ∧
      ((({} : Crew).run {} deferral).step {} (.began (.updated departure))).Forgets {}
        (fun _ => True) (.number 1) "https://t.com/" := by
  have hn : TrackingPolicy.isNavigation {} departure := rfl
  have hm : (({} : Crew).run {} deferral).members = [.ended] := rfl
  refine ⟨hn, rfl, (forgets_iff_not_carried {} _ departure _ hn).1.mpr ⟨?_, ?_⟩⟩
  · intro p hp
    rw [hm, List.mem_singleton] at hp
    rw [hp]
    exact id
  · intro t ht
    have hu : (({} : Crew).run {} deferral).deferred.urls t =
        if TabId.number 1 == t then (["https://t.com/"] : List Text) else [] := rfl
    rw [hu]
    split
    · next h => exact absurd h ht
    · exact List.not_mem_nil

/-- The tab comes to the foreground, and departs while it is looked up. -/
def departed : Crew :=
  (({} : Crew).run {} (deferral ++ [.began (.activated (.number 1))])).step {}
    (.began (.updated departure))

/-- The tab is found in the foreground, on its new page. -/
def arrival : Event := .replied 1 (.found fun id => .ok ⟨id, "https://b.com/", true⟩)

/-- The request of the page that the tab has left is handed over on its new page. -/
theorem recalled_after_departure :
    (({} : Crew).run {} deferral).deferred.urls (.number 1) =
        (["https://t.com/"] : List Text) ∧
      departed.calls {} [arrival] =
        [⟨⟨.number 1, "https://b.com/", true⟩, .request, "https://t.com/"⟩] ∧
      ¬ departed.Forgets {} (· == .number 1) (.number 1) "https://t.com/" := by
  have hcalls : departed.calls {} [arrival] =
      [⟨⟨.number 1, "https://b.com/", true⟩, .request, "https://t.com/"⟩] := rfl
  refine ⟨rfl, hcalls, ?_⟩
  intro hf
  have hs : ∀ e ∈ [arrival], e.Spares (· == .number 1) "https://t.com/" := by
    intro e he
    rw [List.mem_singleton.mp he]
    rintro id found hfound ht
    cases hfound
    exact ht
  obtain ⟨hno, _⟩ := hf [arrival] hs
  rw [hcalls] at hno
  exact hno _ List.mem_cons_self ⟨rfl, rfl, rfl⟩

end Crew

end BreakageAdvisor
