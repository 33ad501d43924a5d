import BreakageAdvisor.Activator
import BreakageAdvisor.Proofs.Tracker

/-!
# The registrations of the activator

The activator is registered once for everything that the subscription of its present start holds,
and nowhere if it was stopped. A start that is completed after it was stopped leaves no registration
of the activator behind.
-/

namespace BreakageAdvisor

namespace Tracker

variable {t : Tracker} (channel : Channel)

/-- Starting the tracker is no matter of the activator's registrations. -/
theorem count_start (policy : TrackingPolicy) (t : Tracker) :
    ((start policy).state t).listeners.count (channel, .activator) =
      t.listeners.count (channel, .activator) := by
  cases hc : t.current with
  | some number => rw [state_start_of_some policy t hc]
  | none =>
    rw [state_start_of_none policy t hc, List.count_append, count_places_tracker, Nat.add_zero]

private theorem Sound.count_stop (h : t.Sound) :
    (Tracker.stop.state t).listeners.count (channel, .activator) =
      t.listeners.count (channel, .activator) := by
  cases hc : t.current with
  | none => rw [state_stop_of_none t hc]
  | some number =>
    obtain ⟨held, hs, _⟩ := h.running number hc
    rw [state_stop_of_some t hc hs, List.count_diff, count_places_tracker, Nat.sub_zero]

/-- A tracker that is started runs. -/
theorem running_start (policy : TrackingPolicy) (t : Tracker) :
    ((start policy).state t).running = true := by
  cases hc : t.current with
  | some number => rw [state_start_of_some policy t hc, running, hc, Option.isSome_some]
  | none => rw [state_start_of_none policy t hc, running, Option.isSome_some]

/-- Registrations of the activator are no matter of the tracker. -/
theorem Sound.of_count {listeners : Listeners Listener} (h : t.Sound)
    (hl : ∀ channel, listeners.count (channel, .tracker) =
      t.listeners.count (channel, .tracker)) : { t with listeners }.Sound := by
  refine ⟨?_, ?_⟩
  · intro number hn
    obtain ⟨held, hs, hc⟩ := h.running number hn
    exact ⟨held, hs, fun channel => (hl channel).trans (hc channel)⟩
  · intro hn channel
    exact (hl channel).trans (h.stopped hn channel)

end Tracker

namespace Listeners

variable (listeners : Listeners Listener) (channel other : Channel)

private theorem count_concat_activator :
    (listeners ++ [(channel, Listener.activator)]).count (other, .activator) =
      listeners.count (other, .activator) + if channel = other then 1 else 0 := by
  simp [List.count_append, List.count_singleton]

/-- A registration of the activator does not count for the tracker. -/
theorem count_concat_tracker :
    (listeners ++ [(channel, Listener.activator)]).count (other, .tracker) =
      listeners.count (other, .tracker) := by
  simp [List.count_append]

private theorem count_erase_activator :
    (listeners.erase (channel, Listener.activator)).count (other, .activator) =
      listeners.count (other, .activator) - if channel = other then 1 else 0 := by
  simp [List.count_erase]

/-- A registration of the activator that is removed did not count for the tracker. -/
theorem count_erase_tracker :
    (listeners.erase (channel, Listener.activator)).count (other, .tracker) =
      listeners.count (other, .tracker) := by
  simp

end Listeners

namespace Activator

section Acts

variable (a : Activator)

/-- An activator that was started has begun. -/
theorem begin_of_some {number : Nat} (h : a.current = some number) :
    begin.value a = (number, false) ∧ begin.state a = a := by
  rw [begin, Act.value_get_bind, Act.state_get_bind, h]
  exact ⟨rfl, rfl⟩

/-- An activator that begins takes a new subscription, which holds the tracker. -/
theorem begin_of_none (h : a.current = none) :
    begin.value a = (a.subscriptions.length, true) ∧
      begin.state a =
        { a with
          subscriptions := a.subscriptions ++ [{ held := [.tracker] }]
          current := some a.subscriptions.length } := by
  rw [begin, Act.value_get_bind, Act.state_get_bind, h]
  exact ⟨rfl, rfl⟩

/-- Nothing is left to stop. -/
theorem state_stop_of_none (h : a.current = none) : stop.state a = a := by
  rw [stop, Act.state_get_bind, h]
  rfl

end Acts

/-- The activator is registered for all that its open subscription holds, or nowhere. All other
subscriptions are closed. -/
structure Sound (a : Activator) : Prop where
  tracker : a.tracker.Sound
  running : ∀ number, a.current = some number → ∃ held,
    a.subscriptions[number]? = some ⟨held, false⟩ ∧ .tracker ∈ held ∧
      ∀ channel, a.tracker.listeners.count (channel, .activator) = held.count (.channel channel)
  stopped : a.current = none →
    ∀ channel, a.tracker.listeners.count (channel, .activator) = 0
  closed : ∀ number subscription, a.subscriptions[number]? = some subscription →
    a.current ≠ some number → subscription = ⟨[], true⟩

namespace Sound

variable {a : Activator}

theorem initial : Sound {} := ⟨.initial, nofun, by simp, by simp⟩

/-- A tracker that changes apart from the activator's registrations. -/
theorem onTracker {tracker : Tracker} (h : a.Sound) (ht : tracker.Sound)
    (hc : ∀ channel, tracker.listeners.count (channel, .activator) =
      a.tracker.listeners.count (channel, .activator)) : { a with tracker }.Sound := by
  refine ⟨ht, ?_, ?_, h.closed⟩
  · intro number hn
    obtain ⟨held, hs, hm, hcount⟩ := h.running number hn
    exact ⟨held, hs, hm, fun channel => (hc channel).trans (hcount channel)⟩
  · intro hn channel
    exact (hc channel).trans (h.stopped hn channel)

/-- The tracker is started. -/
theorem startTracker (h : a.Sound) (policy : TrackingPolicy) :
    ((Activator.onTracker (Tracker.start policy)).state a).Sound :=
  h.onTracker (h.tracker.start policy) fun channel => Tracker.count_start channel policy a.tracker

private theorem stopTracker (h : a.Sound) : ((Activator.onTracker Tracker.stop).state a).Sound :=
  h.onTracker h.tracker.stop fun channel => h.tracker.count_stop channel

/-- The activator begins. -/
theorem begin (h : a.Sound) : (begin.state a).Sound := by
  cases hc : a.current with
  | some number => rwa [(begin_of_some a hc).2]
  | none =>
    rw [(begin_of_none a hc).2]
    refine ⟨h.tracker, ?_, nofun, ?_⟩
    · intro number hn
      obtain rfl := Option.some_inj.mp hn
      refine ⟨[.tracker], List.getElem?_concat_length, List.mem_singleton_self _, ?_⟩
      intro channel
      exact h.stopped hc channel
    · intro number subscription hs hn
      have hlt : number < a.subscriptions.length := by
        have hle := (List.getElem?_eq_some_iff.mp hs).1
        rw [List.length_append, List.length_singleton] at hle
        have hne : number ≠ a.subscriptions.length := fun he => hn (congrArg some he.symm)
        omega
      rw [List.getElem?_append_left hlt] at hs
      exact h.closed number subscription hs (hc ▸ Option.some_ne_none number).symm

end Sound

section Listening

variable (a : Activator) {number : Nat} (channel : Channel)

/-- A registration of the activator is held by the subscription of its start. -/
theorem state_listen_of_open {held : List Holding}
    (hs : a.subscriptions[number]? = some ⟨held, false⟩) :
    (listen number channel).state a =
      { a with
        tracker := { a.tracker with
          listeners := a.tracker.listeners ++ [(channel, Listener.activator)] }
        subscriptions := a.subscriptions.set number ⟨.channel channel :: held, false⟩ } := by
  have hs' : ((onTracker (Tracker.register channel .activator)).state a).subscriptions[number]? =
      some ⟨held, false⟩ := hs
  rw [listen, Act.state_bind, Act.state_get_bind, hs']
  rfl

/-- A registration of the activator is removed at once if the start was stopped. -/
theorem state_listen_of_closed (hs : a.subscriptions[number]? = some ⟨[], true⟩) :
    (listen number channel).state a =
      { a with
        tracker := { a.tracker with
          listeners := (a.tracker.listeners ++ [(channel, Listener.activator)]).erase
            (channel, .activator) } } := by
  have hs' : ((onTracker (Tracker.register channel .activator)).state a).subscriptions[number]? =
      some ⟨[], true⟩ := hs
  have hset : a.subscriptions.set number ⟨[], true⟩ = a.subscriptions := by
    obtain ⟨hl, he⟩ := List.getElem?_eq_some_iff.mp hs
    rw [← he, List.set_getElem_self]
  rw [listen, Act.state_bind, Act.state_get_bind, hs']
  exact congrArg (Activator.mk _ · a.current) hset

end Listening

/-- Whether the tracker runs, which start is in use and how many there were. -/
def outline (a : Activator) : Option Nat × Option Nat × Nat :=
  (a.tracker.current, a.current, a.subscriptions.length)

/-- A registration of the activator starts and stops nothing. -/
theorem keeps_listen (number : Nat) (channel : Channel) :
    Act.Keeps outline (listen number channel) := by
  refine .bind (fun _ => rfl) fun _ => .bind .get fun a => ?_
  split
  · exact .pure _
  · next subscription _ =>
    have hadd : Act.Keeps outline (subscription.add release (.channel channel)) := by
      unfold Subscription.add
      split
      · exact .bind (fun _ => rfl) fun _ => .pure _
      · exact .pure _
    refine .bind hadd fun changed => ?_
    intro a'
    simp [outline]

/-- What the completion of a start does: in test mode the tracker is started, and otherwise if the
feature is active. -/
theorem state_complete (policy : TrackingPolicy) (feature : Feature) (number : Nat)
    (a : Activator) :
    (complete policy feature number).state a =
      if feature.testMode then
        (onTracker (Tracker.start policy)).state ((listen number .catalog).state a)
      else if feature.active then
        (listen number .activation).state
          ((onTracker (Tracker.start policy)).state ((listen number .catalog).state a))
      else (listen number .activation).state ((listen number .catalog).state a) := by
  rw [complete, Act.state_bind]
  cases feature.testMode
  · cases feature.active <;> rfl
  · rfl

/-- A completed start leaves all subscriptions and the one in use. The tracker runs after it in test
mode, with the feature active, and if it ran before. -/
theorem outline_complete (policy : TrackingPolicy) (feature : Feature) (number : Nat)
    (a : Activator) :
    ((complete policy feature number).state a).current = a.current ∧
      ((complete policy feature number).state a).subscriptions.length = a.subscriptions.length ∧
      ((complete policy feature number).state a).tracker.running =
        (feature.testMode || feature.active || a.tracker.running) := by
  have hcatalog := keeps_listen number .catalog a
  have hstart := Tracker.running_start policy ((listen number .catalog).state a).tracker
  rw [state_complete]
  cases feature.testMode with
  | true => exact ⟨congrArg (·.2.1) hcatalog, congrArg (·.2.2) hcatalog, hstart⟩
  | false =>
    cases feature.active with
    | true =>
      have hactivation := keeps_listen number .activation
        ((onTracker (Tracker.start policy)).state ((listen number .catalog).state a))
      exact ⟨(congrArg (·.2.1) hactivation).trans (congrArg (·.2.1) hcatalog),
        (congrArg (·.2.2) hactivation).trans (congrArg (·.2.2) hcatalog),
        (congrArg (·.1.isSome) hactivation).trans hstart⟩
    | false =>
      have hactivation := (keeps_listen number .activation
        ((listen number .catalog).state a)).trans hcatalog
      exact ⟨congrArg (·.2.1) hactivation, congrArg (·.2.2) hactivation,
        congrArg (·.1.isSome) hactivation⟩

/-- What a subscription of the activator holds is released: its registrations are removed, and the
tracker is stopped if it is among them. -/
structure Released (a a' : Activator) (held : List Holding) : Prop where
  tracker : a'.tracker.Sound
  counts : ∀ channel, a'.tracker.listeners.count (channel, .activator) =
    a.tracker.listeners.count (channel, .activator) - held.count (.channel channel)
  stops : .tracker ∈ held ∨ a.tracker.current = none → a'.tracker.current = none
  subscriptions : a'.subscriptions = a.subscriptions
  current : a'.current = a.current

private theorem unregister_sound {t : Tracker} (h : t.Sound) (channel : Channel) :
    ((Tracker.unregister channel .activator).state t).Sound :=
  h.of_count fun c => Listeners.count_erase_tracker t.listeners channel c

private theorem released_releaseAll (held : List Holding) {a : Activator} (h : a.tracker.Sound) :
    Released a ((Subscription.releaseAll release held).state a) held := by
  induction held generalizing a with
  | nil =>
    exact ⟨h, fun _ => rfl, fun hs => hs.elim (absurd · List.not_mem_nil) id, rfl, rfl⟩
  | cons holding rest ih =>
    cases holding with
    | channel c =>
      have hr := ih (a := (onTracker (Tracker.unregister c .activator)).state a)
        (unregister_sound h c)
      refine ⟨hr.tracker, ?_, ?_, hr.subscriptions, hr.current⟩
      · intro channel
        have hcount := hr.counts channel
        change _ = (a.tracker.listeners.erase (c, .activator)).count (channel, .activator) - _
          at hcount
        refine hcount.trans ?_
        rw [Listeners.count_erase_activator, List.count_cons]
        simp only [beq_iff_eq, Holding.channel.injEq]
        omega
      · intro hs
        refine hr.stops (hs.imp_left fun hm => ?_)
        cases hm with
        | tail _ hm => exact hm
    | tracker =>
      have hr := ih (a := (onTracker Tracker.stop).state a) h.stop
      refine ⟨hr.tracker, ?_, fun _ => hr.stops (.inr h.current_stop), hr.subscriptions, hr.current⟩
      intro channel
      refine (hr.counts channel).trans ?_
      rw [List.count_cons_of_ne (fun he => by cases he)]
      exact congrArg (· - _) (h.count_stop channel)

/-- The activator is stopped: its subscription is released and closed. -/
theorem state_stop_of_some (a : Activator) {number : Nat} {held : List Holding}
    (hc : a.current = some number) (hs : a.subscriptions[number]? = some ⟨held, false⟩) :
    stop.state a =
      { (Subscription.releaseAll release held).state a with
        subscriptions :=
          ((Subscription.releaseAll release held).state a).subscriptions.set number ⟨[], true⟩
        current := none } := by
  have hget : (Act.get.value a).subscriptions[number]? = some ⟨held, false⟩ := hs
  rw [stop, Act.state_get_bind, hc]
  dsimp only
  rw [Act.state_bind, hget]
  rfl

namespace Sound

variable {a : Activator}

/-- A registration of the activator for a start that has begun. -/
theorem listen (h : a.Sound) {number : Nat} (hn : number < a.subscriptions.length)
    (channel : Channel) : ((listen number channel).state a).Sound := by
  have hs : a.subscriptions[number]? = some a.subscriptions[number] := List.getElem?_eq_getElem hn
  by_cases hc : a.current = some number
  · -- The subscription is open, and holds the registration.
    obtain ⟨held, hopen, hm, hcount⟩ := h.running number hc
    rw [state_listen_of_open a channel hopen]
    refine ⟨h.tracker.of_count ?_, ?_, fun hnone => absurd (hc.symm.trans hnone) nofun, ?_⟩
    · exact Listeners.count_concat_tracker a.tracker.listeners channel
    · intro n hnc
      obtain rfl := Option.some_inj.mp (hc.symm.trans hnc)
      refine ⟨.channel channel :: held, List.getElem?_set_self hn, List.mem_cons_of_mem _ hm, ?_⟩
      intro c
      rw [Listeners.count_concat_activator, hcount, List.count_cons]
      simp only [beq_iff_eq, Holding.channel.injEq]
    · intro n subscription hsub hne
      have hnn : number ≠ n := fun he => hne (hc.trans (congrArg some he))
      rw [List.getElem?_set_ne hnn] at hsub
      exact h.closed n subscription hsub hne
  · have hclosed := h.closed number _ hs hc
    rw [state_listen_of_closed a channel (hclosed ▸ hs)]
    refine h.onTracker (h.tracker.of_count ?_) ?_
    · intro c
      rw [Listeners.count_erase_tracker, Listeners.count_concat_tracker]
    · intro c
      rw [Listeners.count_erase_activator, Listeners.count_concat_activator, Nat.add_sub_cancel]

/-- A start is completed. -/
theorem complete (h : a.Sound) (policy : TrackingPolicy) (feature : Feature) {number : Nat}
    (hn : number < a.subscriptions.length) :
    ((complete policy feature number).state a).Sound := by
  have hcatalog := h.listen hn .catalog
  have hlength : number < ((Activator.listen number .catalog).state a).subscriptions.length :=
    Nat.lt_of_lt_of_eq hn (congrArg (·.2.2) (keeps_listen number .catalog a)).symm
  rw [state_complete]
  split
  · exact hcatalog.startTracker policy
  split
  · exact (hcatalog.startTracker policy).listen hlength .activation
  · exact hcatalog.listen hlength .activation

/-- The feature is switched on or off. -/
theorem activationChanged (h : a.Sound) (policy : TrackingPolicy) (enabled : Bool) :
    ((activationChanged policy enabled).state a).Sound := by
  cases enabled with
  | true => exact h.startTracker policy
  | false => exact h.stopTracker

/-- Switching the feature is no matter of the activator's registrations. -/
theorem count_activationChanged (h : a.Sound) (policy : TrackingPolicy) (enabled : Bool)
    (channel : Channel) :
    ((Activator.activationChanged policy enabled).state a).tracker.listeners.count
        (channel, .activator) =
      a.tracker.listeners.count (channel, .activator) := by
  cases enabled with
  | true => exact Tracker.count_start channel policy a.tracker
  | false => exact h.tracker.count_stop channel

/-- A registration of the activator is left if its start is in use. -/
theorem count_listen (h : a.Sound) {number : Nat} (hn : number < a.subscriptions.length)
    (channel other : Channel) :
    ((Activator.listen number channel).state a).tracker.listeners.count (other, .activator) =
      a.tracker.listeners.count (other, .activator) +
        if a.current = some number ∧ channel = other then 1 else 0 := by
  have hs : a.subscriptions[number]? = some a.subscriptions[number] := List.getElem?_eq_getElem hn
  by_cases hc : a.current = some number
  · obtain ⟨held, hopen, _⟩ := h.running number hc
    rw [state_listen_of_open a channel hopen, Listeners.count_concat_activator]
    simp only [hc, true_and]
  · rw [state_listen_of_closed a channel (h.closed number _ hs hc ▸ hs),
      Listeners.count_erase_activator, Listeners.count_concat_activator, Nat.add_sub_cancel,
      if_neg fun hcc => hc hcc.1, Nat.add_zero]

/-- A completed start listens to changes of the configured catalogs if it is in use. -/
theorem count_complete (h : a.Sound) (policy : TrackingPolicy) (feature : Feature) {number : Nat}
    (hn : number < a.subscriptions.length) :
    ((Activator.complete policy feature number).state a).tracker.listeners.count
        (.catalog, .activator) =
      a.tracker.listeners.count (.catalog, .activator) +
        if a.current = some number then 1 else 0 := by
  have hcatalog := h.listen hn .catalog
  have hcount := h.count_listen hn .catalog .catalog
  have hlength : number < ((Activator.listen number .catalog).state a).subscriptions.length :=
    Nat.lt_of_lt_of_eq hn (congrArg (·.2.2) (keeps_listen number .catalog a)).symm
  simp only [and_true] at hcount
  rw [state_complete, ← hcount]
  split
  · exact Tracker.count_start .catalog policy _
  split
  · rw [(hcatalog.startTracker policy).count_listen hlength .activation .catalog,
      if_neg fun he => nomatch he.2]
    exact Tracker.count_start .catalog policy _
  · rw [hcatalog.count_listen hlength .activation .catalog, if_neg fun he => nomatch he.2]
    rfl

/-- The activator is stopped. -/
theorem stop (h : a.Sound) : (stop.state a).Sound := by
  cases hc : a.current with
  | none => rwa [state_stop_of_none a hc]
  | some number =>
    obtain ⟨held, hs, hm, hcount⟩ := h.running number hc
    have hr := released_releaseAll held h.tracker
    rw [state_stop_of_some a hc hs]
    refine ⟨hr.tracker, nofun, ?_, ?_⟩
    · intro _ channel
      rw [hr.counts, hcount, Nat.sub_self]
    · intro n subscription hsub _
      rw [hr.subscriptions] at hsub
      by_cases hn : number = n
      · subst hn
        have hl := (List.getElem?_eq_some_iff.mp hs).1
        rw [List.getElem?_set_self hl] at hsub
        exact (Option.some_inj.mp hsub).symm
      · rw [List.getElem?_set_ne hn] at hsub
        exact h.closed n subscription hsub (hc ▸ fun he => hn (Option.some_inj.mp he))

/-- Stopping the activator leaves all subscriptions. -/
theorem length_stop (h : a.Sound) :
    (Activator.stop.state a).subscriptions.length = a.subscriptions.length := by
  cases hc : a.current with
  | none => rw [state_stop_of_none a hc]
  | some number =>
    obtain ⟨held, hs, _⟩ := h.running number hc
    rw [state_stop_of_some a hc hs]
    exact (List.length_set ..).trans
      (congrArg List.length (released_releaseAll held h.tracker).subscriptions)

/-- Stopping the activator leaves no start in use. -/
theorem current_stop (h : a.Sound) : (Activator.stop.state a).current = none := by
  cases hc : a.current with
  | none => rw [state_stop_of_none a hc, hc]
  | some number =>
    obtain ⟨held, hs, _⟩ := h.running number hc
    rw [state_stop_of_some a hc hs]

/-- Stopping an activator that was started stops the tracker. -/
theorem tracker_stop (h : a.Sound) {number : Nat} (hc : a.current = some number) :
    (Activator.stop.state a).tracker.current = none := by
  obtain ⟨held, hs, hm, _⟩ := h.running number hc
  rw [state_stop_of_some a hc hs]
  exact (released_releaseAll held h.tracker).stops (.inl hm)

end Sound

end Activator

end BreakageAdvisor
