import BreakageAdvisor.Tracker
import BreakageAdvisor.Proofs.Act
import Mathlib.Data.List.Count

/-!
# The registrations of the tracker

A tracker that runs is registered once for everything that its open subscription holds, and a
tracker that was stopped is registered nowhere. Stopping forgets all deferred activity.
-/

namespace BreakageAdvisor

namespace Tracker

/-- The registrations of a listener on channels. -/
def places (listener : Listener) (channels : List Channel) : List (Channel × Listener) :=
  channels.map (·, listener)

/-- No channel is named twice. -/
theorem count_channels (policy : TrackingPolicy) (channel : Channel) :
    (channels policy).count channel = if channel ∈ channels policy then 1 else 0 := by
  unfold channels
  cases policy.requests <;> cases channel <;> rfl

/-- The tracker listens to updates and activations of tabs, and to requests if they are tracked. -/
theorem mem_channels {policy : TrackingPolicy} {channel : Channel} :
    channel ∈ channels policy ↔
      channel = .tabUpdated ∨ channel = .tabActivated ∨ channel = .request ∧ policy.requests := by
  unfold channels
  cases policy.requests <;> simp

/-- A listener has as many registrations on a channel as the channel is named. -/
theorem count_places (listener : Listener) (channels : List Channel) (channel : Channel) :
    (places listener channels).count (channel, listener) = channels.count channel :=
  List.count_map_of_injective channels (·, listener) (fun _ _ h => (Prod.mk.inj h).1) channel

/-- The registrations of the tracker are none of the activator. -/
theorem count_places_tracker (channels : List Channel) (channel : Channel) :
    (places .tracker channels).count (channel, .activator) = 0 := by
  rw [List.count_eq_zero]
  intro hm
  obtain ⟨_, _, he⟩ := List.mem_map.mp hm
  cases he

section Acts

variable (policy : TrackingPolicy) (t : Tracker)

private theorem state_forM_register (channels : List Channel) (listener : Listener) :
    (channels.forM (register · listener) : Act Tracker Unit).state t =
      { t with listeners := t.listeners ++ places listener channels } := by
  induction channels generalizing t with
  | nil => simp [places]
  | cons channel rest ih =>
    refine (ih ((register channel listener).state t)).trans ?_
    simp [register, Listeners.register, places]

private theorem state_releaseAll (held : List Channel) :
    (Subscription.releaseAll (unregister · .tracker) held).state t =
      { t with listeners := t.listeners.diff (places .tracker held) } := by
  induction held generalizing t with
  | nil => simp [Subscription.releaseAll, places]
  | cons channel rest ih =>
    refine (ih ((unregister channel .tracker).state t)).trans ?_
    simp [unregister, Listeners.remove, places]

/-- A tracker that runs goes on. -/
theorem state_start_of_some {number : Nat} (h : t.current = some number) :
    (start policy).state t = t := by
  rw [start, Act.state_get_bind, h]
  rfl

/-- A tracker that is started registers on its channels, and its new subscription holds them. -/
theorem state_start_of_none (h : t.current = none) :
    (start policy).state t =
      { t with
        listeners := t.listeners ++ places .tracker (channels policy)
        subscriptions := t.subscriptions ++ [{ held := (channels policy).reverse }]
        current := some t.subscriptions.length } := by
  rw [start, Act.state_get_bind, h]
  simp only [Act.state_bind, state_forM_register, Act.state_modify, Act.state_report,
    Act.state_pure]

/-- Nothing is left to stop. -/
theorem state_stop_of_none (h : t.current = none) : stop.state t = t := by
  rw [stop, Act.state_get_bind, h]
  rfl

/-- Closing an open subscription removes the registrations that it holds. -/
theorem state_closeSubscription_of_open {number : Nat} {held : List Channel}
    (hs : t.subscriptions[number]? = some ⟨held, false⟩) :
    (closeSubscription number).state t =
      { t with
        listeners := t.listeners.diff (places .tracker held)
        subscriptions := t.subscriptions.set number ⟨[], true⟩ } := by
  rw [closeSubscription, Act.state_get_bind, hs]
  simp only [Act.state_bind, Subscription.close, Bool.false_eq_true, if_false, Act.value_bind,
    Act.value_pure, Act.state_pure, state_releaseAll, Act.state_modify]

/-- A tracker that is stopped closes its subscription, and forgets what was deferred. -/
theorem state_stop_eq {number : Nat} (h : t.current = some number) :
    stop.state t = { (closeSubscription number).state t with current := none, deferred := {} } := by
  rw [stop, Act.state_get_bind, h]
  simp only [Act.state_bind, Act.state_modify, Act.state_report]

/-- A tracker that is stopped releases what its subscription holds, and forgets what was
deferred. -/
theorem state_stop_of_some {number : Nat} {held : List Channel} (h : t.current = some number)
    (hs : t.subscriptions[number]? = some ⟨held, false⟩) :
    stop.state t =
      { deferred := {}
        listeners := t.listeners.diff (places .tracker held)
        subscriptions := t.subscriptions.set number ⟨[], true⟩
        current := none } := by
  rw [state_stop_eq t h, state_closeSubscription_of_open t hs]

end Acts

/-- A tracker is registered for all that its open subscription holds, or nowhere. -/
structure Sound (t : Tracker) : Prop where
  running : ∀ number, t.current = some number → ∃ held,
    t.subscriptions[number]? = some ⟨held, false⟩ ∧
      ∀ channel, t.listeners.count (channel, .tracker) = held.count channel
  stopped : t.current = none → ∀ channel, t.listeners.count (channel, .tracker) = 0

namespace Sound

theorem initial : Sound {} := ⟨by simp, by simp⟩

variable {t : Tracker}

/-- Starting a tracker makes it run. -/
theorem start (policy : TrackingPolicy) (h : t.Sound) : ((start policy).state t).Sound := by
  cases hc : t.current with
  | some number => rwa [state_start_of_some policy t hc]
  | none =>
    rw [state_start_of_none policy t hc]
    refine ⟨?_, nofun⟩
    intro number hn
    obtain rfl := Option.some_inj.mp hn
    refine ⟨(channels policy).reverse, List.getElem?_concat_length, ?_⟩
    intro channel
    rw [List.count_append, h.stopped hc, Nat.zero_add, count_places, List.count_reverse]

/-- Stopping a tracker removes its registrations. -/
theorem stop (h : t.Sound) : (stop.state t).Sound := by
  cases hc : t.current with
  | none => rwa [state_stop_of_none t hc]
  | some number =>
    obtain ⟨held, hs, hcount⟩ := h.running number hc
    rw [state_stop_of_some t hc hs]
    refine ⟨nofun, ?_⟩
    intro _ channel
    rw [List.count_diff, hcount, count_places, Nat.sub_self]

/-- What is deferred has no part in the registrations. -/
theorem onDeferred {α : Type} (act : Act Deferred α) (h : t.Sound) :
    ((onDeferred act).state t).Sound := ⟨h.running, h.stopped⟩

/-- A tracker that does not run is told of nothing. -/
theorem not_mem_on (h : t.Sound) (hc : t.current = none) (channel : Channel) :
    .tracker ∉ t.listeners.on channel := by
  have hz := List.count_eq_zero.mp (h.stopped hc channel)
  intro hm
  obtain ⟨⟨other, listener⟩, hentry, hon⟩ := List.mem_filterMap.mp hm
  by_cases ho : other = channel
  · rw [if_pos ho] at hon
    obtain rfl := Option.some_inj.mp hon
    exact hz (ho ▸ hentry)
  · rw [if_neg ho] at hon
    cases hon

end Sound

/-- A tracker that was stopped does not run. -/
theorem Sound.current_stop (t : Tracker) (h : t.Sound) : (Tracker.stop.state t).current = none := by
  cases hc : t.current with
  | none => rw [state_stop_of_none t hc, hc]
  | some number =>
    obtain ⟨held, hs, _⟩ := h.running number hc
    rw [state_stop_of_some t hc hs]

/-- A tracker that ran has forgotten what was deferred when it was stopped. -/
theorem Sound.deferred_stop (t : Tracker) (h : t.Sound) (hc : t.current ≠ none) :
    (Tracker.stop.state t).deferred = {} := by
  obtain ⟨number, hn⟩ := Option.ne_none_iff_exists'.mp hc
  obtain ⟨held, hs, _⟩ := h.running number hn
  rw [state_stop_of_some t hn hs]

end Tracker

end BreakageAdvisor
