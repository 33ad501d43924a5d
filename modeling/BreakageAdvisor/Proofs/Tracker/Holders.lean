import BreakageAdvisor.Proofs.Tracker
import Mathlib.Data.List.Induction

/-!
# Who holds the subscription of the tracker

A start gives its subscription away, and whoever holds it can close it. The tracker is not told, and
counts as running until it is stopped. So a tracker that runs listens on its channels, and one that
does not run listens on none, exactly as long as nobody else closes the subscription in use.
-/

namespace BreakageAdvisor

namespace Tracker

/-- What is done with a tracker. -/
inductive Use where
  | start
  | stop
  /-- The subscription that a start gave is closed by one who holds it. -/
  | close (number : Nat)
  deriving DecidableEq

variable (policy : TrackingPolicy)

/-- Uses a tracker. -/
def use : Use → Act Tracker Unit
  | .start => do let _ ← start policy
  | .stop => stop
  | .close number => closeSubscription number

/-- A tracker that was used from its making on. -/
def used (uses : List Use) : Tracker := uses.foldl (fun t u => (use policy u).state t) {}

private theorem used_concat (uses : List Use) (u : Use) :
    used policy (uses ++ [u]) = (use policy u).state (used policy uses) := by
  simp [used]

/-- A tracker is registered once on each of its channels if it runs, and nowhere otherwise. -/
def Listens (t : Tracker) : Prop :=
  ∀ channel, t.listeners.count (channel, .tracker) =
    if t.running ∧ channel ∈ channels policy then 1 else 0

/-- The subscription in use was closed by one who holds it, and the tracker was not stopped
since. -/
def Severed (uses : List Use) : Prop :=
  ∃ past number rest, uses = past ++ .close number :: rest ∧
    (used policy past).current = some number ∧ .stop ∉ rest

/-- At most one subscription is open, and it holds all registrations of the tracker. -/
structure Holding (t : Tracker) (opened : Option Nat) : Prop where
  subscription : ∀ number s, t.subscriptions[number]? = some s →
    s = if opened = some number then ⟨(channels policy).reverse, false⟩ else ⟨[], true⟩
  made : ∀ number ∈ opened, number < t.subscriptions.length
  count : ∀ channel, t.listeners.count (channel, .tracker) =
    if opened.isSome then (channels policy).count channel else 0

private theorem state_closeSubscription_of_closed {t : Tracker} {number : Nat}
    {s : Subscription Channel} (hs : t.subscriptions[number]? = some s) (hc : s.closed = true) :
    (closeSubscription number).state t = t := by
  have hset : t.subscriptions.set number s = t.subscriptions := by
    obtain ⟨hlt, rfl⟩ := List.getElem?_eq_some_iff.mp hs
    exact List.set_getElem_self hlt
  rw [closeSubscription, Act.state_get_bind, hs]
  simp only [Act.state_bind, Subscription.close, hc, if_true, Act.value_pure, Act.state_pure,
    Act.state_modify, hset]

namespace Holding

variable {policy : TrackingPolicy} {t : Tracker} {number : Nat}

theorem initial : Holding policy {} none := ⟨by simp, by simp, by simp⟩

/-- A tracker that starts opens a subscription with all its registrations. -/
theorem start (h : Holding policy t none) (hc : t.current = none) :
    Holding policy ((start policy).state t) (some t.subscriptions.length) := by
  rw [state_start_of_none policy t hc]
  refine ⟨?_, ?_, ?_⟩
  · intro number s hs
    rw [List.getElem?_append] at hs
    split at hs
    · next hlt =>
      have hne : some t.subscriptions.length ≠ some number := fun he => by
        rw [Option.some.injEq] at he
        omega
      rw [if_neg hne]
      simpa using h.subscription number s hs
    · next hge =>
      obtain ⟨hlt, rfl⟩ := List.getElem?_eq_some_iff.mp hs
      have he : t.subscriptions.length = number := by
        rw [List.length_singleton] at hlt
        omega
      rw [if_pos (congrArg some he), List.getElem_singleton]
  · intro number hn
    cases hn
    simp
  · intro channel
    rw [List.count_append, h.count, count_places]
    simp

/-- Closing the open subscription removes all registrations of the tracker. -/
theorem close (h : Holding policy t (some number)) :
    Holding policy ((closeSubscription number).state t) none := by
  have hlt := h.made number rfl
  have hs : t.subscriptions[number]? = some ⟨(channels policy).reverse, false⟩ := by
    have hopen := h.subscription number _ (List.getElem?_eq_getElem hlt)
    rw [if_pos rfl] at hopen
    rw [List.getElem?_eq_getElem hlt, hopen]
  rw [state_closeSubscription_of_open t hs]
  refine ⟨?_, nofun, ?_⟩
  · intro other s hother
    by_cases he : number = other
    · subst he
      rw [List.getElem?_set_self hlt] at hother
      exact (Option.some.inj hother).symm
    · rw [List.getElem?_set_ne he] at hother
      have hne : some number ≠ some other := fun hn => he (Option.some.inj hn)
      exact (h.subscription other s hother).trans (if_neg hne)
  · intro channel
    rw [List.count_diff, h.count, count_places, List.count_reverse]
    exact Nat.sub_self _

private theorem state_close_of_ne {opened : Option Nat} (h : Holding policy t opened)
    (hne : opened ≠ some number) : (closeSubscription number).state t = t := by
  cases hs : t.subscriptions[number]? with
  | none =>
    rw [closeSubscription, Act.state_get_bind, hs]
    rfl
  | some s =>
    have hclosed := h.subscription number s hs
    rw [if_neg hne] at hclosed
    exact state_closeSubscription_of_closed hs (congrArg (·.closed) hclosed)

private theorem forget {opened : Option Nat} (h : Holding policy t opened) :
    Holding policy { t with current := none, deferred := {} } opened :=
  ⟨h.subscription, h.made, h.count⟩

end Holding

/-- Closing a subscription leaves the tracker with the one that it has in use. -/
@[simp]
theorem current_closeSubscription (t : Tracker) (number : Nat) :
    ((closeSubscription number).state t).current = t.current := by
  rcases hs : t.subscriptions[number]? with _ | ⟨held, _ | _⟩
  · rw [closeSubscription, Act.state_get_bind, hs]
    rfl
  · rw [state_closeSubscription_of_open t hs]
  · rw [state_closeSubscription_of_closed hs rfl]

/-- The subscription in use is the open one, or it was closed and none is open. -/
structure Standing (severed : Prop) (t : Tracker) : Prop where
  whole : ¬severed → Holding policy t t.current
  cut : severed → t.running ∧ Holding policy t none

namespace Standing

variable {policy : TrackingPolicy} {t : Tracker} {severed : Prop} {number : Nat}

/-- A tracker that runs goes on, whether it is severed or not. -/
theorem start (h : Standing policy severed t) :
    Standing policy severed ((start policy).state t) := by
  cases hc : t.current with
  | some number => rwa [state_start_of_some policy t hc]
  | none =>
    refine ⟨fun hs => ?_, fun hs => ?_⟩
    · have hw := h.whole hs
      rw [hc] at hw
      simpa only [state_start_of_none policy t hc] using hw.start hc
    · have hr := (h.cut hs).1
      rw [running, hc] at hr
      cases hr

/-- Stopping leaves no subscription open, and none in use. -/
theorem stop (h : Standing policy severed t) : Standing policy False (stop.state t) := by
  refine ⟨fun _ => ?_, False.elim⟩
  cases hc : t.current with
  | none =>
    have hs : ¬severed := fun hs => by
      have hr := (h.cut hs).1
      rw [running, hc] at hr
      cases hr
    rw [state_stop_of_none t hc]
    exact h.whole hs
  | some number =>
    rw [state_stop_eq t hc]
    by_cases hs : severed
    · have hn := (h.cut hs).2
      rw [hn.state_close_of_ne nofun]
      exact hn.forget
    · have hw := h.whole hs
      rw [hc] at hw
      exact hw.close.forget

/-- Closing the subscription in use severs the tracker from it. -/
theorem close (h : Standing policy severed t) (hc : t.current = some number) :
    Standing policy True ((closeSubscription number).state t) := by
  refine ⟨fun hs => absurd trivial hs, fun _ => ⟨?_, ?_⟩⟩
  · rw [running, current_closeSubscription, hc]
    rfl
  · by_cases hs : severed
    · have hn := (h.cut hs).2
      rwa [hn.state_close_of_ne nofun]
    · have hw := h.whole hs
      rw [hc] at hw
      exact hw.close

private theorem state_close_of_ne (h : Standing policy severed t) (hc : t.current ≠ some number) :
    (closeSubscription number).state t = t := by
  by_cases hs : severed
  · exact (h.cut hs).2.state_close_of_ne nofun
  · exact (h.whole hs).state_close_of_ne hc

private theorem listens_iff (h : Standing policy severed t) : Listens policy t ↔ ¬severed := by
  constructor
  · intro hl hs
    have hcut := h.cut hs
    have hzero := hcut.2.count .tabUpdated
    have hone := hl .tabUpdated
    rw [if_pos ⟨hcut.1, by simp [channels]⟩, hzero] at hone
    cases hone
  · intro hs channel
    rw [(h.whole hs).count, count_channels, ← ite_and]
    rfl

end Standing

section Runs

variable (uses : List Use) (u : Use)

private theorem severed_concat :
    Severed policy (uses ++ [u]) ↔
      (Severed policy uses ∧ u ≠ .stop) ∨
        ∃ number, u = .close number ∧ (used policy uses).current = some number := by
  constructor
  · rintro ⟨past, number, rest, he, hcurrent, hstop⟩
    rcases List.eq_nil_or_concat rest with rfl | ⟨front, last, rfl⟩
    · obtain ⟨rfl, hu⟩ := List.append_inj' he rfl
      exact .inr ⟨number, List.singleton_inj.mp hu, hcurrent⟩
    · rw [List.concat_eq_append] at he hstop
      rw [← List.cons_append, ← List.append_assoc] at he
      obtain ⟨rfl, hu⟩ := List.append_inj' he rfl
      obtain rfl := List.singleton_inj.mp hu
      rw [List.mem_append, not_or] at hstop
      exact .inl ⟨⟨past, number, front, rfl, hcurrent, hstop.1⟩,
        fun hu => hstop.2 (List.mem_singleton.mpr hu.symm)⟩
  · rintro (⟨⟨past, number, rest, rfl, hcurrent, hstop⟩, hu⟩ | ⟨number, rfl, hcurrent⟩)
    · refine ⟨past, number, rest ++ [u], by simp, hcurrent, ?_⟩
      rw [List.mem_append, not_or]
      exact ⟨hstop, fun hm => hu (List.mem_singleton.mp hm).symm⟩
    · exact ⟨uses, number, [], rfl, hcurrent, List.not_mem_nil⟩

/-- A use of the tracker severs it exactly if it closes the subscription in use. -/
theorem Standing.use (h : Standing policy (Severed policy uses) (used policy uses)) :
    Standing policy (Severed policy (uses ++ [u])) (used policy (uses ++ [u])) := by
  rw [used_concat]
  -- Which uses sever is said by `severed_concat`; what each does to the state, by its own lemma.
  cases u with
  | start =>
    have hiff : Severed policy (uses ++ [.start]) ↔ Severed policy uses := by
      simp [severed_concat]
    rw [propext hiff]
    exact h.start
  | stop =>
    have hiff : Severed policy (uses ++ [.stop]) ↔ False := by simp [severed_concat]
    rw [propext hiff]
    exact h.stop
  | close number =>
    by_cases hc : (used policy uses).current = some number
    · have hiff : Severed policy (uses ++ [.close number]) ↔ True := by
        simp [severed_concat, hc]
      rw [propext hiff]
      exact h.close hc
    · have hiff : Severed policy (uses ++ [.close number]) ↔ Severed policy uses := by
        simp [severed_concat, hc]
      rw [propext hiff, Tracker.use, h.state_close_of_ne hc]
      exact h

private theorem standing_used : Standing policy (Severed policy uses) (used policy uses) := by
  induction uses using List.reverseRecOn with
  | nil => exact ⟨fun _ => Holding.initial, fun ⟨_, _, _, he, _⟩ => by simp at he⟩
  | append_singleton uses u ih => exact ih.use policy uses u

/-- A tracker that runs listens on its channels, and one that does not run listens on none,
exactly if no holder closed the subscription in use since the last stop. A start then makes the
tracker listen. A tracker that is severed counts as running but is registered nowhere, and starting
it again does nothing. -/
theorem listens_iff_not_severed :
    (Listens policy (used policy uses) ↔ ¬Severed policy uses) ∧
      (used policy (uses ++ [.start])).running ∧
      (Listens policy (used policy (uses ++ [.start])) ↔ ¬Severed policy uses) ∧
      (Severed policy uses →
        (used policy uses).running ∧
          (∀ channel, (used policy uses).listeners.count (channel, .tracker) = 0) ∧
          used policy (uses ++ [.start]) = used policy uses) := by
  have h := standing_used policy uses
  have hstart : used policy (uses ++ [.start]) = (start policy).state (used policy uses) :=
    used_concat policy uses .start
  rw [hstart]
  refine ⟨h.listens_iff, ?_, h.start.listens_iff, ?_⟩
  · cases hc : (used policy uses).current with
    | none =>
      rw [state_start_of_none policy _ hc]
      rfl
    | some number =>
      rw [state_start_of_some policy _ hc, running, hc]
      rfl
  · intro hs
    obtain ⟨hrunning, hnone⟩ := h.cut hs
    obtain ⟨number, hc⟩ := Option.isSome_iff_exists.mp hrunning
    exact ⟨hrunning, hnone.count, state_start_of_some policy _ hc⟩

end Runs

/-- A holder closes the subscription of a start: the tracker counts as running and is registered
nowhere, also after another start. -/
theorem runs_unregistered :
    (used {} [.start, .close 0]).running = true ∧
      (used {} [.start, .close 0]).listeners = [] ∧
      (used {} [.start, .close 0, .start]).running = true ∧
      (used {} [.start, .close 0, .start]).listeners = [] ∧
      ¬Listens {} (used {} [.start, .close 0]) ∧
      ¬Listens {} (used {} [.start, .close 0, .start]) :=
  ⟨rfl, rfl, rfl, rfl, fun h => absurd (h .tabUpdated) (by decide),
    fun h => absurd (h .tabUpdated) (by decide)⟩

end Tracker

end BreakageAdvisor
