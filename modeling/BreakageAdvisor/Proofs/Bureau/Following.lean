import BreakageAdvisor.Proofs.Bureau.Release

/-!
# Tracking follows the feature

The browser says at any time whether the feature is active. The activator looks at that once, when
its start is completed, and is told of every change after that. Handlers of the feature begin in the
order in which they were told. When all of them have begun, the tracker runs if and only if the
feature was last said to be active, and it is registered once on each of its channels.
-/

namespace BreakageAdvisor

/-- What a message says of the feature, if it says anything. -/
def Inbound.said? : Inbound → Option Bool
  | hello active => some active
  | feature active => some active
  | _ => none

/-- What the fields of a message report of the feature: `hello` has a field for that, and
`featureActivated` another. -/
def reported? (message : Fields) : Option Bool :=
  if Inbound.typeOf message = "hello" then some (Fields.getD message "featureActive").truthy
  else if Inbound.typeOf message = "featureActivated" then
    some (Fields.getD message "enabled").truthy
  else none

namespace Inbound

private theorem said?_map {α : Type} {f : α → Inbound} (hf : ∀ a, (f a).said? = none)
    (read : Except Failure α) : (read.map f).toOption.bind (·.said?) = none := by
  cases read with
  | error cause => rfl
  | ok a => exact hf a

private theorem said?_replyOf (message : Fields) :
    (replyOf message).toOption.bind (·.said?) = none := by
  simp only [replyOf]
  split
  · rfl
  · split <;> rfl

private theorem said?_catalogOf (message : Fields) : (catalogOf message).said? = none := by
  simp only [catalogOf]
  split
  · rfl
  · split <;> rfl

private theorem said?_tabActivatedOf (message : Fields) :
    (tabActivatedOf message).toOption.bind (·.said?) = none := by
  rw [tabActivatedOf]
  split
  · rfl
  · exact said?_map (fun _ => rfl) _

private theorem said?_ofFields (message : Fields) :
    (ofFields message).toOption.bind (·.said?) = reported? message := by
  rw [ofFields, reported?]
  by_cases hhello : typeOf message = "hello"
  · rw [hhello]
    rfl
  by_cases hfeature : typeOf message = "featureActivated"
  · rw [hfeature]
    rfl
  rw [if_neg hhello, if_neg hfeature]
  simp only [if_neg hhello, if_neg hfeature]
  split
  · exact said?_replyOf message
  split
  · exact said?_map (f := fun tab => tabUpdated ⟨tab, _, _⟩) (fun _ => rfl) _
  split
  · exact said?_tabActivatedOf message
  split
  · exact said?_map (f := fun tab => request ⟨tab, _, _⟩) (fun _ => rfl) _
  split
  · exact said?_catalogOf message
  split <;> rfl

end Inbound

/-- What an event says of the feature, if it says anything. -/
def Event.said? : Event → Option Bool
  | activation enabled => some enabled
  | _ => none

private theorem Event.said?_eq_some_iff {event : Event} {enabled : Bool} :
    event.said? = some enabled ↔ event = .activation enabled := by
  cases event <;> simp [said?]

private theorem Bridge.said_receive (inbound : Inbound) (bridge : Bridge) :
    ((receive inbound).state bridge).active = inbound.said?.getD bridge.active ∧
      ∀ event?, (receive inbound).value bridge = .ok event? →
        event?.bind (·.said?) = inbound.said? := by
  have hok {event event? : Option Event} (h : Except.ok (ε := Failure) event = .ok event?) :
      event?.bind (·.said?) = event.bind (·.said?) := by
    cases h
    rfl
  cases inbound with
  | catalog trigger entries =>
    cases entries with
    | none => exact ⟨rfl, fun _ h => hok h⟩
    | some entries => exact ⟨rfl, fun _ h => hok h⟩
  | clearNotified =>
    simp only [receive, Act.state_bind, Act.value_bind]
    cases (onStore Store.clearNotified).value bridge with
    | none => exact ⟨rfl, nofun⟩
    | some count => exact ⟨rfl, fun _ h => hok h⟩
  | _ => exact ⟨rfl, fun _ h => hok h⟩

private theorem Bridge.said?_of_error {inbound : Inbound} {bridge : Bridge} {cause : Failure}
    (h : (receive inbound).value bridge = .error cause) : inbound.said? = none := by
  cases inbound with
  | hello active => cases h
  | feature active => cases h
  | _ => rfl

namespace Tracker

variable {policy : TrackingPolicy} {t : Tracker}

/-- A tracker that runs is registered once for every channel that it listens on. -/
def Enrolled (policy : TrackingPolicy) (t : Tracker) : Prop :=
  ∀ channel, t.listeners.count (channel, .tracker) =
    if t.running then (channels policy).count channel else 0

theorem Enrolled.initial : Enrolled policy {} := fun _ => rfl

/-- Registrations of the activator are no matter of the tracker. -/
theorem Enrolled.of_count {t' : Tracker} (h : t.Enrolled policy) (hr : t'.running = t.running)
    (hl : ∀ channel, t'.listeners.count (channel, .tracker) =
      t.listeners.count (channel, .tracker)) : t'.Enrolled policy := by
  intro channel
  rw [hl, hr]
  exact h channel

/-- A tracker that is started is registered for its channels. -/
theorem Enrolled.start (h : t.Enrolled policy) : ((start policy).state t).Enrolled policy := by
  intro channel
  rw [running_start, if_pos rfl]
  cases hc : t.current with
  | some number =>
    rw [state_start_of_some policy t hc, h, running, hc]
    rfl
  | none =>
    have hzero := h channel
    rw [running, hc] at hzero
    rw [state_start_of_none policy t hc, List.count_append, hzero, count_places]
    exact Nat.zero_add _

private theorem enrolled_stop (h : t.Sound) : (stop.state t).Enrolled policy := by
  intro channel
  rw [running, Sound.current_stop t h]
  exact h.stop.stopped (Sound.current_stop t h) channel

end Tracker

namespace Activator

variable {policy : TrackingPolicy} {a : Activator}

private theorem enrolled_listen (h : a.Sound) (he : a.tracker.Enrolled policy) {number : Nat}
    (hn : number < a.subscriptions.length) (channel : Channel) :
    ((listen number channel).state a).tracker.Enrolled policy := by
  have hs : a.subscriptions[number]? = some a.subscriptions[number] := List.getElem?_eq_getElem hn
  refine he.of_count (congrArg (·.1.isSome) (keeps_listen number channel a)) fun c => ?_
  by_cases hc : a.current = some number
  · obtain ⟨held, hopen, -⟩ := h.running number hc
    rw [state_listen_of_open a channel hopen]
    exact Listeners.count_concat_tracker a.tracker.listeners channel c
  · rw [state_listen_of_closed a channel (h.closed number _ hs hc ▸ hs)]
    rw [Listeners.count_erase_tracker, Listeners.count_concat_tracker]

private theorem enrolled_complete (h : a.Sound) (he : a.tracker.Enrolled policy) (feature : Feature)
    {number : Nat} (hn : number < a.subscriptions.length) :
    ((complete policy feature number).state a).tracker.Enrolled policy := by
  have hcatalog := enrolled_listen h he hn .catalog
  have hsound := h.listen hn .catalog
  have hlength : number < ((listen number .catalog).state a).subscriptions.length :=
    Nat.lt_of_lt_of_eq hn (congrArg (·.2.2) (keeps_listen number .catalog a)).symm
  rw [state_complete]
  split
  · exact hcatalog.start
  split
  · exact enrolled_listen (hsound.startTracker policy) hcatalog.start hlength .activation
  · exact enrolled_listen hsound hcatalog hlength .activation

private theorem enrolled_activationChanged (h : a.Sound) (he : a.tracker.Enrolled policy)
    (enabled : Bool) :
    ((activationChanged policy enabled).state a).tracker.Enrolled policy := by
  cases enabled with
  | true => exact he.start
  | false => exact Tracker.enrolled_stop h.tracker

private theorem Sound.count_activation_complete (h : a.Sound) (policy : TrackingPolicy)
    {feature : Feature}
    (hm : feature.testMode = false) {number : Nat} (hn : number < a.subscriptions.length) :
    ((Activator.complete policy feature number).state a).tracker.listeners.count
        (.activation, .activator) =
      a.tracker.listeners.count (.activation, .activator) +
        if a.current = some number then 1 else 0 := by
  have hcatalog := h.listen hn .catalog
  have hkept := keeps_listen number .catalog a
  have hcount := h.count_listen hn .catalog .activation
  have hlength : number < ((Activator.listen number .catalog).state a).subscriptions.length :=
    Nat.lt_of_lt_of_eq hn (congrArg (·.2.2) hkept).symm
  have hcurrent : ((Activator.listen number .catalog).state a).current = a.current :=
    congrArg (·.2.1) hkept
  simp only [reduceCtorEq, and_false, if_false, Nat.add_zero] at hcount
  rw [state_complete, hm, ← hcount, ← hcurrent]
  simp only [Bool.false_eq_true, if_false]
  split
  · rw [(hcatalog.startTracker policy).count_listen hlength .activation .activation]
    simp only [and_true]
    exact congrArg (· + _) (Tracker.count_start .activation policy _)
  · rw [hcatalog.count_listen hlength .activation .activation]
    simp only [and_true]

end Activator

private theorem getLastD_append {α : Type} (l l' : List α) (a : α) :
    (l ++ l').getLastD a = l'.getLastD (l.getLastD a) := by
  cases l' with
  | nil => rw [List.append_nil, List.getLastD_nil]
  | cons b l' => simp [List.getLastD_eq_getLast?, List.getLast?_append]

private theorem getLastD_of_append {α : Type} {l l' : List α} {a : α}
    (h : (l ++ l').getLastD a = a) :
    l'.getLastD a = a := by
  cases l' with
  | nil => rfl
  | cons b l' => rwa [getLastD_append] at h

private theorem getLastD_self {α : Type} {l : List α} {a b : α} (h : l.getLastD a = b) :
    l.getLastD b = b := by
  cases l with
  | nil => rfl
  | cons c l => exact h

private theorem getLastD_map_const {α β : Type} {l : List β} (h : l ≠ []) (a b : α) :
    (l.map fun _ => a).getLastD b = a := by
  induction l generalizing b with
  | nil => exact absurd rfl h
  | cons c l ih =>
    cases l with
    | nil => rfl
    | cons d l => exact ih (List.cons_ne_nil d l) a

namespace Bureau

/-- The message that a step carries out. -/
def Step.inbound? : Step → Option Inbound
  | received inbound => some inbound
  | _ => none

/-- What a step says of the feature, if it says anything. -/
def Step.said? : Step → Option Bool
  | received inbound => inbound.said?
  | _ => none

/-- Whether the feature was last said to be active. -/
def lastSaid (first : Bool) (steps : List Step) : Bool :=
  (steps.filterMap (·.said?)).getLastD first

/-- The messages that are carried out are those that could be read. -/
def Conveys (messages : List Fields) (steps : List Step) : Prop :=
  steps.filterMap (·.inbound?) = messages.filterMap fun message =>
    (Inbound.ofFields message).toOption

private theorem Conveys.lastSaid {messages : List Fields} {steps : List Step}
    (h : Conveys messages steps)
    (first : Bool) : lastSaid first steps = (messages.filterMap reported?).getLastD first := by
  have hsteps : steps.filterMap (·.said?) =
      (steps.filterMap (·.inbound?)).filterMap (·.said?) := by
    rw [List.filterMap_filterMap]
    refine congrArg (List.filterMap · steps) (funext fun s => ?_)
    cases s <;> rfl
  rw [Bureau.lastSaid, hsteps, h, List.filterMap_filterMap]
  simp only [Inbound.said?_ofFields]

/-- Handlers begin in the order in which the listeners were told. -/
def InOrder (steps : List Step) : Prop := ∀ place, .began place ∈ steps → place = 0

/-- The activator listens to changes of the feature. -/
def Listens (b : Bureau) : Prop :=
  0 < b.activator.tracker.listeners.count (.activation, .activator)

/-- What some events say of the feature, one after the other. -/
def said (events : List Event) : List Bool := events.filterMap (·.said?)

private theorem said_append (events others : List Event) :
    said (events ++ others) = said events ++ said others := List.filterMap_append

private theorem said_cons (event : Event) (events : List Event) :
    said (event :: events) = event.said?.toList ++ said events := by
  rw [said, List.filterMap_cons]
  cases event.said? <;> rfl

/-- Whether the tracker runs when all handlers of the feature have begun, those included that are
yet to be told. -/
def outcome (b : Bureau) : Bool :=
  (said (b.ready ++ b.due)).getLastD b.activator.tracker.running

/-- The tracker follows the feature: what was said last is due, is going to be handled, or is the
case. Before the activator listens nothing was heeded. -/
structure Follows (b : Bureau) : Prop where
  enrolled : b.activator.tracker.Enrolled b.host.policy.tracking
  pending : ∀ n ∈ b.starts, b.activator.current = some n
  listens : ∀ n, b.activator.current = some n → n ∈ b.starts ∨ b.Listens
  due : (said b.due).getLastD b.host.active = b.host.active
  quiet : ¬ b.Listens → b.activator.tracker.running = false ∧ said b.ready = []
  follows : b.Listens → b.outcome = b.host.active

private theorem follows_opened (host : Host) : (opened host).Follows where
  enrolled := .initial
  pending := nofun
  listens := nofun
  due := rfl
  quiet _ := ⟨rfl, rfl⟩
  follows := nofun

section Steps

variable {b : Bureau} {s : Step}

private theorem said_receive (b : Bureau) (inbound : Inbound) :
    (b.receive inbound).host.active = inbound.said?.getD b.host.active ∧
      said (b.receive inbound).due = said b.due ++ inbound.said?.toList := by
  let bridge : Bridge := ⟨b.host.active, b.host.advisor.ledger.store, b.host.preferences⟩
  obtain ⟨hactive, hevent⟩ := Bridge.said_receive inbound bridge
  refine ⟨hactive, ?_⟩
  rw [receive, said_append]
  have hon : (Host.onBridge (Bridge.receive inbound)).value b.host =
      (Bridge.receive inbound).value bridge := rfl
  rw [hon]
  cases hv : (Bridge.receive inbound).value bridge with
  | error cause =>
    rw [Bridge.said?_of_error hv]
    rfl
  | ok event? =>
    rw [← hevent event? hv]
    cases event? with
    | none => rfl
    | some event =>
      refine congrArg (said b.due ++ ·) ((said_cons event []).trans ?_)
      exact List.append_nil _

private theorem said?_of_ne (hs : ∀ inbound, s ≠ .received inbound) : s.said? = none := by
  cases s with
  | received inbound => exact absurd rfl (hs inbound)
  | _ => rfl

private theorem active_step (b : Bureau) (s : Step) :
    (b.step s).host.active = s.said?.getD b.host.active := by
  by_cases hs : ∃ inbound, s = .received inbound
  · obtain ⟨inbound, rfl⟩ := hs
    exact (said_receive b inbound).1
  · have hne : ∀ inbound, s ≠ .received inbound := fun inbound he => hs ⟨inbound, he⟩
    obtain ⟨advisor, hadvisor⟩ := host_step b hne
    rw [hadvisor, said?_of_ne hne]
    rfl

private theorem said_map {listeners : List Listener} {event : Event} :
    said (listeners.map fun _ => event) =
      event.said?.elim [] fun enabled => listeners.map fun _ => enabled := by
  induction listeners with
  | nil => cases event.said? <;> rfl
  | cons listener rest ih =>
    rw [List.map_cons, said_cons, ih]
    cases event.said? <;> rfl

private theorem said_told (h : b.Listens) (event : Event) (first : Bool) :
    (said ((b.host.listenersOf event).map fun _ => event)).getLastD first =
      event.said?.getD first := by
  rw [said_map]
  cases hs : event.said? with
  | none => rfl
  | some enabled =>
    obtain rfl := Event.said?_eq_some_iff.mp hs
    refine getLastD_map_const ?_ enabled first
    have hm := List.count_pos_iff.mp h
    exact List.ne_nil_of_mem (List.mem_filterMap.mpr ⟨_, hm, if_pos rfl⟩)

/-- Nobody is told anything of the feature if the activator does not listen and the tracker does not
run. -/
private theorem said_told_of_quiet (he : b.activator.tracker.Enrolled b.host.policy.tracking)
    (h : ¬ b.Listens) (hr : b.activator.tracker.running = false) (event : Event) :
    said ((b.host.listenersOf event).map fun _ => event) = [] := by
  rw [said_map]
  cases hs : event.said? with
  | none => rfl
  | some enabled =>
    obtain rfl := Event.said?_eq_some_iff.mp hs
    refine List.map_eq_nil_iff.mpr (List.filterMap_eq_nil_iff.mpr ?_)
    rintro ⟨channel, listener⟩ hm
    refine if_neg fun hc => ?_
    obtain rfl : channel = .activation := hc
    cases listener with
    | activator => exact h (List.count_pos_iff.mpr hm)
    | tracker =>
      have hzero := he .activation
      rw [hr, if_neg Bool.false_ne_true] at hzero
      exact List.count_eq_zero.mp hzero hm

/-- Once it listens, the activator listens until it is stopped. -/
theorem Listens.step (h : b.Listens) (hr : b.Registered) (hm : b.host.testMode = false)
    (hs : s ≠ .stopped) : (b.step s).Listens := by
  unfold Listens at h ⊢
  cases effect_step b s with
  | idle _ _ ha _ _ => rwa [show (b.step s).activator.tracker.listeners = _ from
      congrArg (·.tracker.listeners) ha]
  | started _ ha _ =>
    rw [ha]
    cases hc : b.activator.current with
    | some number => rwa [(Activator.begin_of_some b.activator hc).2]
    | none => rwa [(Activator.begin_of_none b.activator hc).2]
  | stopped hs' _ _ => exact absurd hs' hs
  | completed number _ _ ha hn _ =>
    have hnumber := hr.starts number ((hn number).mpr (.inr rfl))
    rw [ha, hr.activator.count_activation_complete _ hm hnumber]
    exact Nat.add_pos_left h _
  | switched enabled _ _ _ ha _ _ => rwa [ha, hr.activator.count_activationChanged]

private theorem Follows.enrolled_step (h : b.Follows) (hr : b.Registered) (hs : s ≠ .stopped) :
    (b.step s).activator.tracker.Enrolled b.host.policy.tracking := by
  cases effect_step b s with
  | idle _ _ ha _ _ =>
    refine h.enrolled.of_count (congrArg (·.tracker.running) ha) fun channel => ?_
    exact congrArg (·.tracker.listeners.count (channel, .tracker)) ha
  | started _ ha _ =>
    rw [ha]
    cases hc : b.activator.current with
    | some number => rw [(Activator.begin_of_some b.activator hc).2]; exact h.enrolled
    | none => rw [(Activator.begin_of_none b.activator hc).2]; exact h.enrolled
  | stopped hs' _ _ => exact absurd hs' hs
  | completed number _ _ ha hn _ =>
    have hnumber := hr.starts number ((hn number).mpr (.inr rfl))
    rw [ha]
    exact Activator.enrolled_complete hr.activator h.enrolled _ hnumber
  | switched enabled _ _ _ ha _ _ =>
    rw [ha]
    exact Activator.enrolled_activationChanged hr.activator h.enrolled enabled

private theorem Follows.pending_step (h : b.Follows) (hs : s ≠ .stopped) (n : Nat)
    (hn : n ∈ (b.step s).starts) : (b.step s).activator.current = some n := by
  have hold (hne : s ≠ .started) (hm : n ∈ b.starts) :
      (b.step s).activator.current = some n :=
    (current_step hne hs).trans (h.pending n hm)
  cases effect_step b s with
  | idle hs' _ _ hiff _ => exact hold hs' ((hiff n).mp hn)
  | started hs' ha hiff =>
    rw [ha]
    cases hc : b.activator.current with
    | some number =>
      rw [(Activator.begin_of_some b.activator hc).2]
      exact h.pending n (((hiff n).mp hn).resolve_right fun he => nomatch hc.symm.trans he.1)
    | none =>
      rw [(Activator.begin_of_none b.activator hc).2]
      obtain hm | ⟨-, rfl⟩ := (hiff n).mp hn
      · exact nomatch hc.symm.trans (h.pending n hm)
      · rfl
  | stopped hs' _ _ => exact absurd hs' hs
  | completed number place hs' _ hiff _ =>
    exact hold (fun he => nomatch hs'.symm.trans he) ((hiff n).mpr (.inl hn))
  | switched enabled place hs' _ _ hiff _ =>
    exact hold (fun he => nomatch hs'.symm.trans he) ((hiff n).mp hn)

private theorem Follows.listens_completed (h : b.Follows) (hr : b.Registered)
    (hm : b.host.testMode = false) {number : Nat} (hn : number ∈ b.starts)
    (ha : (b.step s).activator = (Activator.complete b.host.policy.tracking
      ⟨b.host.testMode, b.host.active⟩ number).state b.activator) : (b.step s).Listens := by
  unfold Listens
  rw [ha, hr.activator.count_activation_complete _ hm (hr.starts number hn),
    if_pos (h.pending number hn)]
  exact Nat.succ_pos _

private theorem Follows.listens_step (h : b.Follows) (hr : b.Registered)
    (hm : b.host.testMode = false)
    (hs : s ≠ .stopped) (n : Nat) (hc : (b.step s).activator.current = some n) :
    n ∈ (b.step s).starts ∨ (b.step s).Listens := by
  have hold (hne : s ≠ .started) : n ∈ b.starts ∨ (b.step s).Listens :=
    (h.listens n ((current_step hne hs).symm.trans hc)).imp_right fun hl => hl.step hr hm hs
  cases effect_step b s with
  | idle hs' _ _ hiff _ => exact (hold hs').imp_left (hiff n).mpr
  | started hs' ha hiff =>
    rw [ha] at hc
    cases hcurrent : b.activator.current with
    | some number =>
      rw [(Activator.begin_of_some b.activator hcurrent).2] at hc
      exact (h.listens n hc).imp (fun hm' => (hiff n).mpr (.inl hm')) fun hl => hl.step hr hm hs
    | none =>
      rw [(Activator.begin_of_none b.activator hcurrent).2] at hc
      exact .inl ((hiff n).mpr (.inr ⟨hcurrent, (Option.some_inj.mp hc).symm⟩))
  | stopped hs' _ _ => exact absurd hs' hs
  | completed number _ _ ha hiff _ =>
    exact .inr (h.listens_completed hr hm ((hiff number).mpr (.inr rfl)) ha)
  | switched enabled place hs' _ _ hiff _ =>
    exact (hold fun he => nomatch hs'.symm.trans he).imp_left (hiff n).mpr

/-- What was said last of the feature is due, or is the case. -/
theorem Follows.due_step (h : b.Follows) :
    (said (b.step s).due).getLastD (b.step s).host.active = (b.step s).host.active := by
  cases flow_step b s with
  | received inbound _ hb =>
    obtain ⟨hactive, hdue⟩ := said_receive b inbound
    rw [hb, hactive, hdue, getLastD_append]
    cases inbound.said? with
    | none => exact h.due
    | some enabled => rfl
  | told event rest _ hd hb =>
    have hdue := h.due
    rw [hd, said_cons] at hdue
    rw [hb]
    exact getLastD_of_append hdue
  | began _ _ _ _ _ hd hh =>
    obtain ⟨advisor, hadvisor⟩ := hh
    rw [hd, hadvisor]
    exact h.due
  | inside _ _ _ hd hh =>
    obtain ⟨advisor, hadvisor⟩ := hh
    rw [hd, hadvisor]
    exact h.due

private theorem Follows.ready_step (h : b.Follows) (hl : ¬ b.Listens) :
    said (b.step s).ready = [] := by
  obtain ⟨hrunning, hready⟩ := h.quiet hl
  cases flow_step b s with
  | received inbound _ hb =>
    rw [hb]
    exact hready
  | told event rest _ _ hb =>
    rw [hb, said_append, hready, said_told_of_quiet h.enrolled hl hrunning]
    rfl
  | began place event _ _ hr _ _ =>
    rw [hr]
    exact List.eq_nil_of_sublist_nil (hready ▸ (List.eraseIdx_sublist b.ready place).filterMap _)
  | inside _ _ hr _ _ => rwa [hr]

private theorem Follows.quiet_step (h : b.Follows) (hr : b.Registered)
    (hm : b.host.testMode = false)
    (hs : s ≠ .stopped) (hl : ¬ (b.step s).Listens) :
    (b.step s).activator.tracker.running = false := by
  have hl' : ¬ b.Listens := fun hl' => hl (hl'.step hr hm hs)
  obtain ⟨hrunning, hready⟩ := h.quiet hl'
  cases effect_step b s with
  | idle _ _ ha _ _ => exact (congrArg (·.tracker.running) ha).trans hrunning
  | started _ ha _ =>
    rw [ha]
    cases hc : b.activator.current with
    | some number => rwa [(Activator.begin_of_some b.activator hc).2]
    | none => rwa [(Activator.begin_of_none b.activator hc).2]
  | stopped hs' _ _ => exact absurd hs' hs
  | completed number _ _ ha hn _ =>
    exact absurd (h.listens_completed hr hm ((hn number).mpr (.inr rfl)) ha) hl
  | switched enabled place _ hp _ _ _ =>
    have hnone := List.filterMap_eq_nil_iff.mp hready _ (List.mem_of_getElem? hp)
    cases hnone

private theorem Follows.outcome_first (h : b.Follows) (hr : b.Registered)
    (hm : b.host.testMode = false)
    (hs : s ≠ .stopped) (hl : ¬ b.Listens) (hl' : (b.step s).Listens) :
    (b.step s).outcome = (b.step s).host.active := by
  obtain ⟨hrunning, -⟩ := h.quiet hl
  have hsame (hcount : (b.step s).activator.tracker.listeners.count (.activation, .activator) =
      b.activator.tracker.listeners.count (.activation, .activator)) : False := by
    unfold Listens at hl hl'
    exact hl (hcount ▸ hl')
  cases effect_step b s with
  | idle _ _ ha _ _ =>
    exact (hsame (congrArg (·.tracker.listeners.count (.activation, .activator)) ha)).elim
  | started _ ha _ =>
    refine (hsame ?_).elim
    rw [ha]
    cases hc : b.activator.current with
    | some number => rw [(Activator.begin_of_some b.activator hc).2]
    | none => rw [(Activator.begin_of_none b.activator hc).2]
  | stopped hs' _ _ => exact absurd hs' hs
  | completed number place hs' _ _ hw =>
    have hswitched := hr.running_step s
    have hactive : (b.step s).host.active = b.host.active := by
      rw [active_step, hs']
      rfl
    rw [hw, hm, hrunning, ← hactive] at hswitched
    rw [outcome, said_append, h.ready_step hl, List.nil_append, hswitched]
    have hdue := h.due_step (s := s)
    cases ha : (b.step s).host.active <;> rwa [ha] at hdue
  | switched enabled _ _ _ ha _ _ =>
    refine (hsame ?_).elim
    rw [ha, hr.activator.count_activationChanged]

/-- A step apart from the events switches nothing off, but for a stop, and switches on only what is
active. -/
private theorem switch?_inside (hp : ∀ place, s = .began place → b.ready[place]? = none)
    (hm : b.host.testMode = false) (hs : s ≠ .stopped) :
    b.switch? s = none ∨ b.switch? s = some true ∧ b.host.active = true := by
  cases s with
  | stopped => exact absurd rfl hs
  | began place =>
    refine .inl ?_
    rw [switch?, hp place rfl]
  | resumed place =>
    rw [switch?, hm, Bool.false_or]
    cases b.host.active with
    | false => exact .inl (if_neg fun h => Bool.false_ne_true (Bool.and_eq_true_iff.mp h).2)
    | true =>
      cases (b.completes? place).isSome with
      | false => exact .inl rfl
      | true => exact .inr ⟨rfl, rfl⟩
  | _ => exact .inl rfl

private theorem Follows.outcome_step (h : b.Follows) (hr : b.Registered)
    (hm : b.host.testMode = false)
    (hs : s ≠ .stopped) (ho : ∀ place, s = .began place → place = 0) (hl : b.Listens) :
    (b.step s).outcome = (b.step s).host.active := by
  have hfollows := h.follows hl
  rw [outcome, hr.running_step]
  rw [outcome] at hfollows
  cases flow_step b s with
  | received inbound he hb =>
    subst he
    obtain ⟨hactive, hdue⟩ := said_receive b inbound
    rw [hb, hactive, said_append, hdue, ← List.append_assoc, ← said_append, getLastD_append]
    have hswitch : b.switch? (.received inbound) = none := rfl
    have hready : (b.receive inbound).ready = b.ready := rfl
    rw [hswitch, Option.getD_none, hready, hfollows]
    cases inbound.said? <;> rfl
  | told event rest he hd hb =>
    subst he
    rw [hd, said_append, said_cons, getLastD_append, getLastD_append] at hfollows
    rw [hb, said_append, said_append, getLastD_append, getLastD_append, said_told hl]
    refine Eq.trans ?_ hfollows
    cases event.said? <;> rfl
  | began place event he hp hready hd hh =>
    obtain rfl := ho place he
    obtain ⟨advisor, hadvisor⟩ := hh
    obtain ⟨rest, hrest⟩ := List.head?_eq_some_iff.mp (List.head?_eq_getElem? ▸ hp)
    have hswitch : b.switch? s = event.said? := by
      rw [he, switch?, hp]
      cases event <;> rfl
    rw [hrest, List.cons_append, said_cons, getLastD_append] at hfollows
    rw [hswitch, hready, hd, hadvisor, hrest]
    refine Eq.trans ?_ hfollows
    cases event.said? <;> rfl
  | inside _ hp hready hd hh =>
    obtain ⟨advisor, hadvisor⟩ := hh
    rw [hready, hd, hadvisor]
    obtain hw | ⟨hw, hactive⟩ := switch?_inside hp hm hs
    · rw [hw]
      exact hfollows
    · rw [hw]
      rw [hactive] at hfollows
      exact (getLastD_self hfollows).trans hactive.symm

/-- The tracker follows the feature in every step but a stop of the activator. -/
theorem Follows.step (h : b.Follows) (hr : b.Registered) (hm : b.host.testMode = false)
    (hs : s ≠ .stopped) (ho : ∀ place, s = .began place → place = 0) : (b.step s).Follows where
  enrolled := by
    have hpolicy : (b.step s).host.policy = b.host.policy := congrArg (·.1) (fixed_step b s)
    rw [hpolicy]
    exact h.enrolled_step hr hs
  pending n hn := h.pending_step hs n hn
  listens n hc := h.listens_step hr hm hs n hc
  due := h.due_step
  quiet hl := ⟨h.quiet_step hr hm hs hl, h.ready_step fun hl' => hl (hl'.step hr hm hs)⟩
  follows hl := by
    by_cases hl' : b.Listens
    · exact h.outcome_step hr hm hs ho hl'
    · exact h.outcome_first hr hm hs hl' hl

end Steps

section Runs

variable {b : Bureau} {steps : List Step}

private theorem active_run (b : Bureau) (steps : List Step) :
    (b.run steps).host.active = lastSaid b.host.active steps := by
  induction steps generalizing b with
  | nil => rfl
  | cons s rest ih =>
    refine (ih (b.step s)).trans ?_
    rw [active_step, lastSaid, lastSaid, List.filterMap_cons]
    cases s.said? with
    | none => rfl
    | some enabled => exact List.getLastD_cons.symm

private theorem fixed_run (b : Bureau) (steps : List Step) : (b.run steps).fixed = b.fixed := by
  induction steps generalizing b with
  | nil => rfl
  | cons s rest ih => exact (ih (b.step s)).trans (fixed_step b s)

/-- The tracker follows the feature while the activator is not stopped. -/
theorem Follows.run (h : b.Follows) (hr : b.Registered) (hm : b.host.testMode = false)
    (hs : .stopped ∉ steps) (ho : InOrder steps) : (b.run steps).Follows := by
  induction steps generalizing b with
  | nil => exact h
  | cons s rest ih =>
    have hne : s ≠ .stopped := fun he => hs (he ▸ List.mem_cons_self)
    have hfixed : (b.step s).host.testMode = b.host.testMode := congrArg (·.2.1) (fixed_step b s)
    refine ih (h.step hr hm hne fun place he => ho place (he ▸ List.mem_cons_self)) (hr.step s)
      (hfixed.trans hm) (fun hm' => hs (List.mem_cons_of_mem s hm')) ?_
    exact fun place hm' => ho place (List.mem_cons_of_mem s hm')

end Runs

/-- Outside test mode, once a start of the activator is completed, no message is being handled and
no handler of the feature is left to begin, the tracker runs exactly if the feature was last said to
be active, which is what the fields of the messages report. It is then registered once for updates
of tabs, once for activations of tabs and, if requests are tracked, once for requests, and otherwise
nowhere. -/
theorem running_iff_lastSaid (host : Host) {steps : List Step} (hm : host.testMode = false)
    (hs : .stopped ∉ steps) (ho : InOrder steps)
    (hc : ((opened host).run steps).activator.current ≠ none)
    (hn : ((opened host).run steps).starts = [])
    (hd : ((opened host).run steps).due = [])
    (hr : ∀ enabled, .activation enabled ∉ ((opened host).run steps).ready) :
    ((opened host).run steps).activator.tracker.running = lastSaid host.active steps ∧
      (∀ messages, Conveys messages steps →
        ((opened host).run steps).activator.tracker.running =
          (messages.filterMap reported?).getLastD host.active) ∧
      ∀ channel,
        ((opened host).run steps).activator.tracker.listeners.count (channel, .tracker) =
          if lastSaid host.active steps ∧
              (channel = .tabUpdated ∨ channel = .tabActivated ∨
                channel = .request ∧ host.policy.tracking.requests) then 1
          else 0 := by
  have hfollows := (follows_opened host).run (registered_opened host) hm hs ho
  obtain ⟨number, hnumber⟩ := Option.ne_none_iff_exists'.mp hc
  have hlistens : ((opened host).run steps).Listens :=
    (hfollows.listens number hnumber).resolve_left (hn ▸ List.not_mem_nil)
  have hready : said ((opened host).run steps).ready = [] :=
    List.filterMap_eq_nil_iff.mpr fun event hmem => Option.eq_none_iff_forall_ne_some.mpr
      fun enabled he => hr enabled (Event.said?_eq_some_iff.mp he ▸ hmem)
  have hrunning : ((opened host).run steps).activator.tracker.running =
      lastSaid host.active steps := by
    have houtcome := hfollows.follows hlistens
    rwa [outcome, said_append, hready, hd, active_run] at houtcome
  refine ⟨hrunning, fun messages h => hrunning.trans (h.lastSaid _), fun channel => ?_⟩
  have hpolicy : ((opened host).run steps).host.policy = host.policy :=
    congrArg (·.1) (fixed_run (opened host) steps)
  rw [hfollows.enrolled channel, hpolicy, Tracker.count_channels, hrunning, ite_and]
  simp only [Tracker.mem_channels]

/-- The feature is switched on before the activator starts and off while it does. The browser
introduces itself after that, with the feature active. -/
def wavering : List Step :=
  enabling ++ [.started] ++ reads true ++ disabling ++ reads true ++ reads true ++ reads true ++
    [.received (.hello true), .told, .began 0]

/-- What the browser sends for that. One of its messages cannot be read. -/
def waveringMessages : List Fields := [
  [("type", .text "featureActivated"), ("enabled", .bool true)],
  [("type", .text "featureActivated"), ("enabled", .int 0)],
  [("type", .text "tabActivated")],
  [("type", .text "hello"), ("featureActive", .text "yes")]]

/-- The tracker runs, as was reported last, and is registered once on each of its channels. -/
theorem running_iff_lastSaid_wavering :
    lastSaid false wavering = true ∧ Conveys waveringMessages wavering ∧
      ((opened {}).run wavering).activator.tracker.running =
        (waveringMessages.filterMap reported?).getLastD false ∧
      ((opened {}).run wavering).activator.tracker.running = true ∧
      ((opened {}).run wavering).activator.tracker.listeners.count (.request, .tracker) = 1 := by
  have hs : Step.stopped ∉ wavering := by simp [wavering, enabling, disabling, reads]
  have ho : InOrder wavering := by simp [InOrder, wavering, enabling, disabling, reads]
  have hc : ((opened {}).run wavering).activator.current ≠ none := nofun
  have hr : ∀ enabled, .activation enabled ∉ ((opened {}).run wavering).ready := fun _ => nofun
  obtain ⟨hrunning, hmessages, hcount⟩ := running_iff_lastSaid {} rfl hs ho hc rfl rfl hr
  have hconveys : Conveys waveringMessages wavering := rfl
  exact ⟨rfl, hconveys, hmessages _ hconveys, hrunning, (hcount .request).trans rfl⟩

end Bureau

end BreakageAdvisor
