import BreakageAdvisor.Proofs.Handler.Crew
import BreakageAdvisor.Proofs.Throughout
import BreakageAdvisor.Proofs.Tracker

/-!
# Sessions of the tracker

The tracker is started and stopped while its handlers wait. Stopping forgets what is deferred, but
reaches no handler: one that was told of a report, looks a tab up or replays requests goes on in a
tracker that does not run, or in a later session. A tracker does nothing after it was stopped
exactly if no such handler is under way when it is stopped.
-/

namespace BreakageAdvisor

namespace Handler

/-- The channel on which a report is told. -/
def Report.channel : Report → Channel
  | updated _ => .tabUpdated
  | requested _ => .request
  | activated _ => .tabActivated

/-- A report leads to something even if nothing is deferred. -/
def Report.UnderWay (policy : TrackingPolicy) : Report → Prop
  | updated update => policy.isNavigation update
  | requested event => 0 ≤ event.tab.value ∧ policy.accepts event.type
  | activated _ => False

/-- A handler may still hand something over or defer something. -/
def Progress.UnderWay : Progress → Prop
  | lookingUp (.request _) => True
  | lookingUp (.activation _ navigated taken) => navigated ∨ taken ≠ []
  | judging _ (.replay _ rest) => rest ≠ []
  | _ => False

/-- A handler has taken what was deferred for a tab. -/
def Progress.Took : Progress → Prop
  | lookingUp (.activation _ _ _) => True
  | judging _ (.replay _ _) => True
  | _ => False

private theorem handle_of_not_underWay {policy : TrackingPolicy} {report : Report}
    (h : ¬ report.UnderWay policy) :
    (report.handle policy).value {} = .ended ∧ (report.handle policy).state {} = {} := by
  cases report with
  | updated update =>
    have hn : policy.isNavigation update = false := Bool.not_eq_true _ ▸ h
    simp [Report.handle, value_tabUpdated, state_tabUpdated, hn]
  | requested event =>
    have hv : ¬ (0 ≤ event.tab.value ∧ policy.accepts event.type) := h
    simp only [Report.handle, value_requested, state_requested, if_neg hv, and_self]
  | activated tab => exact ⟨rfl, rfl⟩

private theorem resume_of_not_underWay {p : Progress} {reply : Reply} {act : Act Deferred Progress}
    (h : ¬ p.UnderWay) (ha : p.resume? reply = some act) (d : Deferred) :
    act.value d = .ended ∧ act.state d = d := by
  cases reply with
  | abandoned =>
    cases p <;> cases ha <;> exact ⟨rfl, rfl⟩
  | found answer =>
    cases p with
    | ended => cases ha
    | judging case purpose => cases ha
    | lookingUp lookup =>
      cases ha
      cases lookup with
      | request event => exact absurd trivial h
      | activation tab navigated taken =>
        obtain ⟨hn, ht⟩ := not_or.mp h
        have hnav : navigated = false := Bool.not_eq_true _ ▸ hn
        have htaken : taken = [] := not_ne_iff.mp ht
        subst hnav htaken
        cases hfound : answer tab with
        | error cause =>
          rw [Lookup.tab, hfound, value_lookedUp_error, state_lookedUp_error]
          exact ⟨rfl, rfl⟩
        | ok found =>
          rw [Lookup.tab, hfound, value_lookedUp_activation, state_lookedUp_activation]
          cases found.active <;> exact ⟨rfl, rfl⟩
  | decided verdict =>
    cases p with
    | ended => cases ha
    | lookingUp lookup => cases ha
    | judging case purpose =>
      cases ha
      refine ⟨?_, state_judged d purpose verdict⟩
      by_cases hv : verdict = .ok false
      · subst hv
        cases purpose with
        | update => rfl
        | request => rfl
        | replay tab rest =>
          have hrest : rest = [] := not_ne_iff.mp h
          subst hrest
          rfl
      · exact value_judged_of_ne d purpose hv

private theorem took_of_resume {p : Progress} {reply : Reply} {act : Act Deferred Progress}
    (ha : p.resume? reply = some act) {d : Deferred} (h : (act.value d).Took) : p.Took := by
  cases reply with
  | abandoned => cases p <;> cases ha <;> exact absurd h id
  | found answer =>
    cases p with
    | ended => cases ha
    | judging case purpose => cases ha
    | lookingUp lookup =>
      cases ha
      cases lookup with
      | activation tab navigated taken => trivial
      | request event =>
        cases hfound : answer event.tab with
        | error cause => rw [Lookup.tab, hfound, value_lookedUp_error] at h; exact absurd h id
        | ok found =>
          rw [Lookup.tab, hfound, value_lookedUp_request] at h
          cases hactive : found.active <;> rw [hactive] at h <;> exact absurd h id
  | decided verdict =>
    cases p with
    | ended => cases ha
    | lookingUp lookup => cases ha
    | judging case purpose =>
      cases ha
      cases purpose with
      | replay tab rest => trivial
      | update => rw [value_judged_update] at h; exact absurd h id
      | request => rw [value_judged_request] at h; exact absurd h id

private theorem exists_reply_of_underWay {p : Progress} (h : p.UnderWay) (d : Deferred) :
    ∃ reply act, p.resume? reply = some act ∧ (act.value d).case? ≠ none := by
  cases p with
  | ended => exact absurd h id
  | lookingUp lookup =>
    let reply : Reply := .found fun id => .ok ⟨id, [], true⟩
    cases lookup with
    | request event => exact ⟨reply, _, rfl, nofun⟩
    | activation tab navigated taken =>
      refine ⟨reply, _, rfl, ?_⟩
      rw [Lookup.tab, value_lookedUp_activation]
      cases navigated with
      | true => exact nofun
      | false =>
        cases taken with
        | nil => exact absurd h (by simp [Progress.UnderWay])
        | cons url rest => exact nofun
  | judging case purpose =>
    cases purpose with
    | update => exact absurd h id
    | request => exact absurd h id
    | replay tab rest =>
      refine ⟨.decided (.ok false), _, rfl, ?_⟩
      cases rest with
      | nil => exact absurd rfl h
      | cons url rest => exact nofun

end Handler

open Handler

/-- A handler of the tracker. -/
inductive Watch.Member where
  /-- It was told of a report, and has not begun. -/
  | told (report : Report)
  /-- It began in a session of the tracker, and has come so far. -/
  | begun (session : Option Nat) (progress : Progress)

/-- The tracker and its handlers. -/
structure Watch where
  tracker : Tracker := {}
  /-- All handlers, in the order in which they were told of reports. -/
  members : List Watch.Member := []

namespace Watch

/-- What happens to the tracker. -/
inductive Event where
  | started
  | stopped
  /-- The browser tells of a report: a handler for each registration of the tracker. -/
  | told (report : Report)
  /-- The handler at a place begins. -/
  | began (place : Nat)
  /-- The handler at a place gets a reply. -/
  | replied (place : Nat) (reply : Reply)

/-- What the handler at a place does, and the session in which it began. -/
structure Turn where
  place : Nat
  session : Option Nat
  act : Act Deferred Progress

/-- The turn of a handler that an event is about, if the handler waits for the event. -/
def turn? (policy : TrackingPolicy) (w : Watch) : Event → Option Turn
  | .began place =>
    match w.members[place]? with
    | some (.told report) => some ⟨place, w.tracker.current, report.handle policy⟩
    | _ => none
  | .replied place reply =>
    match w.members[place]? with
    | some (.begun session p) => (p.resume? reply).map fun act => ⟨place, session, act⟩
    | _ => none
  | _ => none

/-- The tracker and its handlers after a turn. -/
def after (w : Watch) (turn : Turn) : Watch where
  tracker := (Tracker.onDeferred turn.act).state w.tracker
  members := w.members.set turn.place (.begun turn.session (turn.act.value w.tracker.deferred))

/-- The tracker and its handlers after an event. -/
def step (policy : TrackingPolicy) (w : Watch) (e : Event) : Watch :=
  match e with
  | .started => { w with tracker := (Tracker.start policy).state w.tracker }
  | .stopped => { w with tracker := Tracker.stop.state w.tracker }
  | .told report =>
    let told := (w.tracker.listeners.on report.channel).filter (· = .tracker)
    { w with members := w.members ++ told.map fun _ => .told report }
  | e =>
    match w.turn? policy e with
    | some turn => w.after turn
    | none => w

/-- The case that is handed over for judgement in an event. -/
def call? (policy : TrackingPolicy) (w : Watch) (e : Event) : Option Case :=
  (w.turn? policy e).bind fun turn => (turn.act.value w.tracker.deferred).case?

/-- The tracker and its handlers after events, one after the other. -/
def run (policy : TrackingPolicy) (w : Watch) (events : List Event) : Watch :=
  events.foldl (step policy) w

/-- A handler may still hand something over or defer something in a tracker that does not run. -/
def Member.UnderWay (policy : TrackingPolicy) : Member → Prop
  | told report => report.UnderWay policy
  | begun _ p => p.UnderWay

/-- A tracker that does not run has nothing deferred and hands nothing over, and what was taken in
an earlier session is neither handed over nor deferred. -/
structure Rests (policy : TrackingPolicy) (w : Watch) (e : Event) : Prop where
  empty : w.tracker.running = false → w.tracker.deferred = {}
  quiet : w.tracker.running = false → w.call? policy e = none
  earlier : ∀ place reply session p, e = .replied place reply →
    w.members[place]? = some (.begun session p) → p.Took → session ≠ w.tracker.current →
      w.call? policy e = none ∧ (w.step policy e).tracker.deferred = w.tracker.deferred

/-- No handler is under way when the tracker is stopped. -/
def Orderly (policy : TrackingPolicy) (w : Watch) (e : Event) : Prop :=
  e = .stopped → ∀ m ∈ w.members, ¬ m.UnderWay policy

/-- Nothing is deferred and no handler is under way unless the tracker runs, and a handler that is
under way with what it took began in the present session. -/
structure Calm (policy : TrackingPolicy) (w : Watch) : Prop where
  sound : w.tracker.Sound
  empty : w.tracker.current = none → w.tracker.deferred = {}
  idle : w.tracker.current = none → ∀ m ∈ w.members, ¬ m.UnderWay policy
  present : ∀ session p, .begun session p ∈ w.members → p.Took → p.UnderWay →
    session = w.tracker.current

section Steps

variable {policy : TrackingPolicy} {w : Watch}

private theorem running_eq_false {t : Tracker} : t.running = false ↔ t.current = none := by
  rw [Tracker.running, Option.isSome_eq_false_iff, Option.isNone_iff_eq_none]

private theorem turn_cases {e : Event} {turn : Turn} (h : w.turn? policy e = some turn) :
    (∃ report, w.members[turn.place]? = some (.told report) ∧
        turn.session = w.tracker.current ∧ turn.act = report.handle policy) ∨
      ∃ reply p, e = .replied turn.place reply ∧
        w.members[turn.place]? = some (.begun turn.session p) ∧
        p.resume? reply = some turn.act := by
  cases e with
  | began place =>
    simp only [turn?] at h
    split at h
    · next report hm =>
      cases h
      exact .inl ⟨report, hm, rfl, rfl⟩
    · cases h
  | replied place reply =>
    simp only [turn?] at h
    split at h
    · next session p hm =>
      obtain ⟨act, ha, rfl⟩ := Option.map_eq_some_iff.mp h
      exact .inr ⟨reply, p, rfl, hm, ha⟩
    · cases h
  | _ => cases h

private theorem step_of_turn {e : Event} {turn : Turn} (h : w.turn? policy e = some turn) :
    w.step policy e = w.after turn := by
  cases e with
  | began place => simp only [step, h]
  | replied place reply => simp only [step, h]
  | _ => cases h

private theorem Calm.turn_of_stopped (hw : w.Calm policy) (hc : w.tracker.current = none)
    {e : Event}
    {turn : Turn} (h : w.turn? policy e = some turn) :
    turn.act.value w.tracker.deferred = .ended ∧
      turn.act.state w.tracker.deferred = w.tracker.deferred := by
  obtain ⟨report, hm, _, ha⟩ | ⟨reply, p, _, hm, ha⟩ := turn_cases h
  · rw [ha, hw.empty hc]
    exact handle_of_not_underWay (hw.idle hc _ (List.mem_of_getElem? hm))
  · exact resume_of_not_underWay (hw.idle hc _ (List.mem_of_getElem? hm)) ha _

private theorem Calm.rests (hw : w.Calm policy) (e : Event) : w.Rests policy e := by
  refine ⟨fun hr => hw.empty (running_eq_false.mp hr), ?_, ?_⟩
  · intro hr
    rw [call?]
    cases h : w.turn? policy e with
    | none => rfl
    | some turn =>
      rw [Option.bind_some, (hw.turn_of_stopped (running_eq_false.mp hr) h).1]
      rfl
  · rintro place reply session p rfl hm hp hs
    have hidle : ¬ p.UnderWay := fun hu =>
      hs (hw.present session p (List.mem_of_getElem? hm) hp hu)
    cases ha : p.resume? reply with
    | none =>
      have ht : w.turn? policy (.replied place reply) = none := by
        simp only [turn?, hm, ha, Option.map_none]
      exact ⟨by rw [call?, ht]; rfl, by simp only [step, ht]⟩
    | some act =>
      have ht : w.turn? policy (.replied place reply) = some ⟨place, session, act⟩ := by
        simp only [turn?, hm, ha, Option.map_some]
      obtain ⟨hv, hd⟩ := resume_of_not_underWay hidle ha w.tracker.deferred
      refine ⟨?_, ?_⟩
      · rw [call?, ht, Option.bind_some, hv]
        rfl
      · rw [step_of_turn ht]
        exact hd

/-- The tracker stays calm in a turn. -/
theorem Calm.after (hw : w.Calm policy) {e : Event} {turn : Turn}
    (h : w.turn? policy e = some turn) : (w.after turn).Calm policy := by
  refine ⟨hw.sound.onDeferred turn.act, ?_, ?_, ?_⟩
  · intro hc
    exact (hw.turn_of_stopped hc h).2.trans (hw.empty hc)
  · intro hc m hm
    rcases List.mem_or_eq_of_mem_set hm with hm | rfl
    · exact hw.idle hc m hm
    · rw [(hw.turn_of_stopped hc h).1]
      exact id
  · intro session p hm hp hu
    rcases List.mem_or_eq_of_mem_set hm with hm | he
    · exact hw.present session p hm hp hu
    · obtain ⟨rfl, rfl⟩ := Member.begun.inj he
      obtain ⟨report, _, hs, _⟩ | ⟨reply, q, _, hq, ha⟩ := turn_cases h
      · exact hs
      · -- It took what it has before, and was under way then.
        refine hw.present _ q (List.mem_of_getElem? hq) (took_of_resume ha hp) ?_
        by_contra hidle
        rw [(resume_of_not_underWay hidle ha w.tracker.deferred).1] at hp
        exact hp

/-- The tracker stays calm in every event, if no handler is under way when it is stopped. -/
theorem Calm.step (hw : w.Calm policy) {e : Event} (he : w.Orderly policy e) :
    (w.step policy e).Calm policy := by
  have hturn (hs : w.step policy e = match w.turn? policy e with
      | some turn => w.after turn
      | none => w) : (w.step policy e).Calm policy := by
    rw [hs]
    split
    · next turn h => exact hw.after h
    · exact hw
  cases e with
  | began place => exact hturn rfl
  | replied place reply => exact hturn rfl
  | started =>
    cases hc : w.tracker.current with
    | some number => rwa [Watch.step, Tracker.state_start_of_some policy w.tracker hc]
    | none =>
      have hsome : ((Tracker.start policy).state w.tracker).current ≠ none := by
        rw [Tracker.state_start_of_none policy w.tracker hc]
        exact nofun
      refine ⟨hw.sound.start policy, fun h => absurd h hsome, fun h => absurd h hsome, ?_⟩
      intro session p hm _ hu
      exact absurd hu (hw.idle hc _ hm)
  | stopped =>
    have hidle := he rfl
    refine ⟨hw.sound.stop, ?_, fun _ => hidle, fun session p hm _ hu => absurd hu (hidle _ hm)⟩
    intro _
    by_cases hc : w.tracker.current = none
    · rw [Watch.step, Tracker.state_stop_of_none w.tracker hc]
      exact hw.empty hc
    · exact hw.sound.deferred_stop w.tracker hc
  | told report =>
    refine ⟨hw.sound, hw.empty, ?_, ?_⟩
    · intro hc m hm
      rcases List.mem_append.mp hm with hm | hm
      · exact hw.idle hc m hm
      · -- A tracker that does not run is told of nothing.
        obtain ⟨listener, hl, _⟩ := List.mem_map.mp hm
        obtain ⟨hon, htracker⟩ := List.mem_filter.mp hl
        exact absurd (of_decide_eq_true htracker ▸ hon)
          (hw.sound.not_mem_on hc report.channel)
    · intro session p hm
      rcases List.mem_append.mp hm with hm | hm
      · exact hw.present session p hm
      · obtain ⟨_, _, he⟩ := List.mem_map.mp hm
        cases he

end Steps

section Runs

variable {policy : TrackingPolicy} {w : Watch}

/-- A run goes on where its beginning leads. -/
theorem run_append (front back : List Event) :
    w.run policy (front ++ back) = (w.run policy front).run policy back := List.foldl_append

private theorem sound_run (events : List Event) (hw : w.tracker.Sound) :
    (w.run policy events).tracker.Sound := by
  induction events generalizing w with
  | nil => exact hw
  | cons e rest ih =>
    refine ih ?_
    have hturn : (match w.turn? policy e with
        | some turn => w.after turn
        | none => w).tracker.Sound := by
      split
      · next turn _ => exact hw.onDeferred turn.act
      · exact hw
    cases e with
    | started => exact hw.start policy
    | stopped => exact hw.stop
    | told report => exact hw
    | began place => exact hturn
    | replied place reply => exact hturn

/-- A calm tracker does nothing in a run where it does not run, if no handler is ever under way when
it is stopped. -/
theorem Calm.run {events : List Event} (hw : w.Calm policy)
    (h : Throughout (fun past e => (w.run policy past).Orderly policy e) events) :
    Throughout (fun past e => (w.run policy past).Rests policy e) events := by
  induction events generalizing w with
  | nil => exact .nil
  | cons e rest ih =>
    obtain ⟨he, hrest⟩ := Throughout.cons_iff.mp h
    exact Throughout.cons_iff.mpr ⟨hw.rests e, ih (hw.step he) hrest⟩

private theorem not_rests_of_call {e : Event} {turn : Turn} (hc : w.tracker.current = none)
    (h : w.turn? policy e = some turn) (hcase : (turn.act.value w.tracker.deferred).case? ≠ none) :
    ¬ w.Rests policy e := by
  intro hr
  have hquiet := hr.quiet (running_eq_false.mpr hc)
  rw [call?, h, Option.bind_some] at hquiet
  exact hcase hquiet

private theorem not_rests_of_begun {session : Option Nat} {p : Progress} {place : Nat}
    (hc : w.tracker.current = none) (hm : w.members[place]? = some (.begun session p))
    (hu : p.UnderWay) : ∃ reply, ¬ w.Rests policy (.replied place reply) := by
  obtain ⟨reply, act, ha, hcase⟩ := exists_reply_of_underWay hu w.tracker.deferred
  have ht : w.turn? policy (.replied place reply) = some ⟨place, session, act⟩ := by
    simp only [turn?, hm, ha, Option.map_some]
  exact ⟨reply, not_rests_of_call hc ht hcase⟩

private theorem not_rests_of_underWay {m : Member} (hc : w.tracker.current = none)
    (hm : m ∈ w.members)
    (hu : m.UnderWay policy) :
    ∃ later : List Event, (∀ e ∈ later, e ≠ .stopped) ∧
      ¬ Throughout (fun past e => (w.run policy past).Rests policy e) later := by
  obtain ⟨place, hplace⟩ := List.getElem?_of_mem hm
  cases m with
  | begun session p =>
    obtain ⟨reply, hr⟩ := not_rests_of_begun hc hplace hu
    exact ⟨[.replied place reply], by simp, fun h => hr (Throughout.singleton_iff.mp h)⟩
  | told report =>
    have ht : w.turn? policy (.began place) =
        some ⟨place, w.tracker.current, report.handle policy⟩ := by
      simp only [turn?, hplace]
    have hs := step_of_turn ht
    cases report with
    | activated tab => exact absurd hu id
    | requested event =>
      -- It begins, and then waits for its tab.
      have hv : ((Report.requested event).handle policy).value w.tracker.deferred =
          .lookingUp (.request event) := (value_requested policy _ event).trans (if_pos hu)
      have hbegun : (w.step policy (.began place)).members[place]? =
          some (.begun w.tracker.current (.lookingUp (.request event))) := by
        obtain ⟨hl, _⟩ := List.getElem?_eq_some_iff.mp hplace
        rw [hs, after, hv]
        exact List.getElem?_set_self hl
      obtain ⟨reply, hr⟩ : ∃ reply,
          ¬ (w.step policy (.began place)).Rests policy (.replied place reply) :=
        not_rests_of_begun (by rw [hs]; exact hc) hbegun trivial
      refine ⟨[.began place, .replied place reply], by simp, fun h => hr ?_⟩
      exact Throughout.singleton_iff.mp (Throughout.cons_iff.mp h).2
    | updated update =>
      have hn : policy.isNavigation update := hu
      cases hactive : update.tab.active with
      | true =>
        refine ⟨[.began place], by simp, fun h => ?_⟩
        refine not_rests_of_call hc ht ?_ (Throughout.singleton_iff.mp h)
        simp only [Report.handle, value_tabUpdated, hn, hactive, Bool.and_self, if_true]
        exact nofun
      | false =>
        -- The navigation of a tab in the background is deferred.
        refine ⟨[.began place, .started], by simp, fun h => ?_⟩
        obtain ⟨hbegan, hstarted⟩ := Throughout.cons_iff.mp h
        have hnone : w.tracker.deferred = {} := hbegan.empty (running_eq_false.mpr hc)
        have hempty := (Throughout.singleton_iff.mp hstarted).empty
        change (w.step policy (.began place)).tracker.running = false →
          (w.step policy (.began place)).tracker.deferred = {} at hempty
        rw [hs] at hempty
        have hd : ((Report.updated update).handle policy).state w.tracker.deferred = {} :=
          hempty (running_eq_false.mpr hc)
        rw [hnone] at hd
        simp only [Report.handle, state_tabUpdated, hn, hactive, if_true, Bool.false_eq_true,
          if_false] at hd
        cases congrArg Deferred.tabs hd

/-- However a run goes on from any of its points until the tracker is stopped again, the tracker is
at rest whenever it does not run, and no handler goes on with what it took in an earlier session,
exactly if no handler was under way whenever the tracker was stopped. -/
theorem rests_iff_orderly (policy : TrackingPolicy) (events : List Event) :
    (∀ past rest, events = past ++ rest → ∀ later : List Event, (∀ e ∈ later, e ≠ .stopped) →
        Throughout (fun before e => (({} : Watch).run policy before).Rests policy e)
          (past ++ later)) ↔
      Throughout (fun past e => (({} : Watch).run policy past).Orderly policy e) events := by
  constructor
  · rintro h past e rest rfl rfl m hm hu
    have hsound : (({} : Watch).run policy past).tracker.Sound := sound_run past .initial
    have hrun : ({} : Watch).run policy (past ++ [.stopped]) =
        (({} : Watch).run policy past).step policy .stopped := run_append _ _
    have hc : (({} : Watch).run policy (past ++ [.stopped])).tracker.current = none := by
      rw [hrun]
      exact hsound.current_stop
    have hm' : m ∈ (({} : Watch).run policy (past ++ [.stopped])).members := by
      rw [hrun]
      exact hm
    obtain ⟨later, hlater, hnot⟩ := not_rests_of_underWay hc hm' hu
    have hall := h (past ++ [.stopped]) rest (by simp) later hlater
    refine hnot ?_
    simpa only [run_append] using (Throughout.append_iff.mp hall).2
  · rintro h past rest rfl later hlater
    have hinitial : ({} : Watch).Calm policy := ⟨.initial, fun _ => rfl, by simp, by simp⟩
    refine hinitial.run (Throughout.append_iff.mpr ⟨(Throughout.append_iff.mp h).1, ?_⟩)
    rintro before e after rfl rfl
    exact absurd rfl (hlater _ (List.mem_append_right before List.mem_cons_self))

end Runs

/-- A request is looked up when the tracker is stopped, and its tab is found afterwards. -/
def lateLookup (active : Bool) : List Event :=
  [.started, .told (.requested ⟨.number 1, "https://a.com/x", none⟩), .began 0, .stopped,
    .replied 0 (.found fun id => .ok ⟨id, "https://b.com/", active⟩)]

/-- The request is deferred or handed over in a tracker that was stopped. -/
theorem lateLookup_handled :
    (({} : Watch).run {} (lateLookup false)).tracker.running = false ∧
      (({} : Watch).run {} (lateLookup false)).tracker.deferred.urls (.number 1) =
        (["https://a.com/x"] : List Text) ∧
      (({} : Watch).run {} (lateLookup true).dropLast).tracker.running = false ∧
      (({} : Watch).run {} (lateLookup true).dropLast).call? {}
          (.replied 0 (.found fun id => .ok ⟨id, "https://b.com/", true⟩)) =
        some ⟨⟨.number 1, "https://b.com/", true⟩, .request, "https://a.com/x"⟩ :=
  ⟨rfl, rfl, rfl, rfl⟩

end Watch

end BreakageAdvisor
