import BreakageAdvisor.Proofs.Activator
import BreakageAdvisor.Proofs.Bureau.Basic

/-!
# The registrations of the activator at a bureau

Each step starts the activator, stops it, completes a start, follows the feature, or has nothing to
do with the registrations. A start is pending as long as its rebuild is; once it is completed, the
activator listens to changes of the configured catalogs.
-/

namespace BreakageAdvisor

namespace Activator

private theorem Sound.of_bare {a a' : Activator} (h : a.Sound) (hb : a'.bare = a.bare) :
    a'.Sound := by
  have hs : a.bare.Sound := ⟨⟨h.tracker.running, h.tracker.stopped⟩, h.running, h.stopped, h.closed⟩
  rw [← hb] at hs
  exact ⟨⟨hs.tracker.running, hs.tracker.stopped⟩, hs.running, hs.stopped, hs.closed⟩

end Activator

/-- The start of the activator that a rebuild belongs to. -/
def Rebuild.Purpose.start? : Rebuild.Purpose → Option Nat
  | rules => none
  | start number => some number

/-- The start of the activator that a task belongs to. -/
def Task.start? : Task → Option Nat
  | rebuilding _ purpose => purpose.start?
  | _ => none

private theorem Task.start?_of_ne {task : Task}
    (h : ∀ rebuild purpose, task ≠ .rebuilding rebuild purpose) : task.start? = none := by
  cases task with
  | rebuilding rebuild purpose => exact absurd rfl (h rebuild purpose)
  | _ => rfl

/-- The start of the activator that a task belongs to which has come so far. -/
def Task.Progress.start? : Task.Progress → Option Nat
  | ended _ => none
  | waiting task => task.start?
  | queued _ purpose => purpose.start?

private theorem Task.Progress.start?_of_aside {progress : Task.Progress} (h : progress.Aside) :
    progress.start? = none := by
  cases progress with
  | ended outcome => rfl
  | queued number purpose => exact absurd h id
  | waiting task =>
    cases task with
    | rebuilding rebuild purpose => exact absurd h id
    | _ => rfl

namespace Advisor

variable (setting : Setting) (purpose : Rebuild.Purpose)

private theorem start?_rebuilt (progress : Rebuild.Progress) (a : Advisor) :
    ((rebuilt setting purpose progress).value a).start? =
      if progress = .ended then none else purpose.start? := by
  cases progress with
  | ended => cases purpose <;> rfl
  | queued number => rfl
  | waiting rebuild => rfl

private theorem activator_rebuilt {progress : Rebuild.Progress} (h : progress ≠ .ended)
    (a : Advisor) :
    ((rebuilt setting purpose progress).state a).activator = a.activator := by
  cases progress with
  | ended => exact absurd rfl h
  | queued number => rfl
  | waiting rebuild => rfl

private theorem call_ne_ended (number : Nat) (book : RuleBook) :
    (Rebuild.call number).value book ≠ .ended := by
  rw [Rebuild.call, Act.value_get_bind]
  split
  · rw [Trigger.all, Rebuild.next, Act.value_get_bind]
    split <;> exact Rebuild.Progress.noConfusion
  · exact Rebuild.Progress.noConfusion

end Advisor

namespace Bureau

/-- The starts of the activator that are not completed. -/
def starts (b : Bureau) : List Nat :=
  b.waiting.filterMap (·.task.start?) ++ b.queued.filterMap (·.2.start?)

/-- The activator. -/
def activator (b : Bureau) : Activator := b.host.advisor.activator

/-- The start of the activator that is completed if the task at a place goes on. -/
def completes? (b : Bureau) (place : Nat) : Option Nat :=
  match b.waiting[place]? with
  | some ⟨.rebuilding rebuild purpose, some reply⟩ =>
    if (rebuild.resume reply).value b.host.advisor.book = .ended then purpose.start? else none
  | _ => none

/-- Whether a step switches the tracker on or off, if it does either: a stop of an activator that
was started, a handler of the feature, and a completed start in test mode or with the feature
active. -/
def switch? (b : Bureau) : Step → Option Bool
  | .stopped => if b.activator.current.isSome then some false else none
  | .began place =>
    match b.ready[place]? with
    | some (.activation enabled) => some enabled
    | _ => none
  | .resumed place =>
    if (b.completes? place).isSome && (b.host.testMode || b.host.active) then some true else none
  | _ => none

/-- What a step may do to the registrations. -/
inductive Effect (b : Bureau) (s : Step) (b' : Bureau) : Prop
  /-- Nothing. -/
  | idle (hs : s ≠ .started) (hs' : s ≠ .stopped) (ha : b'.activator.bare = b.activator.bare)
      (hn : ∀ n, n ∈ b'.starts ↔ n ∈ b.starts) (hw : b.switch? s = none)
  /-- The activator is started, perhaps once more. -/
  | started (hs : s = .started) (ha : b'.activator = Activator.begin.state b.activator)
      (hn : ∀ n, n ∈ b'.starts ↔
        n ∈ b.starts ∨ b.activator.current = none ∧ n = b.activator.subscriptions.length)
  /-- The activator is stopped. -/
  | stopped (hs : s = .stopped) (ha : b'.activator = Activator.stop.state b.activator)
      (hn : ∀ n, n ∈ b'.starts ↔ n ∈ b.starts)
  /-- A start is completed. -/
  | completed (number place : Nat) (hs : s = .resumed place)
      (ha : b'.activator = (Activator.complete b.host.policy.tracking
        ⟨b.host.testMode, b.host.active⟩ number).state b.activator)
      (hn : ∀ n, n ∈ b.starts ↔ n ∈ b'.starts ∨ n = number)
      (hw : b.switch? s = if b.host.testMode || b.host.active then some true else none)
  /-- The feature is switched on or off. -/
  | switched (enabled : Bool) (place : Nat) (hs : s = .began place)
      (hp : b.ready[place]? = some (.activation enabled))
      (ha : b'.activator =
        (Activator.activationChanged b.host.policy.tracking enabled).state b.activator)
      (hn : ∀ n, n ∈ b'.starts ↔ n ∈ b.starts) (hw : b.switch? s = some enabled)

section Effects

variable (b : Bureau)

private theorem mem_starts {n : Nat} :
    n ∈ b.starts ↔
      (∃ pending ∈ b.waiting, pending.task.start? = some n) ∨
        ∃ entry ∈ b.queued, entry.2.start? = some n := by
  rw [starts, List.mem_append, List.mem_filterMap, List.mem_filterMap]

private theorem mem_starts_put {progress : Task.Progress} {n : Nat} :
    n ∈ (b.put progress).starts ↔ n ∈ b.starts ∨ progress.start? = some n := by
  cases progress with
  | ended outcome => simp [put, Task.Progress.start?]
  | waiting task =>
    simp only [put, mem_starts, Task.Progress.start?, List.mem_append, List.mem_singleton,
      or_and_right, exists_or, exists_eq_left, or_right_comm]
  | queued number purpose =>
    simp only [put, mem_starts, Task.Progress.start?, List.mem_append, List.mem_singleton,
      or_and_right, exists_or, exists_eq_left, or_assoc]

/-- A task performs an act on the activator. -/
@[simp]
theorem activator_perform (act : Act Advisor Task.Progress) :
    (b.perform act).activator = (act.state b.host.advisor).activator := by
  rw [activator, host_perform]

private theorem mem_starts_perform {act : Act Advisor Task.Progress} {start? : Option Nat}
    (h : (act.value b.host.advisor).start? = start?) (n : Nat) :
    n ∈ (b.perform act).starts ↔ n ∈ b.starts ∨ start? = some n :=
  h ▸ mem_starts_put _

variable {b} {place : Nat}

private theorem mem_starts_of_waiting {pending : Pending} (h : b.waiting[place]? = some pending)
    (n : Nat) :
    n ∈ b.starts ↔
      n ∈ { b with waiting := b.waiting.eraseIdx place }.starts ∨
        pending.task.start? = some n := by
  obtain ⟨before, after, hw, herase, _⟩ := exists_around h
  rw [mem_starts, mem_starts, herase, hw]
  simp only [List.mem_append, List.mem_cons, or_and_right, exists_or, exists_eq_left]
  rw [or_left_comm, or_assoc, or_comm]

private theorem mem_starts_of_queued {entry : Nat × Rebuild.Purpose}
    (h : b.queued[place]? = some entry)
    (n : Nat) :
    n ∈ b.starts ↔
      n ∈ { b with queued := b.queued.eraseIdx place }.starts ∨
        entry.2.start? = some n := by
  obtain ⟨before, after, hq, herase, _⟩ := exists_around h
  rw [mem_starts, mem_starts, herase, hq]
  simp only [List.mem_append, List.mem_cons, or_and_right, exists_or, exists_eq_left]
  rw [or_left_comm (b := entry.2.start? = some n), or_left_comm, or_comm]

variable (b) (place)

/-- A rebuild on the rule book that does not end belongs to its start, and leaves the activator
alone. -/
private theorem rebuild_pending (setting : Setting) (purpose : Rebuild.Purpose)
    (rebuild : Act RuleBook Rebuild.Progress) {a : Advisor}
    (h : rebuild.value a.book ≠ .ended) :
    ((Advisor.onBook rebuild >>= Advisor.rebuilt setting purpose).value a).start? =
        purpose.start? ∧
      ((Advisor.onBook rebuild >>= Advisor.rebuilt setting purpose).state a).activator =
        a.activator := by
  have hv : (Advisor.onBook rebuild).value a ≠ .ended := h
  rw [Act.value_bind, Act.state_bind, Advisor.start?_rebuilt, if_neg hv,
    Advisor.activator_rebuilt setting purpose hv]
  exact ⟨rfl, rfl⟩

private theorem effect_started : b.Effect .started (b.step .started) := by
  have hstep : b.step .started = b.perform (Advisor.start b.host.setting) := rfl
  rw [hstep]
  cases hc : b.activator.current with
  | some number =>
    obtain ⟨hv, -⟩ := Activator.begin_of_some b.activator hc
    have hon : (Advisor.onActivator Activator.begin).value b.host.advisor = (number, false) := hv
    have hvalue : ((Advisor.start b.host.setting).value b.host.advisor).start? = none := by
      rw [Advisor.start, Act.value_bind, hon]
      rfl
    refine .started rfl ?_ fun n => (mem_starts_perform b hvalue n).trans ?_
    · rw [activator_perform, Advisor.start, Act.state_bind, hon]
      rfl
    · simp [hc]
  | none =>
    obtain ⟨hv, -⟩ := Activator.begin_of_none b.activator hc
    have hon : (Advisor.onActivator Activator.begin).value b.host.advisor =
      (b.activator.subscriptions.length, true) := hv
    obtain ⟨hstart, hact⟩ := rebuild_pending b.host.setting
      (.start b.activator.subscriptions.length) Rebuild.begin
      (a := (Advisor.onActivator Activator.begin).state b.host.advisor)
      (Advisor.call_ne_ended _ _)
    have hvalue : ((Advisor.start b.host.setting).value b.host.advisor).start? =
        some b.activator.subscriptions.length := by
      rw [Advisor.start, Act.value_bind, hon]
      exact hstart
    refine .started rfl ?_ fun n => (mem_starts_perform b hvalue n).trans ?_
    · rw [activator_perform, Advisor.start, Act.state_bind, hon]
      exact hact
    · simp [hc, eq_comm]

private theorem effect_began : b.Effect (.began place) (b.step (.began place)) := by
  cases hp : b.ready[place]? with
  | none =>
    rw [step_began_of_none hp]
    exact .idle nofun nofun rfl (fun _ => Iff.rfl) (by rw [switch?, hp])
  | some event =>
    rw [step_began_of_some hp]
    by_cases hactivation : ∃ enabled, event = .activation enabled
    · obtain ⟨enabled, rfl⟩ := hactivation
      refine .switched enabled place rfl hp ?_ (fun n => ?_) (by rw [switch?, hp])
      · rw [activator_perform]
        rfl
      · exact (mem_starts_perform _ rfl n).trans (or_iff_left nofun)
    · have hw : b.switch? (.began place) = none := by
        rw [switch?, hp]
        split
        · next enabled he => exact absurd ⟨enabled, Option.some_inj.mp he⟩ hactivation
        · rfl
      by_cases hcatalog : ∃ t, event = .catalog t
      · obtain ⟨t, rfl⟩ := hcatalog
        obtain ⟨hstart, hact⟩ := rebuild_pending b.host.setting .rules Rebuild.begin
          (a := b.host.advisor) (Advisor.call_ne_ended _ _)
        have hvalue : ((Host.handler (.catalog t) b.host.setting).value b.host.advisor).start? =
            none := hstart
        refine .idle nofun nofun (congrArg Activator.bare ?_) (fun n => ?_) hw
        · rw [activator_perform]
          exact hact
        · exact (mem_starts_perform { b with ready := b.ready.eraseIdx place } hvalue n).trans
            (or_iff_left nofun)
      · obtain ⟨hframe, haside⟩ := Host.handler_aside (fun enabled h => hactivation ⟨enabled, h⟩)
          (fun t h => hcatalog ⟨t, h⟩) b.host.setting b.host.advisor
        refine .idle nofun nofun ?_ (fun n => ?_) hw
        · rw [activator_perform]
          exact congrArg Prod.snd hframe
        · exact (mem_starts_perform { b with ready := b.ready.eraseIdx place }
            (Task.Progress.start?_of_aside haside) n).trans (or_iff_left nofun)

private theorem effect_called : b.Effect (.called place) (b.step (.called place)) := by
  cases hp : b.queued[place]? with
  | none =>
    rw [step_called_of_none hp]
    exact .idle nofun nofun rfl (fun _ => Iff.rfl) rfl
  | some entry =>
    obtain ⟨number, purpose⟩ := entry
    rw [step_called_of_some hp]
    obtain ⟨hstart, hact⟩ := rebuild_pending b.host.setting purpose
      (Rebuild.call number) (a := b.host.advisor) (Advisor.call_ne_ended _ _)
    refine .idle nofun nofun (congrArg Activator.bare ?_) (fun n => ?_) rfl
    · rw [activator_perform]
      exact hact
    · exact (mem_starts_perform { b with queued := b.queued.eraseIdx place } hstart n).trans
        (mem_starts_of_queued hp n).symm

private theorem effect_answered (reply : (query : Query) → query.Reply) :
    b.Effect (.answered place reply) (b.step (.answered place reply)) := by
  by_cases hp : ∃ task, b.waiting[place]? = some ⟨task, none⟩
  · obtain ⟨task, hp⟩ := hp
    rw [step_answered_of_some hp]
    refine .idle nofun nofun rfl (fun n => ?_) rfl
    obtain ⟨before, after, hw, _, hset⟩ := exists_around hp
    rw [mem_starts, mem_starts, hset, hw]
    simp only [List.mem_append, List.mem_cons, or_and_right, exists_or, exists_eq_left]
  · rw [step_answered_of_ne fun task h => hp ⟨task, h⟩]
    exact .idle nofun nofun rfl (fun _ => Iff.rfl) rfl

private theorem effect_rebuilding {rebuild : Rebuild} {purpose : Rebuild.Purpose}
    {reply : (Task.rebuilding rebuild purpose).query.Reply}
    (hp : b.waiting[place]? = some ⟨.rebuilding rebuild purpose, some reply⟩) :
    b.Effect (.resumed place) (b.step (.resumed place)) := by
  have hc : b.completes? place =
      if (rebuild.resume reply).value b.host.advisor.book = .ended then purpose.start?
      else none := by
    rw [completes?, hp]
  have hleaves := mem_starts_of_waiting hp
  rw [step_resumed_of_some hp]
  by_cases he : (rebuild.resume reply).value b.host.advisor.book = .ended
  · rw [if_pos he] at hc
    have hon : (Advisor.onBook (rebuild.resume reply)).value b.host.advisor = .ended := he
    have hvalue : ((Advisor.resume b.host.setting (.rebuilding rebuild purpose) reply).value
        b.host.advisor).start? = none := by
      rw [Advisor.resume, Act.value_bind, hon]
      cases purpose <;> rfl
    have hstarts := mem_starts_perform { b with waiting := b.waiting.eraseIdx place } hvalue
    cases purpose with
    | rules =>
      refine .idle Step.noConfusion Step.noConfusion (congrArg Activator.bare ?_) (fun n => ?_)
        (by rw [switch?, hc]; rfl)
      · rw [activator_perform, Advisor.resume, Act.state_bind, hon]
        rfl
      · exact (hstarts n).trans (hleaves n).symm
    | start number =>
      refine .completed number place rfl ?_ (fun n => (hleaves n).trans ?_)
        (by rw [switch?, hc]; rfl)
      · rw [activator_perform, Advisor.resume, Act.state_bind, hon]
        rfl
      · refine or_congr (((hstarts n).trans (or_iff_left (Option.some_ne_none n).symm)).symm) ?_
        exact Option.some_inj.trans eq_comm
  · rw [if_neg he] at hc
    obtain ⟨hstart, hact⟩ := rebuild_pending b.host.setting purpose
      (rebuild.resume reply) (a := b.host.advisor) he
    refine .idle Step.noConfusion Step.noConfusion (congrArg Activator.bare ?_) (fun n => ?_)
      (by rw [switch?, hc]; rfl)
    · rw [activator_perform]
      exact hact
    · exact (mem_starts_perform { b with waiting := b.waiting.eraseIdx place } hstart n).trans
        (hleaves n).symm

private theorem effect_resumed : b.Effect (.resumed place) (b.step (.resumed place)) := by
  by_cases hp : ∃ task reply, b.waiting[place]? = some ⟨task, some reply⟩
  · obtain ⟨task, reply, hp⟩ := hp
    by_cases ht : ∃ rebuild purpose, task = .rebuilding rebuild purpose
    · obtain ⟨rebuild, purpose, rfl⟩ := ht
      exact effect_rebuilding b place hp
    · have hne : ∀ rebuild purpose, task ≠ .rebuilding rebuild purpose :=
        fun rebuild purpose h => ht ⟨rebuild, purpose, h⟩
      have hc : b.completes? place = none := by
        rw [completes?, hp]
        split
        · next he =>
          cases he
          exact absurd rfl (hne _ _)
        · rfl
      have haside := Advisor.aside_resume b.host.advisor b.host.setting task reply hne
      rw [step_resumed_of_some hp]
      refine .idle nofun nofun ?_ (fun n => ?_) (by rw [switch?, hc]; rfl)
      · rw [activator_perform]
        exact congrArg Prod.snd
          (Advisor.untouched_frame.resume_of_ne b.host.setting task reply hne b.host.advisor)
      · refine (mem_starts_perform { b with waiting := b.waiting.eraseIdx place }
          (Task.Progress.start?_of_aside haside) n).trans ?_
        rw [mem_starts_of_waiting hp n, Task.start?_of_ne hne]
  · have hnone : ∀ task reply, b.waiting[place]? ≠ some ⟨task, some reply⟩ :=
      fun task reply h => hp ⟨task, reply, h⟩
    have hc : b.completes? place = none := by
      rw [completes?]
      split
      · next he => exact absurd he (hnone _ _)
      · rfl
    rw [step_resumed_of_ne hnone]
    exact .idle nofun nofun rfl (fun _ => Iff.rfl) (by rw [switch?, hc]; rfl)

end Effects

/-- Every step has one of the effects. -/
theorem effect_step (b : Bureau) (s : Step) : b.Effect s (b.step s) := by
  cases s with
  | started => exact effect_started b
  | stopped => exact .stopped rfl rfl fun _ => Iff.rfl
  | received inbound => exact .idle nofun nofun rfl (fun _ => Iff.rfl) rfl
  | told =>
    cases hd : b.due with
    | nil =>
      rw [step_told_of_nil hd]
      exact .idle nofun nofun rfl (fun _ => Iff.rfl) rfl
    | cons event rest =>
      rw [step_told_of_cons hd]
      exact .idle nofun nofun rfl (fun _ => Iff.rfl) rfl
  | began place => exact effect_began b place
  | called place => exact effect_called b place
  | answered place reply => exact effect_answered b place reply
  | resumed place => exact effect_resumed b place

/-- Only starting and stopping the activator has to do with the start in use. -/
theorem current_step {b : Bureau} {s : Step} (hs : s ≠ .started) (hs' : s ≠ .stopped) :
    (b.step s).activator.current = b.activator.current := by
  cases effect_step b s with
  | idle _ _ ha _ _ => exact congrArg (·.current) ha
  | started h _ _ => exact absurd h hs
  | stopped h _ _ => exact absurd h hs'
  | completed number _ _ ha _ _ =>
    rw [ha]
    exact (Activator.outline_complete _ _ _ _).1
  | switched enabled _ _ _ ha _ _ =>
    rw [ha]
    cases enabled <;> rfl

/-- An activator that is started is not stopped. -/
theorem current_started (b : Bureau) : (b.step .started).activator.current ≠ none := by
  cases effect_started b with
  | started _ ha _ =>
    rw [ha]
    cases hc : b.activator.current with
    | some number =>
      rw [(Activator.begin_of_some b.activator hc).2, hc]
      exact nofun
    | none =>
      rw [(Activator.begin_of_none b.activator hc).2]
      exact nofun
  | idle hs _ _ _ _ => exact absurd rfl hs
  | stopped hs _ _ => cases hs
  | completed _ _ hs _ _ _ => cases hs
  | switched _ _ hs _ _ _ _ => cases hs

/-- An activator that was started stays so until it is stopped. -/
theorem current_step_ne_none {b : Bureau} {s : Step} (hs : s ≠ .stopped)
    (h : b.activator.current ≠ none) : (b.step s).activator.current ≠ none := by
  by_cases hstarted : s = .started
  · rw [hstarted]
    exact current_started b
  · rwa [current_step hstarted hs]

/-- The registrations of the activator are sound, and its pending starts have begun. The start in
use is pending, or the activator listens to changes of the configured catalogs. -/
structure Registered (b : Bureau) : Prop where
  activator : b.activator.Sound
  starts : ∀ n ∈ b.starts, n < b.activator.subscriptions.length
  listens : ∀ n, b.activator.current = some n →
    n ∈ b.starts ∨ 0 < b.activator.tracker.listeners.count (.catalog, .activator)

/-- Nothing is registered at a host whose activator was not started. -/
theorem registered_opened (host : Host) : (opened host).Registered :=
  ⟨.initial, nofun, nofun⟩

namespace Registered

variable {b : Bureau}

/-- Every step keeps the registrations sound. -/
theorem step (h : b.Registered) (s : Step) : (b.step s).Registered := by
  cases effect_step b s with
  | idle hs hs' ha hn hw =>
    refine ⟨h.activator.of_bare ha, fun n hm => ?_, fun n hc => ?_⟩
    · exact Nat.lt_of_lt_of_eq (h.starts n ((hn n).mp hm))
        (congrArg (·.subscriptions.length) ha).symm
    · have hlisteners : (b.step s).activator.tracker.listeners =
          b.activator.tracker.listeners := congrArg (·.tracker.listeners) ha
      rw [hn n, hlisteners]
      exact h.listens n ((congrArg (·.current) ha).symm.trans hc)
  | started hs ha hn =>
    cases hc : b.activator.current with
    | some number =>
      rw [(Activator.begin_of_some b.activator hc).2] at ha
      refine ⟨ha ▸ h.activator, fun n hm => ?_, fun n hn' => ?_⟩
      · rw [ha]
        exact h.starts n (((hn n).mp hm).resolve_right fun hnone => nomatch hc.symm.trans hnone.1)
      · rw [ha] at hn' ⊢
        exact (h.listens n hn').imp_left fun hm => (hn n).mpr (.inl hm)
    | none =>
      refine ⟨ha ▸ h.activator.begin, fun n hm => ?_, fun n hn' => .inl ((hn n).mpr (.inr ?_))⟩
      · rw [ha, (Activator.begin_of_none b.activator hc).2, List.length_append]
        obtain hm' | ⟨-, rfl⟩ := (hn n).mp hm
        · exact Nat.lt_succ_of_lt (h.starts n hm')
        · exact Nat.lt_succ_self _
      · rw [ha, (Activator.begin_of_none b.activator hc).2] at hn'
        exact ⟨hc, (Option.some_inj.mp hn').symm⟩
  | stopped hs ha hn =>
    refine ⟨ha ▸ h.activator.stop, fun n hm => ?_, fun n hc => ?_⟩
    · rw [ha, h.activator.length_stop]
      exact h.starts n ((hn n).mp hm)
    · rw [ha, h.activator.current_stop] at hc
      cases hc
  | completed number place hs ha hn hw =>
    have hnumber := h.starts number ((hn number).mpr (.inr rfl))
    refine ⟨ha ▸ h.activator.complete _ _ hnumber, fun n hm => ?_, fun n hc => ?_⟩
    · rw [ha, (Activator.outline_complete _ _ _ _).2.1]
      exact h.starts n ((hn n).mpr (.inl hm))
    · rw [ha, (Activator.outline_complete _ _ _ _).1] at hc
      rw [ha, h.activator.count_complete _ _ hnumber]
      by_cases hnn : n = number
      · rw [if_pos (hnn ▸ hc)]
        exact .inr (Nat.succ_pos _)
      · refine (h.listens n hc).imp (fun hm => ((hn n).mp hm).resolve_right hnn) fun hm => ?_
        exact Nat.add_pos_left hm _
  | switched enabled place hs hp ha hn hw =>
    have hframe : (b.step s).activator.subscriptions = b.activator.subscriptions ∧
        (b.step s).activator.current = b.activator.current := by
      rw [ha]
      cases enabled <;> exact ⟨rfl, rfl⟩
    refine ⟨ha ▸ h.activator.activationChanged _ _, fun n hm => ?_, fun n hc => ?_⟩
    · rw [hframe.1]
      exact h.starts n ((hn n).mp hm)
    · rw [hn n, ha, h.activator.count_activationChanged]
      exact h.listens n (hframe.2.symm.trans hc)

/-- Every run keeps the registrations sound. -/
theorem run (h : b.Registered) (steps : List Step) : (b.run steps).Registered := by
  induction steps generalizing b with
  | nil => exact h
  | cons s rest ih => exact ih (h.step s)

end Registered

end Bureau

end BreakageAdvisor
