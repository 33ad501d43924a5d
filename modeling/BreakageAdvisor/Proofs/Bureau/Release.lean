import BreakageAdvisor.Proofs.Bureau.Registrations
import BreakageAdvisor.Proofs.Throughout
import Mathlib.Data.List.Induction

/-!
# What stopping the activator releases

The activator may be stopped while it starts, and while handlers have not begun. None of its own
registrations is left then. The tracker is switched on by a start that is completed in test mode or
with the feature active, and by a handler of the feature; it is left on exactly if this happens when
the activator was stopped, and nothing switches it off again.
-/

namespace BreakageAdvisor

namespace Bureau

/-- The tracker is not switched off throughout a run. -/
def Unbroken (b : Bureau) (steps : List Step) : Prop :=
  Throughout (fun past s => (b.run past).switch? s ≠ some false) steps

namespace Registered

variable {b : Bureau} (h : b.Registered)

include h

/-- The tracker runs after a step that switches it on, and after any other if it ran before and the
step does not switch it off. -/
theorem running_step (s : Step) :
    (b.step s).activator.tracker.running =
      (b.switch? s).getD b.activator.tracker.running := by
  cases effect_step b s with
  | idle hs hs' ha hn hw =>
    rw [hw]
    exact congrArg (·.tracker.running) ha
  | started hs ha hn =>
    subst hs
    rw [ha]
    cases hc : b.activator.current with
    | some number => rw [(Activator.begin_of_some b.activator hc).2]; rfl
    | none => rw [(Activator.begin_of_none b.activator hc).2]; rfl
  | stopped hs ha hn =>
    subst hs
    rw [ha, switch?]
    cases hc : b.activator.current with
    | none => rw [Activator.state_stop_of_none b.activator hc]; rfl
    | some number =>
      rw [Tracker.running, h.activator.tracker_stop hc]
      rfl
  | completed number place hs ha hn hw =>
    rw [hw, ha, (Activator.outline_complete _ _ _ _).2.2]
    cases b.host.testMode || b.host.active <;> rfl
  | switched enabled place hs hp ha hn hw =>
    rw [hw, ha]
    cases enabled with
    | true => exact Tracker.running_start b.host.policy.tracking b.activator.tracker
    | false => exact congrArg Option.isSome h.activator.tracker.current_stop

private theorem current_run {steps : List Step} (hc : b.activator.current = none)
    (hs : .started ∉ steps) : (b.run steps).activator.current = none := by
  induction steps generalizing b with
  | nil => exact hc
  | cons s rest ih =>
    have hne : s ≠ .started := fun he => hs (he ▸ List.mem_cons_self)
    refine ih (h.step s) ?_ fun hm => hs (List.mem_cons_of_mem s hm)
    by_cases hstop : s = .stopped
    · subst hstop
      exact h.activator.current_stop
    · exact (current_step hne hstop).trans hc

private theorem running_run {steps : List Step} (hr : b.activator.tracker.running = true)
    (hu : b.Unbroken steps) : (b.run steps).activator.tracker.running = true := by
  induction steps generalizing b with
  | nil => exact hr
  | cons s rest ih =>
    obtain ⟨hs, hrest⟩ := Throughout.cons_iff.mp hu
    refine ih (h.step s) ?_ hrest
    rw [h.running_step]
    cases hw : b.switch? s with
    | none => exact hr
    | some on =>
      cases on with
      | true => rfl
      | false => exact absurd hw hs

/-- A tracker that runs after a run, and not before, was switched on in some step and not switched
off again. -/
private theorem switched_on {steps : List Step} (hr : b.activator.tracker.running = false)
    (he : (b.run steps).activator.tracker.running = true) :
    ∃ front s back, steps = front ++ s :: back ∧ (b.run front).switch? s = some true ∧
      ((b.run front).step s).Unbroken back := by
  induction steps using List.reverseRecOn with
  | nil => cases hr.symm.trans he
  | append_singleton steps s ih =>
    rw [run_append] at he
    have hstep := (h.run steps).running_step s
    cases hw : (b.run steps).switch? s with
    | none =>
      -- The last step switches nothing.
      rw [hw] at hstep
      obtain ⟨front, s', back, rfl, hon, hback⟩ := ih (hstep.symm.trans he)
      refine ⟨front, s', back ++ [s], by rw [List.append_assoc, List.cons_append], hon, ?_⟩
      refine Throughout.concat_iff.mpr ⟨hback, ?_⟩
      have hrun : ((b.run front).step s').run back = b.run (front ++ s' :: back) :=
        (run_append b front (s' :: back)).symm
      rw [hrun, hw]
      exact nofun
    | some on =>
      rw [hw] at hstep
      obtain rfl : on = true := hstep.symm.trans he
      exact ⟨steps, s, [], rfl, hw, .nil⟩

private theorem not_unbroken {steps : List Step} (hc : b.activator.current ≠ none)
    (he : (b.run steps).activator.current = none) : ¬ b.Unbroken steps := by
  intro hu
  induction steps generalizing b with
  | nil => exact hc he
  | cons s rest ih =>
    obtain ⟨hs, hrest⟩ := Throughout.cons_iff.mp hu
    refine ih (h.step s) ?_ he hrest
    by_cases hstop : s = .stopped
    · subst hstop
      exact absurd (if_pos (Option.isSome_iff_ne_none.mpr hc)) hs
    · by_cases hstart : s = .started
      · subst hstart
        exact current_started b
      · rwa [current_step hstart hstop]

end Registered

/-- The tracker is switched on although the activator is not started. -/
def Late (b : Bureau) (s : Step) : Prop :=
  b.activator.current = none ∧ b.switch? s = some true

/-- Once the activator was stopped and not started again, none of its own registrations is left. The
tracker does not run and is registered nowhere either, exactly if it was switched off again whenever
it was switched on late. -/
theorem released_iff_undone (host : Host) (past : List Step) {rest : List Step}
    (hs : .started ∉ rest) :
    (∀ channel, (channel, .activator) ∉
        ((opened host).run (past ++ .stopped :: rest)).activator.tracker.listeners) ∧
      (((opened host).run (past ++ .stopped :: rest)).activator.tracker.running = false ∧
          ((opened host).run (past ++ .stopped :: rest)).activator.tracker.listeners = [] ↔
        ∀ front s back, past ++ .stopped :: rest = front ++ s :: back →
          ((opened host).run front).Late s →
            ¬ (((opened host).run front).step s).Unbroken back) := by
  have hr := registered_opened host
  have hend := hr.run (past ++ .stopped :: rest)
  have hcurrent : ((opened host).run (past ++ .stopped :: rest)).activator.current = none := by
    rw [run_append]
    exact ((hr.run past).step .stopped).current_run (hr.run past).activator.current_stop hs
  have hnone (channel : Channel) : (channel, .activator) ∉
      ((opened host).run (past ++ .stopped :: rest)).activator.tracker.listeners :=
    List.count_eq_zero.mp (hend.activator.stopped hcurrent channel)
  refine ⟨hnone, ?_, ?_⟩
  · rintro ⟨hoff, -⟩ front s back he ⟨-, hon⟩ hu
    have hstep := (hr.run front).running_step s
    rw [hon] at hstep
    have hrun := ((hr.run front).step s).running_run hstep hu
    rw [he, run_append] at hoff
    cases hoff.symm.trans hrun
  · intro hall
    have hoff : ((opened host).run (past ++ .stopped :: rest)).activator.tracker.running =
        false := by
      rw [Bool.eq_false_iff]
      intro hon
      obtain ⟨front, s, back, he, hsw, hu⟩ := hr.switched_on rfl hon
      by_cases hc : ((opened host).run front).activator.current = none
      · exact hall front s back he ⟨hc, hsw⟩ hu
      · -- The activator was stopped after that, which switched the tracker off.
        rw [he, run_append] at hcurrent
        refine (hr.run front).not_unbroken hc hcurrent (Throughout.cons_iff.mpr ⟨?_, hu⟩)
        rw [run, List.foldl_nil, hsw]
        exact nofun
    refine ⟨hoff, List.eq_nil_iff_forall_not_mem.mpr ?_⟩
    rintro ⟨channel, listener⟩ hm
    cases listener with
    | activator => exact hnone channel hm
    | tracker =>
      have hcurrent : ((opened host).run
          (past ++ .stopped :: rest)).activator.tracker.current = none :=
        Option.not_isSome_iff_eq_none.mp fun hon => nomatch hoff.symm.trans hon
      exact List.count_eq_zero.mp (hend.activator.tracker.stopped hcurrent channel) hm

/-- The four catalogs are read for a rebuild. -/
def rebuilding : List Step := reads true ++ reads true ++ reads true ++ reads true

/-- The feature is switched on, and its listeners are told. -/
def enabling : List Step := [.received (.feature true), .told]

/-- The feature is switched off, and its listeners are told. -/
def disabling : List Step := [.received (.feature false), .told]

/-- The activator listens, and is told that the feature is active and that it is not. -/
def toggled : List Step := [.started] ++ rebuilding ++ enabling ++ disabling

/-- The tracker was switched on by a handler that began after the activator was stopped, and it was
switched off by another. -/
theorem released_iff_undone_toggled :
    .started ∉ [Step.began 0, .began 0] ∧
      ((opened {}).run (toggled ++ [.stopped])).Late (.began 0) ∧
        ¬ (((opened {}).run (toggled ++ [.stopped])).step (.began 0)).Unbroken [.began 0] := by
  have hlate : ((opened {}).run (toggled ++ [.stopped])).Late (.began 0) := ⟨rfl, rfl⟩
  have hrest : Step.started ∉ [Step.began 0, .began 0] := by simp
  refine ⟨hrest, hlate, ?_⟩
  exact (released_iff_undone {} toggled hrest).2.mp ⟨rfl, rfl⟩ _ _ _ rfl hlate

/-- No task and no handler is left. -/
structure Settled (b : Bureau) : Prop where
  due : b.due = []
  ready : b.ready = []
  waiting : b.waiting = []
  queued : b.queued = []

/-- In test mode, the activator is stopped before it has read the catalogs. -/
def overtaken : Bureau :=
  (opened { testMode := true }).run ([.started, .stopped] ++ rebuilding)

/-- The activator is stopped before its handler begins, which is told that the feature is active. -/
def belated : Bureau :=
  (opened {}).run ([.started] ++ rebuilding ++ enabling ++ [.stopped, .began 0])

/-- The tracker runs and is registered although the activator was stopped, if the stop has overtaken
a start in test mode, and if it has overtaken a handler of the feature. -/
theorem tracker_not_released :
    (overtaken.Settled ∧ overtaken.activator.current = none ∧
        overtaken.activator.tracker.running = true ∧
        overtaken.activator.tracker.listeners =
          Tracker.places .tracker [.tabUpdated, .tabActivated, .request]) ∧
      (belated.Settled ∧ belated.activator.current = none ∧
        belated.activator.tracker.running = true ∧
        belated.activator.tracker.listeners =
          Tracker.places .tracker [.tabUpdated, .tabActivated, .request]) :=
  ⟨⟨⟨rfl, rfl, rfl, rfl⟩, rfl, rfl, rfl⟩, ⟨rfl, rfl, rfl, rfl⟩, rfl, rfl, rfl⟩

end Bureau

end BreakageAdvisor
