import BreakageAdvisor.Advisor
import BreakageAdvisor.Proofs.Act

/-!
# What tasks leave alone

Attempts work on the ledger, and handlers on the deferred activity. What both leave alone, every
task leaves alone that rebuilds no rules.
-/

namespace BreakageAdvisor

/-- A task that has come so far rebuilds no rules. -/
def Task.Progress.Aside : Task.Progress → Prop
  | waiting (.rebuilding _ _) => False
  | queued _ _ => False
  | _ => True

/-- An activator without what its tracker has deferred. -/
def Activator.bare (a : Activator) : Activator :=
  { a with tracker := { a.tracker with deferred := {} } }

namespace Advisor

variable {τ : Type} {view : Advisor → τ}

section Values

variable (policy : Policy) (a : Advisor)

private theorem aside_replay (tab : Tab) (urls : List Text) :
    ((replay policy tab urls).value a).Aside := by
  induction urls generalizing a with
  | nil => trivial
  | cons url rest ih =>
    simp only [replay, Act.value_bind]
    split
    · trivial
    · rw [Act.value_bind]
      split
      · exact ih _
      · trivial

theorem aside_handled (progress : Handler.Progress) :
    ((handled policy progress).value a).Aside := by
  cases progress with
  | ended => trivial
  | lookingUp lookup => trivial
  | judging case purpose =>
    simp only [handled, Act.value_bind]
    split
    · trivial
    · rw [Act.value_bind]
      split
      · exact aside_replay policy _ _ _
      · trivial

/-- A task that rebuilds no rules goes on as one that does not. -/
theorem aside_resume (setting : Setting) (task : Task) (reply : task.query.Reply)
    (h : ∀ rebuild purpose, task ≠ .rebuilding rebuild purpose) :
    ((resume setting task reply).value a).Aside := by
  cases task with
  | attempting attempt stage =>
    simp only [resume, Act.value_bind]
    split <;> trivial
  | lookingUp lookup => exact aside_handled _ _ _
  | judging attempt stage purpose =>
    simp only [resume, Act.value_bind]
    split
    · trivial
    · exact aside_handled _ _ _
  | rebuilding rebuild purpose => exact absurd rfl (h rebuild purpose)

end Values

/-- Neither attempts nor handlers change what a view shows. -/
structure Untouched (view : Advisor → τ) : Prop where
  begin : ∀ policy (attempt : Attempt), Act.Keeps view (onLedger (attempt.begin policy))
  resume : ∀ policy (attempt : Attempt) (stage : Attempt.Stage) reply,
    Act.Keeps view (onLedger (attempt.resume policy stage reply))
  deferred : ∀ {α : Type} (act : Act Deferred α), Act.Keeps view (onDeferred act)

namespace Untouched

variable (hv : Untouched view)

include hv

/-- Attempts on deferred requests, up to the first that waits. -/
theorem replay (policy : Policy) (tab : Tab) (urls : List Text) :
    Act.Keeps view (replay policy tab urls) := by
  induction urls with
  | nil => exact .pure _
  | cons url rest ih =>
    refine .bind (fun _ => rfl) fun attempt => .bind (hv.begin _ _) fun progress => ?_
    split
    · exact .pure _
    · refine .bind (hv.deferred _) fun judged => ?_
      split
      · exact ih
      · exact .pure _

/-- A handler that has come so far and goes on. -/
theorem handled (policy : Policy) (progress : Handler.Progress) :
    Act.Keeps view (handled policy progress) := by
  cases progress with
  | ended => exact .pure _
  | lookingUp lookup => exact .pure _
  | judging case purpose =>
    refine .bind (fun _ => rfl) fun attempt => .bind (hv.begin _ _) fun progress => ?_
    split
    · exact .pure _
    · refine .bind (hv.deferred _) fun judged => ?_
      split
      · exact hv.replay _ _ _
      · exact .pure _

/-- A handler that begins with the deferred activity. -/
theorem handler (policy : Policy) (begin : Act Deferred Handler.Progress) :
    Act.Keeps view (onDeferred begin >>= Advisor.handled policy) :=
  .bind (hv.deferred _) fun _ => hv.handled _ _

/-- A task that goes on with any reply and rebuilds no rules. -/
theorem resume_of_ne (setting : Setting) (task : Task) (reply : task.query.Reply)
    (h : ∀ rebuild purpose, task ≠ .rebuilding rebuild purpose) :
    Act.Keeps view (Advisor.resume setting task reply) := by
  cases task with
  | attempting attempt stage =>
    refine .bind (hv.resume _ _ _ _) fun progress => ?_
    split
    · exact .pure _
    · exact .pure _
  | lookingUp lookup => exact hv.handler _ _
  | judging attempt stage purpose =>
    refine .bind (hv.resume _ _ _ _) fun progress => ?_
    split
    · exact .pure _
    · exact hv.handler _ _
  | rebuilding rebuild purpose => exact absurd rfl (h rebuild purpose)

end Untouched

/-- The advisor without its ledger and what is deferred. -/
def frame (a : Advisor) : RuleBook × Activator := (a.book, a.activator.bare)

/-- Attempts and handlers work on the ledger and on what is deferred. -/
theorem untouched_frame : Untouched frame :=
  ⟨fun _ _ _ => rfl, fun _ _ _ _ _ => rfl, fun _ _ => rfl⟩

end Advisor

end BreakageAdvisor
