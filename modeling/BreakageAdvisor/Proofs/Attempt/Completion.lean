import BreakageAdvisor.Ending
import BreakageAdvisor.Proofs.Act

/-!
# Attempts run to their end

An attempt that gets a reply to every query ends with a verdict.
-/

namespace BreakageAdvisor

namespace Attempt

/-- The rank of an attempt that has come so far. -/
def Progress.rank : Progress → Nat × Nat
  | ended _ => (0, 0)
  | waiting stage => (stage.rank.1 + 1, stage.rank.2)

/-- A reply brings an attempt closer to its end. -/
theorem rank_resume (policy : Policy) (attempt : Attempt) (stage : Stage)
    (reply : (stage.query attempt).Reply) (l : Ledger) :
    Prod.Lex (· < ·) (· < ·) ((attempt.resume policy stage reply).value l).rank
      (Progress.waiting stage).rank := by
  have h := below_resume policy attempt stage reply l
  cases hp : (attempt.resume policy stage reply).value l with
  | ended result => exact Prod.Lex.left _ _ (Nat.succ_pos _)
  | waiting next =>
    rw [hp] at h
    rw [Prod.lex_def]
    simp only [Progress.Below, Progress.rank] at h ⊢
    omega

/-- Runs an attempt to its end, with a reply to every query, and gives the verdict. -/
def complete (policy : Policy) (reply : (query : Query) → query.Reply) (attempt : Attempt) :
    Progress → Act Ledger (Except Failure Bool)
  | .ended result => return result
  | .waiting stage => fun ledger =>
    let step := attempt.resume policy stage (reply (stage.query attempt)) ledger
    let later := complete policy reply attempt step.1.1 step.1.2
    (later.1, .asked (stage.query attempt) :: step.2 ++ later.2)
termination_by progress => progress.rank
decreasing_by exact rank_resume policy attempt stage _ ledger

variable (policy : Policy) (reply : (query : Query) → query.Reply) (attempt : Attempt)

/-- An attempt that has ended gives its result. -/
theorem complete_ended (result : Except Failure Bool) :
    attempt.complete policy reply (.ended result) = pure result := complete.eq_def ..

/-- An attempt that waits asks its query and goes on with the reply. -/
theorem complete_waiting (stage : Stage) :
    attempt.complete policy reply (.waiting stage) = (do
      Act.enter (.asked (stage.query attempt))
      attempt.complete policy reply
        (← attempt.resume policy stage (reply (stage.query attempt)))) :=
  complete.eq_def ..

end Attempt

end BreakageAdvisor
