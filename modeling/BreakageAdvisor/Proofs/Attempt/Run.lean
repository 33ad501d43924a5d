import BreakageAdvisor.Proofs.Attempt.Completion
import BreakageAdvisor.Proofs.Attempt.Phase

/-!
# Whole runs of attempts

An attempt that gets a reply to every query is run from its beginning to its end: it finds the
domain of its URL, enters the ledger with it, judges the rule that is found there, and goes on as
the replies tell it.
-/

namespace BreakageAdvisor

namespace Attempt

variable (policy : Policy) (reply : (query : Query) → query.Reply) (attempt : Attempt)

/-- Runs an attempt from its beginning to its end, with a reply to every query, and gives the
verdict. -/
def run : Act Ledger (Except Failure Bool) := do
  attempt.complete policy reply (← attempt.begin policy)

/-- The domain that an attempt compares with those of rules. A registrable domain that cannot be had
counts as empty. -/
def domain : Text :=
  match policy.matching.get attempt.trigger with
  | .host => Url.host attempt.url
  | .baseDomain =>
    match reply (.baseDomain attempt.url) with
    | .ok domain => domain
    | .error _ => []

/-- Finds the domain that an attempt compares, and asks for it if need be. -/
def findDomain : Act Ledger Text :=
  match policy.matching.get attempt.trigger with
  | .host => return Url.host attempt.url
  | .baseDomain => do
    Act.enter (.asked (.baseDomain attempt.url))
    resolved attempt.url (reply (.baseDomain attempt.url))

/-- Runs an attempt from its beginning to its end, with some way to judge the rule that is found for
a domain. -/
def runWith (judge : Text → Rule → Act Ledger Progress) : Act Ledger (Except Failure Bool) := do
  let domain ← attempt.findDomain policy reply
  attempt.complete policy reply (← attempt.enterWith domain (judge domain))

/-- An attempt is run by judging the rule that is found. -/
theorem run_eq_runWith :
    attempt.run policy reply = attempt.runWith policy reply (attempt.judge policy) := by
  unfold run runWith begin findDomain
  cases policy.matching.get attempt.trigger with
  | host => rfl
  | baseDomain =>
    rw [Act.bind_assoc]
    refine (complete_waiting policy reply attempt .resolving).trans ?_
    congr 1
    funext entered
    exact Act.bind_assoc (resolved _ _) (attempt.enter policy) _

@[simp]
theorem value_findDomain (l : Ledger) :
    (attempt.findDomain policy reply).value l = attempt.domain policy reply := by
  unfold findDomain domain
  cases policy.matching.get attempt.trigger with
  | host => rfl
  | baseDomain => cases reply (.baseDomain attempt.url) <;> rfl

@[simp]
theorem state_findDomain (l : Ledger) : (attempt.findDomain policy reply).state l = l := by
  unfold findDomain
  cases policy.matching.get attempt.trigger with
  | host => rfl
  | baseDomain => cases reply (.baseDomain attempt.url) <;> rfl

/-- A run that finishes releases its domain and gives the result. -/
theorem complete_finish (d : Text) (result : Except Failure Bool) :
    (do attempt.complete policy reply (← finish d result)) = do
      Ledger.release d
      return result := by
  refine (Act.bind_assoc (Ledger.release d) _ _).trans (Act.bind_congr_value fun _ => ?_)
  exact complete_ended policy reply attempt result

end Attempt

end BreakageAdvisor
