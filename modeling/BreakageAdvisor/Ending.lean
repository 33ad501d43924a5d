import BreakageAdvisor.Advisor

/-!
# Tasks end

Every reply brings a task closer to its end: the rank of the stage at which a task waits next is
below that of the stage before. So a task whose queries are all answered ends.
-/

namespace BreakageAdvisor

namespace Attempt

/-- The rank of a stage: which query comes next, and how many jars may still be asked for. -/
def Stage.rank : Stage → Nat × Nat
  | resolving => (4, 0)
  | gathering _ _ _ _ rest _ => (3, rest.length)
  | showing _ _ => (2, 0)
  | allowing _ => (1, 0)
  | reloading _ => (0, 0)

/-- Whether an attempt has ended, or waits at a stage below a rank. -/
def Progress.Below (bound : Nat × Nat) : Progress → Prop
  | ended _ => True
  | waiting stage =>
    stage.rank.1 < bound.1 ∨ stage.rank.1 = bound.1 ∧ stage.rank.2 < bound.2

private theorem Progress.Below.mono {a b : Nat × Nat} {p : Progress} (h : p.Below a)
    (hab : a.1 < b.1) :
    p.Below b := by
  cases p with
  | ended _ => trivial
  | waiting stage =>
    simp only [Progress.Below] at h ⊢
    omega

private theorem below_finish (bound : Nat × Nat) (domain : Text) (result : Except Failure Bool)
    (l : Ledger) : ((finish domain result).value l).Below bound := by
  simp [finish, Progress.Below]

private theorem below_decide (attempt : Attempt) (domain : Text) (rule : Rule)
    (condition : Condition)
    (e : Evaluation) (l : Ledger) :
    ((attempt.decide domain rule condition e).value l).Below (3, e.remaining) := by
  cases e with
  | wanting wanted rest gathered =>
    simp [decide, Progress.Below, Stage.rank, Evaluation.remaining]
  | complete gathered =>
    simp only [decide]
    split
    · simp [Progress.Below, Stage.rank]
    · exact below_finish _ _ _ _
    · exact below_finish _ _ _ _

private theorem below_judge (policy : Policy) (attempt : Attempt) (domain : Text) (rule : Rule)
    (l : Ledger) : ((attempt.judge policy domain rule).value l).Below (4, 0) := by
  unfold judge
  split
  · simp [Progress.Below, Stage.rank]
  · split
    · exact (below_decide _ _ _ _ _ l).mono (by simp)
    · split
      · simp only [Act.value_bind]
        exact below_finish _ _ _ _
      · exact below_finish _ _ _ _

private theorem below_enter (policy : Policy) (attempt : Attempt) (domain : Text) (l : Ledger) :
    ((attempt.enter policy domain).value l).Below (4, 0) := by
  unfold enter
  simp only [Act.value_bind]
  split
  · simp only [Act.value_bind]
    split
    · exact below_judge _ _ _ _ _
    · exact below_finish _ _ _ _
  · simp [Progress.Below]

private theorem below_answered (policy : Policy) (domain : Text) (rule : Rule) (outcome : Json)
    (l : Ledger) : ((answered policy domain rule outcome).value l).Below (2, 0) := by
  unfold answered
  split
  · exact below_finish _ _ _ _
  · exact below_finish _ _ _ _
  · split
    · exact below_finish _ _ _ _
    · split
      · simp only [Act.value_bind]
        exact below_finish _ _ _ _
      · split
        · simp [Progress.Below, Stage.rank]
        · simp only [Act.value_bind]
          exact below_finish _ _ _ _
  · simp only [Act.value_bind]
    exact below_finish _ _ _ _

/-- A reply brings an attempt to a lower stage. -/
theorem below_resume (policy : Policy) (attempt : Attempt) (stage : Stage)
    (reply : (stage.query attempt).Reply) (l : Ledger) :
    ((attempt.resume policy stage reply).value l).Below stage.rank := by
  unfold resume
  split
  · simp only [Act.value_bind]
    exact below_enter _ _ _ _
  · rename_i domain rule condition wanted rest gathered reply
    simp only [Act.value_bind]
    have h := below_decide attempt domain rule condition
      ((Evaluation.resume wanted rest gathered reply).value l)
      ((Evaluation.resume wanted rest gathered reply).state l)
    have hle := Evaluation.remaining_resume_le wanted rest gathered reply l
    revert h
    generalize (attempt.decide domain rule condition _).value _ = p
    intro h
    cases p with
    | ended _ => trivial
    | waiting s =>
      simp only [Progress.Below, Stage.rank] at h ⊢
      omega
  · simp only [shown, Act.value_bind]
    exact below_answered _ _ _ _ _
  · simp only [shown, Act.value_bind]
    exact below_answered _ _ _ _ _
  · simp only [Act.value_bind]
    exact below_finish _ _ _ _
  · simp [Progress.Below, Stage.rank]
  · exact below_finish _ _ _ _
  · exact below_finish _ _ _ _
  · exact below_finish _ _ _ _

end Attempt

/-- How many deferred activities a handler may still come to. -/
def Handler.Purpose.pending : Handler.Purpose → Nat
  | update => 0
  | request => 0
  | replay _ rest => rest.length + 1

/-- How many queries a rebuild may still make. -/
def Rebuild.pending : Rebuild → Nat
  | bundled _ rest => 2 * rest.length + 1
  | configured _ rest => 2 * rest.length

namespace Task

/-- The rank of a waiting task: how much may still come, and where its attempt stands. -/
def rank : Task → Nat × Nat × Nat
  | attempting _ stage => (0, stage.rank)
  | lookingUp (.request _) => (1, 0, 0)
  | lookingUp (.activation _ _ taken) => (taken.length + 2, 0, 0)
  | judging _ stage purpose => (purpose.pending, stage.rank)
  | rebuilding rebuild _ => (rebuild.pending, 0, 0)

/-- The rank of a task that has come so far. -/
def Progress.rank : Progress → Nat × Nat × Nat
  | waiting task => (task.rank.1 + 1, task.rank.2)
  | _ => (0, 0, 0)

/-- The order of ranks, first part first. -/
abbrev Lower : Nat × Nat × Nat → Nat × Nat × Nat → Prop :=
  Prod.Lex (· < ·) (Prod.Lex (· < ·) (· < ·))

end Task

namespace Advisor

private theorem rank_replay (policy : Policy) (tab : Tab) (urls : List Text) (a : Advisor) :
    ((replay policy tab urls).value a).rank.1 ≤ urls.length + 1 := by
  induction urls generalizing a with
  | nil => simp [replay, Task.Progress.rank]
  | cons url rest ih =>
    simp only [replay, Act.value_bind]
    split
    · simp [Task.Progress.rank, Task.rank, Handler.Purpose.pending]
    · simp only [Act.value_bind]
      split
      · exact Nat.le_succ_of_le (ih _)
      · simp [Task.Progress.rank]

/-- A judgement leads on only within a replay, to the next request. -/
theorem judged_pending (purpose : Handler.Purpose) (result : Except Failure Bool) (d : Deferred)
    (case : Handler.Case) (next : Handler.Purpose)
    (h : (Handler.judged purpose result).value d = .judging case next) :
    ∃ tab rest, next = .replay tab rest ∧ rest.length + 1 < purpose.pending := by
  unfold Handler.judged at h
  split at h
  · simp at h
  · rename_i tab rest
    cases rest with
    | nil => simp [Handler.replay] at h
    | cons url rest =>
      simp only [Handler.replay, Act.value_pure, Handler.Progress.judging.injEq] at h
      exact ⟨tab, rest, h.2.symm, by simp [Handler.Purpose.pending]⟩
  · simp at h

private theorem rank_handled (policy : Policy) (progress : Handler.Progress) (bound : Nat)
    (hl : ∀ lookup, progress ≠ .lookingUp lookup)
    (hj : ∀ case purpose, progress = .judging case purpose → purpose.pending < bound)
    (a : Advisor) : ((handled policy progress).value a).rank.1 ≤ bound := by
  cases progress with
  | ended => simp [handled, Task.Progress.rank]
  | lookingUp lookup => exact absurd rfl (hl lookup)
  | judging case purpose =>
    have hb := hj case purpose rfl
    simp only [handled, Act.value_bind]
    split
    · simp only [Act.value_pure, Task.Progress.rank, Task.rank]
      omega
    · simp only [Act.value_bind]
      split
      · rename_i h
        obtain ⟨_, _, hn, hp⟩ := judged_pending _ _ _ _ _ h
        cases hn
        refine Nat.le_trans (rank_replay _ _ _ _) ?_
        simp only [List.length_cons]
        omega
      · simp [Task.Progress.rank]

/-- A handler that looked a tab up looks up no other. -/
theorem lookedUp_ne_lookingUp (lookup other : Handler.Lookup) (reply : Except Failure Tab)
    (d : Deferred) : (Handler.lookedUp lookup reply).value d ≠ .lookingUp other := by
  unfold Handler.lookedUp
  split
  · simp
  · simp
  · split <;> simp
  · split
    · split
      · simp
      · rename_i taken _ _ _
        cases taken <;> simp [Handler.replay]
    · simp

/-- A handler that looked a tab up has less to come than before. -/
theorem lookedUp_pending (lookup : Handler.Lookup) (reply : Except Failure Tab) (d : Deferred)
    (case : Handler.Case) (purpose : Handler.Purpose)
    (h : (Handler.lookedUp lookup reply).value d = .judging case purpose) :
    purpose.pending < (Task.lookingUp lookup).rank.1 := by
  unfold Handler.lookedUp at h
  split at h
  · simp at h
  · simp at h
  · split at h
    · simp only [Act.value_pure, Handler.Progress.judging.injEq] at h
      simp [← h.2, Handler.Purpose.pending, Task.rank]
    · simp at h
  · rename_i taken _
    split at h
    · split at h
      · simp only [Act.value_pure, Handler.Progress.judging.injEq] at h
        simp [← h.2, Handler.Purpose.pending, Task.rank]
      · cases taken with
        | nil => simp [Handler.replay] at h
        | cons url rest =>
          simp only [Handler.replay, Act.value_pure, Handler.Progress.judging.injEq] at h
          simp only [← h.2, Handler.Purpose.pending, Task.rank, List.length_cons]
          omega
    · simp at h

/-- A judgement never makes a handler look a tab up. -/
theorem judged_ne_lookingUp (purpose : Handler.Purpose) (result : Except Failure Bool)
    (lookup : Handler.Lookup) (d : Deferred) :
    (Handler.judged purpose result).value d ≠ .lookingUp lookup := by
  unfold Handler.judged
  split
  · simp
  · rename_i rest
    cases rest <;> simp [Handler.replay]
  · simp

private theorem pending_next (rest : List Trigger) (book : RuleBook) (next : Rebuild)
    (h : (Rebuild.next rest).value book = .waiting next) : next.pending < 2 * rest.length := by
  cases rest with
  | nil => simp [Rebuild.next] at h
  | cons trigger rest =>
    simp only [Rebuild.next, Act.value_bind] at h
    split at h <;>
      · simp only [Act.value_pure, Rebuild.Progress.waiting.injEq] at h
        simp only [← h, Rebuild.pending, List.length_cons]
        omega

private theorem pending_resume (rebuild : Rebuild) (reply : rebuild.query.Reply) (book : RuleBook)
    (next : Rebuild) (h : (rebuild.resume reply).value book = .waiting next) :
    next.pending < rebuild.pending := by
  unfold Rebuild.resume at h
  split at h <;> simp only [Act.value_bind] at h
  · simp only [Act.value_pure, Rebuild.Progress.waiting.injEq] at h
    simp [← h, Rebuild.pending]
  · simp only [Act.value_pure, Rebuild.Progress.waiting.injEq] at h
    simp [← h, Rebuild.pending]
  · exact pending_next _ _ _ h
  · exact pending_next _ _ _ h

private theorem lower_of_first {p : Task.Progress} {task : Task} (h : p.rank.1 ≤ task.rank.1) :
    Task.Lower p.rank (Task.Progress.waiting task).rank := by
  rcases hp : p.rank with ⟨x, y⟩
  rw [hp] at h
  exact Prod.Lex.left _ _ (Nat.lt_succ_of_le h)

private theorem lower_of_stage {stage next : Attempt.Stage} {task later : Task}
    (hf : later.rank.1 = task.rank.1) (hs : task.rank.2 = stage.rank)
    (hn : later.rank.2 = next.rank) (h : (Attempt.Progress.waiting next).Below stage.rank) :
    Task.Lower (Task.Progress.waiting later).rank (Task.Progress.waiting task).rank := by
  simp only [Task.Progress.rank, hf, hs, hn]
  refine Prod.Lex.right _ ?_
  simp only [Attempt.Progress.Below] at h
  exact Prod.lex_def.2 h

private theorem rank_rebuilt (setting : Setting) (purpose : Rebuild.Purpose)
    (progress : Rebuild.Progress)
    (bound : Nat) (h : ∀ next, progress = .waiting next → next.pending < bound) (a : Advisor) :
    ((rebuilt setting purpose progress).value a).rank.1 ≤ bound := by
  cases progress with
  | queued number => exact Nat.zero_le _
  | waiting next => exact h next rfl
  | ended => cases purpose <;> exact Nat.zero_le _

/-- A reply brings a task closer to its end. -/
theorem rank_resume (setting : Setting) (task : Task) (reply : task.query.Reply) (a : Advisor) :
    Task.Lower ((resume setting task reply).value a).rank (Task.Progress.waiting task).rank := by
  cases task with
  | attempting attempt stage =>
    have h := Attempt.below_resume setting.policy attempt stage reply a.ledger
    simp only [resume, Act.value_bind]
    split
    · rename_i next hn
      exact lower_of_stage rfl rfl rfl (hn ▸ h)
    · exact lower_of_first (Nat.zero_le _)
  | lookingUp lookup =>
    simp only [resume, Act.value_bind]
    exact lower_of_first (rank_handled _ _ _ (lookedUp_ne_lookingUp lookup · reply _)
      (lookedUp_pending lookup reply _) _)
  | judging attempt stage purpose =>
    have h := Attempt.below_resume setting.policy attempt stage reply a.ledger
    simp only [resume, Act.value_bind]
    split
    · rename_i next hn
      exact lower_of_stage rfl rfl rfl (hn ▸ h)
    · simp only [Act.value_bind]
      refine lower_of_first (rank_handled _ _ _ (judged_ne_lookingUp purpose _ · _) ?_ _)
      intro case next hc
      obtain ⟨_, _, rfl, hp⟩ := judged_pending _ _ _ _ _ hc
      exact hp
  | rebuilding rebuild purpose =>
    simp only [resume, Act.value_bind]
    exact lower_of_first (rank_rebuilt _ _ _ _ (pending_resume rebuild reply _) _)

end Advisor

end BreakageAdvisor
