import BreakageAdvisor.Proofs.Attempt.Completion
import BreakageAdvisor.Proofs.Handler.Completion
import BreakageAdvisor.Rehearsal

/-!
# Handlers and their judgements

A handler that gets a reply to every query, told by its judgements: every case that it hands over is
one attempt, run to its end. What the advisor does while such a handler is driven to its end is the
same, entry by entry.
-/

namespace BreakageAdvisor

/-- A case that was handed over, with its verdict. -/
structure Judgement where
  case : Handler.Case
  verdict : Except Failure Bool
  /-- The cases that the handler goes on with if this one shows no notification. -/
  later : List Handler.Case

namespace Advisor

variable (policy : Policy) (reply : (query : Query) → query.Reply)

/-- An attempt on a case, run to its end. -/
def judge (case : Handler.Case) : Act Advisor (Except Failure Bool) := do
  let attempt ← attempt case.tab.id case.trigger case.url
  onLedger do attempt.complete policy reply (← attempt.begin policy)

/-- Runs a handler that has come so far to its end, and gives its judgements in order. -/
def play : Handler.Progress → Act Advisor (List Judgement)
  | .ended => return []
  | .lookingUp lookup => fun a =>
    let found := onDeferred (Handler.lookedUp lookup (reply (.tab lookup.tab))) a
    let later := play found.1.1 found.1.2
    (later.1, .asked (.tab lookup.tab) :: found.2 ++ later.2)
  | .judging case purpose => fun a =>
    let judged := judge policy reply case a
    let next := onDeferred (Handler.judged purpose judged.1.1) judged.1.2
    let later := play next.1.1 next.1.2
    ((⟨case, judged.1.1, purpose.rest⟩ :: later.1.1, later.1.2), judged.2 ++ next.2 ++ later.2)
termination_by progress => progress.pending
decreasing_by
  · exact Handler.pending_lookedUp lookup _ _
  · exact Handler.pending_judged case purpose _ _

/-- A handler that has ended hands nothing over. -/
theorem play_ended : play policy reply .ended = pure [] := play.eq_def ..

/-- A handler that looks a tab up goes on with the tab. -/
theorem play_lookingUp (lookup : Handler.Lookup) :
    play policy reply (.lookingUp lookup) = (do
      Act.enter (.asked (.tab lookup.tab))
      play policy reply (← onDeferred (Handler.lookedUp lookup (reply (.tab lookup.tab))))) :=
  play.eq_def ..

/-- A handler hands a case over and goes on with the verdict. -/
theorem play_judging (case : Handler.Case) (purpose : Handler.Purpose) :
    play policy reply (.judging case purpose) = (do
      let verdict ← judge policy reply case
      let judgements ← play policy reply (← onDeferred (Handler.judged purpose verdict))
      return ⟨case, verdict, purpose.rest⟩ :: judgements) := by
  refine (play.eq_def ..).trans ?_
  funext a
  exact congrArg (Prod.mk _)
    ((List.append_assoc ..).trans (congrArg _ (congrArg _ (List.append_nil _).symm)))

private theorem onLedger_bind {α β : Type} (act : Act Ledger α) (next : α → Act Ledger β) :
    onLedger (act >>= next) = onLedger act >>= fun a => onLedger (next a) := rfl

/-- Goes on with a handler whose attempt has come so far. -/
def attempted (attempt : Attempt) (purpose : Handler.Purpose) :
    Attempt.Progress → Act Advisor Task.Progress
  | .waiting stage => return .waiting (.judging attempt stage purpose)
  | .ended result => do handled policy (← onDeferred (Handler.judged purpose result))

private theorem handled_judging (case : Handler.Case) (purpose : Handler.Purpose) :
    handled policy (.judging case purpose) = (do
      let attempt ← attempt case.tab.id case.trigger case.url
      attempted policy attempt purpose (← onLedger (attempt.begin policy))) := by
  refine Act.bind_congr_value fun a => Act.bind_congr_value fun b => ?_
  cases (onLedger _).value b with
  | waiting stage => rfl
  | ended result =>
    refine Act.bind_congr_value fun c => ?_
    cases result with
    | error cause => rfl
    | ok shown =>
      cases shown with
      | true => cases purpose <;> rfl
      | false =>
        cases purpose with
        | update => rfl
        | request => rfl
        | replay tab rest =>
          cases rest with
          | nil => rfl
          | cons url rest => exact (handled_replay policy tab (url :: rest)).symm

private theorem resume_judging (setting : Setting) (attempt : Attempt) (stage : Attempt.Stage)
    (purpose : Handler.Purpose) (reply : (Task.judging attempt stage purpose).query.Reply) :
    resume setting (.judging attempt stage purpose) reply = (do
      attempted setting.policy attempt purpose
        (← onLedger (attempt.resume setting.policy stage reply))) :=
  Act.bind_congr_value fun a => by cases (onLedger _).value a <;> rfl

end Advisor

/-- Whether a task waits for a reply. -/
def Task.Progress.waits : Task.Progress → Bool
  | waiting _ => true
  | _ => false

namespace Rehearsal

variable (setting : Setting) (reply : (query : Query) → query.Reply)

private theorem drive_ended (outcome : Task.Outcome) :
    drive setting reply (.ended outcome) = pure (.ended outcome) := drive.eq_def ..

private theorem drive_waiting (task : Task) :
    drive setting reply (.waiting task) = (do
      Act.enter (.asked task.query)
      drive setting reply (← Advisor.resume setting task (reply task.query))) := drive.eq_def ..

/-- A handler whose attempt has come so far is driven through the rest of the attempt, and goes on
with the verdict. -/
private theorem drive_attempted (attempt : Attempt) (purpose : Handler.Purpose)
    (progress : Attempt.Progress) :
    (do drive setting reply (← Advisor.attempted setting.policy attempt purpose progress)) = (do
      let verdict ← Advisor.onLedger (attempt.complete setting.policy reply progress)
      let next ← Advisor.onDeferred (Handler.judged purpose verdict)
      drive setting reply (← Advisor.handled setting.policy next)) := by
  induction progress using Attempt.complete.induct setting.policy reply attempt with
  | case1 result =>
    rw [Attempt.complete_ended, Advisor.attempted, Act.bind_assoc]
    rfl
  | case2 stage ih =>
    rw [Attempt.complete_waiting, Advisor.onLedger_bind, Advisor.onLedger_bind, Act.bind_assoc,
      Act.bind_assoc]
    refine (drive_waiting setting reply (.judging attempt stage purpose)).trans ?_
    rw [Advisor.resume_judging, Act.bind_assoc]
    exact congrArg (Act.enter (.asked (stage.query attempt)) >>= ·)
      (funext fun _ => Act.bind_congr_value fun a => ih a.ledger)

/-- A handler that hands a case over is driven through the judgement, and goes on with the
verdict. -/
private theorem drive_judging (case : Handler.Case) (purpose : Handler.Purpose) :
    (do drive setting reply (← Advisor.handled setting.policy (.judging case purpose))) = (do
      let verdict ← Advisor.judge setting.policy reply case
      let next ← Advisor.onDeferred (Handler.judged purpose verdict)
      drive setting reply (← Advisor.handled setting.policy next)) := by
  rw [Advisor.handled_judging, Advisor.judge]
  simp only [Act.bind_assoc, drive_attempted, Advisor.onLedger_bind]

private theorem drive_handled (progress : Handler.Progress) :
    (do drive setting reply (← Advisor.handled setting.policy progress)) = (do
      let _ ← Advisor.play setting.policy reply progress
      return .ended .done) := by
  induction h : progress.pending using Nat.strongRecOn generalizing progress with
  | ind pending ih =>
    subst h
    cases progress with
    | ended =>
      rw [Advisor.play_ended]
      exact drive_ended setting reply .done
    | lookingUp lookup =>
      rw [Advisor.play_lookingUp, Act.bind_assoc, Act.bind_assoc]
      refine (drive_waiting setting reply (.lookingUp lookup)).trans ?_
      rw [Advisor.resume, Act.bind_assoc]
      exact congrArg (Act.enter (.asked (.tab lookup.tab)) >>= ·) (funext fun _ =>
        Act.bind_congr_value fun _ => ih _ (Handler.pending_lookedUp lookup _ _) _ rfl)
    | judging case purpose =>
      rw [drive_judging, Advisor.play_judging, Act.bind_assoc]
      refine Act.bind_congr_value fun a => ?_
      rw [Act.bind_assoc]
      refine Act.bind_congr_value fun b => ?_
      rw [Act.bind_assoc]
      exact ih _ (Handler.pending_judged case purpose _ _) _ rfl

/-- Answers so many queries of a task, one after the other, as long as it waits. -/
def driveFor : Nat → Task.Progress → Act Advisor Task.Progress
  | n + 1, .waiting task => do
    Act.enter (.asked task.query)
    driveFor n (← Advisor.resume setting task (reply task.query))
  | _, progress => return progress

private theorem drive_eq_driveFor (n : Nat) (progress : Task.Progress) (a : Advisor)
    (h : ((driveFor setting reply n progress).value a).waits = false) :
    drive setting reply progress a = driveFor setting reply n progress a := by
  induction n generalizing progress a with
  | zero =>
    cases progress with
    | waiting task => cases h
    | _ => exact congrFun (drive.eq_def ..) a
  | succ n ih =>
    cases progress with
    | waiting task =>
      rw [drive_waiting, driveFor]
      exact Act.bind_congr_at (Act.bind_congr_at (ih _ _ h))
    | _ => exact congrFun (drive.eq_def ..) a

end Rehearsal

/-- A report, and the replies that its handler gets while it runs to its end. -/
structure Occasion where
  report : Handler.Report
  reply : (query : Query) → query.Reply
  /-- No query fails for the condition of a rule. -/
  unrelated : ∀ query error, reply query ≠ .error (.condition error)

namespace Occasion

/-- Begins to handle the report of an occasion. -/
def begin (o : Occasion) (policy : Policy) : Act Advisor Task.Progress :=
  match o.report with
  | .updated update => Advisor.tabUpdated policy update
  | .requested event => Advisor.requested policy event
  | .activated tab => Advisor.tabActivated policy tab

/-- Handles the report of an occasion, to the end. -/
def run (setting : Setting) (o : Occasion) : Act Advisor Task.Progress := do
  Rehearsal.drive setting o.reply (← o.begin setting.policy)

/-- The judgements on an occasion. -/
def judgements (policy : Policy) (o : Occasion) : Act Advisor (List Judgement) := do
  Advisor.play policy o.reply (← Advisor.onDeferred (o.report.handle policy.tracking))

/-- On an occasion the advisor does what its judgements tell, and comes to an end. -/
theorem run_eq (setting : Setting) (o : Occasion) :
    o.run setting = (do
      let _ ← o.judgements setting.policy
      return .ended .done) := by
  have hbegin : o.begin setting.policy = (do
      Advisor.handled setting.policy
        (← Advisor.onDeferred (o.report.handle setting.policy.tracking))) := by
    unfold begin
    cases o.report <;> rfl
  rw [run, hbegin, judgements, Act.bind_assoc, Act.bind_assoc]
  exact Act.bind_congr_value fun a => Rehearsal.drive_handled setting o.reply _

/-- Handles the report of an occasion with so many replies. -/
def runFor (setting : Setting) (n : Nat) (o : Occasion) : Act Advisor Task.Progress := do
  Rehearsal.driveFor setting o.reply n (← o.begin setting.policy)

/-- An occasion that takes no more than so many replies is gone through with them. -/
theorem run_eq_runFor (setting : Setting) (n : Nat) (o : Occasion) (a : Advisor)
    (h : ((o.runFor setting n).value a).waits = false) :
    o.run setting a = o.runFor setting n a :=
  Act.bind_congr_at (Rehearsal.drive_eq_driveFor _ _ _ _ _ h)

/-- Handles the reports of occasions one after the other. -/
def runAll (setting : Setting) : List Occasion → Act Advisor Unit
  | [] => return
  | o :: rest => do
    let _ ← o.run setting
    runAll setting rest

/-- The judgements on each of some occasions. -/
def judgementsAll (policy : Policy) : List Occasion → Act Advisor (List (List Judgement))
  | [] => return []
  | o :: rest => do
    let first ← o.judgements policy
    let later ← judgementsAll policy rest
    return first :: later

/-- On each of some occasions the advisor does what its judgements tell. -/
theorem runAll_eq (setting : Setting) (occasions : List Occasion) :
    runAll setting occasions = (do let _ ← judgementsAll setting.policy occasions) := by
  induction occasions with
  | nil => rfl
  | cons o rest ih =>
    rw [runAll, run_eq, ih, judgementsAll]
    simp only [Act.bind_assoc]
    rfl

end Occasion

end BreakageAdvisor
