import BreakageAdvisor.Proofs.Attempt.Phase

/-!
# Attempts whose conditions may fail

The evaluation of a condition may fail for any cause, beyond the failures that conditions have of
themselves. Such a failure makes the same moves as an attempt without it. Until an attempt asks for
its notification, none of its steps alters anything but the claims, whatever fails.
-/

namespace BreakageAdvisor

/-- An entry that is a change of the store, an exemption of a URL, or the reload of a tab. -/
def Entry.Alters : Entry → Prop
  | stored (.addNotified _) => True
  | stored (.addIgnored _) => True
  | stored .clearNotified => True
  | asked (.allow _) => True
  | asked (.reload _) => True
  | _ => False

namespace Ledger

variable {P : Entry → Prop}

/-- A call to the store enters the call, and nothing else. -/
theorem journal_onStore_call {α : Type} (what : StoreCall) (answer : Store → α)
    (effect : Store → Store) (l : Ledger) :
    (onStore (Store.call what answer effect)).journal l = [.stored what] := by
  rw [onStore, Act.journal_onPart]
  unfold Store.call Act.journal
  dsimp only
  split <;> rfl

theorem enters_onStore_call {α : Type} {what : StoreCall} (answer : Store → α)
    (effect : Store → Store) (h : P (.stored what)) :
    (onStore (Store.call what answer effect)).Enters P := by
  intro l entry he
  rw [journal_onStore_call, List.mem_singleton] at he
  rwa [he]

/-- A reservation enters a look at the domains told of, and reports. -/
theorem enters_reserve {d : Text} (h : P (.stored (.isNotified d)))
    (hr : ∀ report, P (.reported report)) : (reserve d).Enters P := by
  unfold reserve
  split
  · exact .pure _
  · refine .bind (.bind .get fun _ => ?_) fun _ => ?_
    · split
      · exact .pure _
      · refine .bind (enters_onStore_call _ _ h) fun found => ?_
        cases found with
        | none => exact .bind (.report (hr _)) fun _ => .pure _
        | some _ => exact .pure _
    · split
      · exact .pure _
      · exact .bind (.modify _) fun _ => .pure _

private theorem enters_isIgnored (id : Option Text) (h : P (.stored .listIgnored))
    (hr : ∀ report, P (.reported report)) : (isIgnored id).Enters P := by
  unfold isIgnored
  split
  · exact .pure _
  · exact .pure _
  · refine .bind (enters_onStore_call _ _ h) fun found => ?_
    cases found with
    | none => exact .bind (.report (hr _)) fun _ => .pure _
    | some _ => exact .pure _

end Ledger

namespace Attempt

/-- To find a rule, an attempt looks at the ignored breakages, and enters reports. -/
theorem enters_findRule {P : Entry → Prop} (attempt : Attempt) (d : Text)
    (h : P (.stored .listIgnored)) (hr : ∀ report, P (.reported report)) :
    (attempt.findRule d).Enters P := by
  unfold findRule
  split
  · exact .pure _
  · refine .bind (Ledger.enters_isIgnored _ h hr) fun ignored => ?_
    split
    · exact .bind (.report (hr _)) fun _ => .pure _
    · exact .pure _

section Faults

variable (fault : Option Failure) (policy : Policy) (attempt : Attempt)

/-- The evaluation of the condition of a rule fails. A description that is refused as malformed is
reported and counts as a condition that does not hold; any other cause makes the attempt fail. -/
def failCondition (domain : Text) (rule : Rule) : Failure → Act Ledger Progress
  | .condition error =>
    if error.blamesDescription then do
      Act.report (.invalidCondition (rule.labelOr domain))
      finish domain (.ok false)
    else finish domain (.error (.condition error))
  | cause => finish domain (.error cause)

/-- Judges a rule whose condition may fail beyond its own failures. -/
def judgeUnder (domain : Text) (rule : Rule) : Act Ledger Progress :=
  match fault with
  | none => attempt.judge policy domain rule
  | some cause => failCondition domain rule cause

/-- Goes on with the domain of the URL, where conditions may fail beyond their own failures. -/
def enterUnder (domain : Text) : Act Ledger Progress :=
  attempt.enterWith domain (attempt.judgeUnder fault policy domain)

/-- Begins an attempt in which conditions may fail beyond their own failures. -/
def beginUnder : Act Ledger Progress :=
  match policy.matching.get attempt.trigger with
  | .host => attempt.enterUnder fault policy (Url.host attempt.url)
  | .baseDomain => return .waiting .resolving

/-- Goes on with the reply that an attempt waits for, where conditions may fail beyond their own
failures. -/
def resumeUnder : (stage : Stage) → (stage.query attempt).Reply → Act Ledger Progress
  | .resolving, reply => do attempt.enterUnder fault policy (← resolved attempt.url reply)
  | .gathering domain rule condition wanted rest gathered, reply => do
    let evaluation ← Evaluation.resume wanted rest gathered reply
    match fault with
    | none => attempt.decide domain rule condition evaluation
    | some cause => failCondition domain rule cause
  | stage, reply => attempt.resume policy stage reply

end Faults

section Agreement

variable (policy : Policy) (attempt : Attempt)

/-- Without a further failure, an attempt begins as it does. -/
theorem beginUnder_none : attempt.beginUnder none policy = attempt.begin policy := rfl

/-- Without a further failure, an attempt goes on as it does. -/
theorem resumeUnder_none (stage : Stage) :
    attempt.resumeUnder none policy stage = attempt.resume policy stage := by
  cases stage <;> rfl

end Agreement

section Moves

variable (fault : Option Failure) (policy : Policy) (attempt : Attempt) (d : Text) (rule : Rule)
  (l : Ledger)

private theorem move_failCondition (cause : Failure) :
    Move l ((failCondition d rule cause).state l) (.checking d)
      ((failCondition d rule cause).value l).phase := by
  unfold failCondition
  split
  · split
    · exact .drop d (.refl _)
    · exact .drop d (.refl _)
  · exact .drop d (.refl _)

private theorem move_judgeUnder :
    Move l ((attempt.judgeUnder fault policy d rule).state l) (.checking d)
      ((attempt.judgeUnder fault policy d rule).value l).phase := by
  cases fault with
  | none => exact move_judge _ _ _ _ _
  | some cause => exact move_failCondition _ _ _ _

/-- An attempt that begins claims a domain, unless it waits for the domain or ends at once. -/
theorem move_beginUnder :
    Move l ((attempt.beginUnder fault policy).state l) .idle
      ((attempt.beginUnder fault policy).value l).phase := by
  unfold beginUnder
  split
  · exact move_enterWith l fun rule k => move_judgeUnder _ _ _ _ _ _
  · exact .stay .idle rfl (.refl l)

/-- Every reply makes an attempt that waits make a move. -/
theorem move_resumeUnder (stage : Stage) (reply : (stage.query attempt).Reply) :
    Move l ((attempt.resumeUnder fault policy stage reply).state l) stage.phase
      ((attempt.resumeUnder fault policy stage reply).value l).phase := by
  unfold resumeUnder
  split
  · next reply =>
    have hr : (resolved attempt.url reply).state l = l := by cases reply <;> rfl
    simp only [Act.state_bind, Act.value_bind, hr]
    exact move_enterWith l fun rule k => move_judgeUnder _ _ _ _ _ _
  · next domain rule condition wanted rest gathered reply =>
    have hr : (Evaluation.resume wanted rest gathered reply).state l = l := by
      cases reply <;> rfl
    simp only [Act.state_bind, Act.value_bind, hr]
    cases fault with
    | none => exact move_decide _ _ _ _ _ _
    | some cause => exact move_failCondition _ _ _ _
  · exact move_resume _ _ _ _ _

end Moves

/-- A step alters nothing, and does not end with the verdict that a notification was shown. -/
structure Harmless (act : Act Ledger Progress) : Prop where
  quiet : act.Enters (¬ ·.Alters)
  verdict : ∀ l, act.value l ≠ .ended (.ok true)

namespace Harmless

variable {fault : Option Failure} {policy : Policy} {attempt : Attempt} {d : Text} {rule : Rule}

theorem waiting (stage : Stage) : Harmless (return .waiting stage) := ⟨.pure _, fun _ => nofun⟩

theorem finish {verdict : Except Failure Bool} (h : verdict ≠ .ok true) :
    Harmless (Attempt.finish d verdict) where
  quiet := .bind (.modify _) fun _ => .pure _
  verdict := fun _ he => h (Progress.ended.inj he)

/-- What alters nothing may come before a harmless step. -/
theorem after {α : Type} {act : Act Ledger α} {next : α → Act Ledger Progress}
    (h : act.Enters (¬ ·.Alters)) (hnext : ∀ a, Harmless (next a)) : Harmless (act >>= next) where
  quiet := .bind h fun a => (hnext a).quiet
  verdict := fun _ => (hnext _).verdict _

theorem decide (condition : Condition) (e : Evaluation) :
    Harmless (attempt.decide d rule condition e) := by
  unfold Attempt.decide
  split
  · exact waiting _
  · split
    · exact waiting _
    · exact finish nofun
    · exact finish nofun

theorem judge : Harmless (attempt.judge policy d rule) := by
  unfold Attempt.judge
  split
  · exact waiting _
  · split
    · exact decide _ _
    · split
      · exact after (.report not_false) fun _ => finish nofun
      · exact finish nofun

private theorem failCondition (cause : Failure) :
    Harmless (Attempt.failCondition d rule cause) := by
  unfold Attempt.failCondition
  split
  · split
    · exact after (.report not_false) fun _ => finish nofun
    · exact finish nofun
  · exact finish nofun

private theorem judgeUnder : Harmless (attempt.judgeUnder fault policy d rule) := by
  cases fault with
  | none => exact judge
  | some cause => exact failCondition cause

private theorem enterUnder : Harmless (attempt.enterUnder fault policy d) := by
  refine after (Ledger.enters_reserve not_false fun _ => not_false) fun reserved => ?_
  split
  · refine after (enters_findRule attempt d not_false fun _ => not_false) fun found => ?_
    cases found with
    | none => exact finish nofun
    | some rule => exact judgeUnder
  · exact ⟨.pure _, fun _ => nofun⟩

theorem beginUnder (fault : Option Failure) (policy : Policy) (attempt : Attempt) :
    Harmless (attempt.beginUnder fault policy) := by
  unfold Attempt.beginUnder
  split
  · exact enterUnder
  · exact waiting _

/-- A reply does no harm as long as no notification was asked for. -/
theorem resumeUnder {stage : Stage} (hs : stage.phase.shown? = none)
    (hr : stage.phase.recorded? = none) (reply : (stage.query attempt).Reply) :
    Harmless (attempt.resumeUnder fault policy stage reply) := by
  cases stage with
  | resolving =>
    refine after ?_ fun _ => enterUnder
    cases reply with
    | ok domain => exact .pure _
    | error cause => exact .bind (.report not_false) fun _ => .pure _
  | gathering domain rule condition wanted rest gathered =>
    refine after ?_ fun e => ?_
    · cases reply with
      | ok jar => exact .pure _
      | error cause => exact .bind (.report not_false) fun _ => .pure _
    · cases fault with
      | none => exact decide _ _
      | some cause => exact failCondition cause
  | showing _ _ => cases hs
  | allowing _ => cases hr
  | reloading _ => cases hr

end Harmless

end Attempt

end BreakageAdvisor
