import BreakageAdvisor.Proofs.Attempt.Soundness

/-!
# Mended conditions

A description that is refused is mended: it is replaced by one of a condition that never holds. An
attempt under mended rules does the same as under the rules as they are, and gives the same
verdict, but where the condition of its rule is refused otherwise than as malformed: there it fails,
and under mended rules it shows nothing.
-/

namespace BreakageAdvisor

namespace Condition

/-- The description of a condition that never holds. -/
def never : Json := .object [("type", .text "test"), ("ret", .bool false)]

/-- A description, or that of a condition that never holds in the place of one that is refused. -/
def mended (description : Json) : Json :=
  match description, ofJson description with
  | .null, _ => .null
  | _, .ok _ => description
  | _, .error _ => never

private theorem mended_of_ok {description : Json} {condition : Condition}
    (h : ofJson description = .ok condition) : mended description = description := by
  cases description with
  | null => rfl
  | _ => simp only [mended, h]

private theorem mended_of_error {description : Json} {error : ConditionError}
    (h : ofJson description = .error error) (hn : description ≠ .null) :
    mended description = never := by
  cases description with
  | null => exact absurd rfl hn
  | _ => simp only [mended, h]

end Condition

namespace Rule

/-- A rule whose condition is mended. -/
def mend (rule : Rule) : Rule := { rule with condition := Condition.mended rule.condition }

private theorem mend_of_eq {rule : Rule} (h : Condition.mended rule.condition = rule.condition) :
    rule.mend = rule := by
  rw [mend, h]

end Rule

namespace Attempt

/-- A verdict under mended rules. A condition that was refused does not hold. -/
def mendVerdict : Except Failure Bool → Except Failure Bool
  | .error (.condition _) => .ok false
  | verdict => verdict

/-- A verdict that refuses no condition is left as it is. -/
theorem mendVerdict_of_notRefused {verdict : Except Failure Bool}
    (h : Condition.NotRefused verdict) : mendVerdict verdict = verdict := by
  unfold mendVerdict
  split
  · exact absurd h id
  · rfl

/-- An attempt under mended rules. -/
def mend (attempt : Attempt) : Attempt := { attempt with rules := attempt.rules.map Rule.mend }

/-- How far an attempt has come under mended rules. -/
def Progress.mend : Progress → Progress
  | ended result => ended (mendVerdict result)
  | waiting stage => waiting stage

private theorem Progress.mend_of_notRefused {progress : Progress} (h : progress.NotRefused) :
    progress.mend = progress := by
  cases progress with
  | ended verdict => exact congrArg ended (mendVerdict_of_notRefused h)
  | waiting stage => rfl

section Steps

variable (policy : Policy) (attempt : Attempt) (domain : Text) (l : Ledger)

private theorem mirrors_finish (verdict : Except Failure Bool) :
    Act.Mirrors Progress.mend id (finish domain verdict) (finish domain (mendVerdict verdict)) l :=
  ⟨rfl, rfl, rfl⟩

private theorem mirrors_decide (rule : Rule) (condition : Condition) (e : Evaluation) :
    Act.Mirrors Progress.mend id (attempt.decide domain rule condition e)
      (attempt.mend.decide domain rule condition e) l := by
  cases e with
  | wanting wanted rest gathered => exact .pure _
  | complete gathered =>
    have hn := Condition.notRefused_check (some attempt.url) gathered condition
    have hurl : attempt.mend.url = attempt.url := rfl
    simp only [decide, hurl]
    cases hc : condition.check (some attempt.url) gathered with
    | ok holds =>
      cases holds with
      | true => exact .pure _
      | false => exact mirrors_finish domain l (.ok false)
    | error cause =>
      rw [hc] at hn
      have h := mirrors_finish domain l (.error cause)
      rwa [mendVerdict_of_notRefused hn] at h

private theorem judge_of_ne_null {rule : Rule} (h : rule.condition ≠ .null) :
    attempt.judge policy domain rule =
      match Condition.ofJson rule.condition with
      | .ok condition => attempt.decide domain rule condition (condition.gather policy.cookies [])
      | .error error =>
        if error.blamesDescription then do
          Act.report (.invalidCondition (rule.labelOr domain))
          finish domain (.ok false)
        else finish domain (.error (.condition error)) := by
  unfold judge
  split
  · next hc => exact absurd hc h
  · rfl

/-- A rule is judged the same way when it is mended. -/
theorem mirrors_judge (rule : Rule) :
    Act.Mirrors Progress.mend id (attempt.judge policy domain rule)
      (attempt.mend.judge policy domain rule.mend) l := by
  by_cases hn : rule.condition = .null
  · rw [Rule.mend_of_eq (by rw [hn]; rfl)]
    unfold judge
    rw [hn]
    exact .pure _
  · cases hc : Condition.ofJson rule.condition with
    | ok condition =>
      rw [Rule.mend_of_eq (Condition.mended_of_ok hc), judge_of_ne_null _ _ _ hn,
        judge_of_ne_null _ _ _ hn, hc]
      exact mirrors_decide _ _ _ _ _ _
    | error error =>
      have hnever : rule.mend.condition = Condition.never := Condition.mended_of_error hc hn
      have hmended : attempt.mend.judge policy domain rule.mend = finish domain (.ok false) := by
        rw [judge_of_ne_null _ _ _ (by rw [hnever]; exact nofun), hnever]
        rfl
      rw [hmended, judge_of_ne_null _ _ _ hn, hc]
      dsimp only
      split
      · exact ⟨rfl, rfl, rfl⟩
      · exact mirrors_finish domain l (.error (.condition error))

private theorem mirrors_findRule :
    Act.Mirrors (Option.map Rule.mend) id (attempt.findRule domain) (attempt.mend.findRule domain)
      l := by
  have hfind : Rule.find? attempt.mend.rules domain =
      (Rule.find? attempt.rules domain).map Rule.mend := List.find?_map ..
  unfold findRule
  rw [hfind]
  cases Rule.find? attempt.rules domain with
  | none => exact .pure _
  | some rule =>
    refine .bind (.refl (Ledger.isIgnored rule.id) l) ?_
    dsimp only [id]
    split
    · exact .bind (.report _) (.pure _)
    · exact .pure _

private theorem mirrors_enter :
    Act.Mirrors Progress.mend id (attempt.enter policy domain) (attempt.mend.enter policy domain)
      l := by
  refine .bind (.refl (Ledger.reserve domain) l) ?_
  dsimp only [id]
  split
  · refine .bind (mirrors_findRule attempt domain _) ?_
    cases (attempt.findRule domain).value _ with
    | none => exact mirrors_finish domain _ (.ok false)
    | some rule => exact mirrors_judge _ _ _ _ _
  · exact .pure _

/-- An attempt begins the same way. -/
theorem mirrors_begin :
    Act.Mirrors Progress.mend id (attempt.begin policy) (attempt.mend.begin policy) l := by
  have htrigger : attempt.mend.trigger = attempt.trigger := rfl
  unfold begin
  rw [htrigger]
  cases policy.matching.get attempt.trigger with
  | host => exact mirrors_enter _ _ _ _
  | baseDomain => exact .pure _

private theorem mirrors_fail {cause : Failure} (h : ∀ error, cause ≠ .condition error) :
    Act.Mirrors Progress.mend id (finish domain (.error cause)) (finish domain (.error cause))
      l := by
  have hf := mirrors_finish domain l (.error cause)
  rwa [mendVerdict_of_notRefused (Condition.notRefused_error h)] at hf

private theorem mirrors_shown (rule : Rule) (outcome : Json) :
    Act.Mirrors Progress.mend id (attempt.shown policy domain rule outcome)
      (attempt.mend.shown policy domain rule outcome) l :=
  ⟨(Progress.mend_of_notRefused (notRefused_answered policy domain _ rule outcome)).symm, rfl, rfl⟩

private theorem mirrors_resume (stage : Stage) (reply : (query : Query) → query.Reply)
    (hr : ∀ query error, reply query ≠ .error (.condition error)) :
    Act.Mirrors Progress.mend id (attempt.resume policy stage (reply (stage.query attempt)))
      (attempt.mend.resume policy stage (reply (stage.query attempt.mend))) l := by
  cases stage with
  | resolving => exact .bind (.refl (resolved attempt.url _) l) (mirrors_enter _ _ _ _)
  | gathering domain rule condition wanted rest gathered =>
    exact .bind (.refl (Evaluation.resume wanted rest gathered _) l) (mirrors_decide _ _ _ _ _ _)
  | showing domain rule =>
    have hs := hr (.notification rule.message)
    change Act.Mirrors _ _
      (attempt.resume policy (.showing domain rule) (reply (.notification rule.message)))
      (attempt.mend.resume policy (.showing domain rule) (reply (.notification rule.message))) l
    generalize reply (.notification rule.message) = answer at hs
    cases answer with
    | ok outcome => exact mirrors_shown _ _ _ _ _ _
    | error cause =>
      have hc (error : ConditionError) : cause ≠ .condition error := fun h => hs error (h ▸ rfl)
      cases cause with
      | bridge reason => exact .bind (.report _) (mirrors_shown _ _ _ _ _ _)
      | _ => exact .bind (.refl (Ledger.record domain) l) (mirrors_fail domain _ hc)
  | allowing domain =>
    have ha := hr (.allow attempt.url)
    change Act.Mirrors _ _ (attempt.resume policy (.allowing domain) (reply (.allow attempt.url)))
      (attempt.mend.resume policy (.allowing domain) (reply (.allow attempt.url))) l
    cases hq : reply (.allow attempt.url) with
    | ok done => exact .pure _
    | error cause => exact mirrors_fail domain l fun error h => ha error (by rw [hq, h])
  | reloading domain =>
    have ha := hr (.reload attempt.tab)
    change Act.Mirrors _ _ (attempt.resume policy (.reloading domain) (reply (.reload attempt.tab)))
      (attempt.mend.resume policy (.reloading domain) (reply (.reload attempt.tab))) l
    cases hq : reply (.reload attempt.tab) with
    | ok done => exact mirrors_finish domain l (.ok true)
    | error cause => exact mirrors_fail domain l fun error h => ha error (by rw [hq, h])

/-- An attempt that has come so far ends the same way. -/
theorem mirrors_complete (reply : (query : Query) → query.Reply)
    (hr : ∀ query error, reply query ≠ .error (.condition error)) (progress : Progress) :
    Act.Mirrors mendVerdict id (attempt.complete policy reply progress)
      (attempt.mend.complete policy reply progress.mend) l := by
  induction progress using complete.induct policy reply attempt generalizing l with
  | case1 result =>
    rw [Progress.mend, complete_ended, complete_ended]
    exact .pure _
  | case2 stage ih =>
    rw [Progress.mend, complete_waiting, complete_waiting]
    have hasked : Act.Mirrors id id (Act.enter (.asked (stage.query attempt)))
        (Act.enter (.asked (stage.query attempt.mend))) l := by
      have hq : stage.query attempt.mend = stage.query attempt := by cases stage <;> rfl
      rw [hq]
      exact .enter _
    exact .bind hasked (.bind (mirrors_resume policy attempt l stage reply hr) (ih l _))

end Steps

end Attempt

end BreakageAdvisor
