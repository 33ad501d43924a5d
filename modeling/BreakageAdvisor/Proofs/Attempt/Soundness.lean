import BreakageAdvisor.Proofs.Attempt.Completion

/-!
# Sound rules

A rule is sound if its condition is read, or refused as malformed. An attempt under sound rules does
not end by the refusal of a condition: that is reported, and counts as a condition that does not
hold.
-/

namespace BreakageAdvisor

namespace Condition

/-- A result that is no refusal of a condition. -/
def NotRefused : Except Failure Bool → Prop
  | .error (.condition _) => False
  | _ => True

/-- What is no such result is the refusal of a condition. -/
theorem exists_of_not_notRefused {verdict : Except Failure Bool} (h : ¬NotRefused verdict) :
    ∃ error, verdict = .error (.condition error) := by
  unfold NotRefused at h
  split at h
  · exact ⟨_, rfl⟩
  · exact absurd trivial h

/-- A failure for another cause is no such refusal. -/
theorem notRefused_error {cause : Failure} (h : ∀ error, cause ≠ .condition error) :
    NotRefused (.error cause) := by
  cases cause with
  | condition error => exact h error rfl
  | _ => trivial

private theorem notRefused_bind {x : Except Failure Bool} {next : Bool → Except Failure Bool}
    (hx : NotRefused x) (hnext : ∀ b, NotRefused (next b)) : NotRefused (x >>= next) := by
  cases x with
  | error cause => exact hx
  | ok b => exact hnext b

private theorem notRefused_searchValues (items : List Json) : NotRefused (searchValues items) := by
  induction items with
  | nil => trivial
  | cons item rest ih =>
    cases item with
    | null => exact ih
    | _ => trivial

private theorem notRefused_checkCookie (gathering : Gathering) (domain name : Text)
    (value part : Option Text) : NotRefused (checkCookie gathering domain name value part) := by
  unfold checkCookie
  split
  · trivial
  · split
    · trivial
    · trivial
  · split
    · trivial
    · split
      · exact notRefused_searchValues _
      · trivial
      · trivial
      · trivial

section Check

variable (url : Option Text) (gathering : Gathering)

mutual

theorem notRefused_check : (c : Condition) → NotRefused (check url gathering c)
  | .constant result => by
    rw [check]
    trivial
  | .every children => by
    rw [check]
    exact notRefused_checkEvery children
  | .any children => by
    rw [check]
    exact notRefused_checkAny children
  | .negation none => by
    rw [check]
    trivial
  | .negation (some child) => by
    have h := notRefused_check child
    rw [check]
    cases hc : check url gathering child with
    | ok b => trivial
    | error cause => rwa [hc] at h
  | .cookie domain name value part => by
    cases domain with
    | none =>
      rw [check]
      · trivial
      · exact nofun
    | some domain =>
      cases name with
      | none =>
        rw [check]
        · trivial
        · exact nofun
      | some name =>
        rw [check]
        split
        · trivial
        · exact notRefused_checkCookie _ _ _ _ _
  | .url pattern compiled => by
    unfold check
    split
    · trivial
    · trivial

private theorem notRefused_checkEvery :
    (children : List Condition) → NotRefused (checkEvery url gathering children)
  | [] => by
    rw [checkEvery]
    trivial
  | c :: rest => by
    rw [checkEvery]
    refine notRefused_bind (notRefused_check c) fun b => ?_
    cases b with
    | true => exact notRefused_checkEvery rest
    | false => trivial

private theorem notRefused_checkAny :
    (children : List Condition) → NotRefused (checkAny url gathering children)
  | [] => by
    rw [checkAny]
    trivial
  | c :: rest => by
    rw [checkAny]
    refine notRefused_bind (notRefused_check c) fun b => ?_
    cases b with
    | true => trivial
    | false => exact notRefused_checkAny rest

end

end Check

end Condition

/-- The condition of a rule is read, or refused as malformed. -/
def Rule.IsSound (rule : Rule) : Prop :=
  ∀ error, Condition.ofJson rule.condition = .error error → error.blamesDescription

namespace Attempt

/-- An attempt has not ended by the refusal of a condition. -/
def Progress.NotRefused : Progress → Prop
  | ended verdict => Condition.NotRefused verdict
  | waiting _ => True

variable (policy : Policy) (attempt : Attempt) (domain : Text) (l : Ledger)

private theorem notRefused_decide (rule : Rule) (condition : Condition) (e : Evaluation) :
    ((attempt.decide domain rule condition e).value l).NotRefused := by
  cases e with
  | wanting wanted rest gathered => trivial
  | complete gathered =>
    have hn := Condition.notRefused_check (some attempt.url) gathered condition
    simp only [decide]
    split
    · trivial
    · trivial
    · next cause hc => rwa [hc] at hn

private theorem notRefused_judge {rule : Rule} (hs : rule.IsSound) :
    ((attempt.judge policy domain rule).value l).NotRefused := by
  unfold judge
  split
  · trivial
  · split
    · exact notRefused_decide _ _ _ _ _ _
    · next error hc =>
      rw [if_pos (hs error hc)]
      trivial

/-- A rule that is found is one of the rules. -/
theorem mem_of_findRule {rule : Rule} (h : (attempt.findRule domain).value l = some rule) :
    rule ∈ attempt.rules := by
  unfold findRule at h
  split at h
  · cases h
  · next found hf =>
    rw [Act.value_bind, Act.value_ite] at h
    split at h
    · cases h
    · cases h
      exact List.mem_of_find?_eq_some hf

private theorem notRefused_enter (hs : ∀ rule ∈ attempt.rules, rule.IsSound) :
    ((attempt.enter policy domain).value l).NotRefused := by
  rw [enter, Act.value_bind, Act.value_ite]
  split
  · rw [Act.value_bind]
    split
    · next rule hf => exact notRefused_judge _ _ _ _ (hs rule (mem_of_findRule _ _ _ hf))
    · trivial
  · trivial

/-- An attempt under sound rules begins without a refusal. -/
theorem notRefused_begin (hs : ∀ rule ∈ attempt.rules, rule.IsSound) :
    ((attempt.begin policy).value l).NotRefused := by
  unfold begin
  split
  · exact notRefused_enter _ _ _ _ hs
  · trivial

/-- The answer to a notification refuses no condition. -/
theorem notRefused_answered (rule : Rule) (outcome : Json) :
    ((answered policy domain rule outcome).value l).NotRefused := by
  unfold answered
  split
  · trivial
  · trivial
  · split
    · trivial
    · split
      · trivial
      · split <;> trivial
  · trivial

private theorem notRefused_resume (hs : ∀ rule ∈ attempt.rules, rule.IsSound) (stage : Stage)
    (reply : (query : Query) → query.Reply)
    (hr : ∀ query error, reply query ≠ .error (.condition error)) :
    ((attempt.resume policy stage (reply (stage.query attempt))).value l).NotRefused := by
  cases stage with
  | resolving => exact notRefused_enter _ _ _ _ hs
  | gathering domain rule condition wanted rest gathered => exact notRefused_decide _ _ _ _ _ _
  | showing domain rule =>
    have hshown := hr (.notification rule.message)
    change ((attempt.resume policy (.showing domain rule)
      (reply (.notification rule.message))).value l).NotRefused
    generalize reply (.notification rule.message) = answer at hshown
    cases answer with
    | ok outcome => exact notRefused_answered _ _ _ _ _
    | error cause =>
      have hc := Condition.notRefused_error fun error h => hshown error (h ▸ rfl)
      cases cause with
      | bridge reason => exact notRefused_answered _ _ _ _ _
      | _ => exact hc
  | allowing domain =>
    have hallowed := hr (.allow attempt.url)
    change ((attempt.resume policy (.allowing domain) (reply (.allow attempt.url))).value
      l).NotRefused
    generalize reply (.allow attempt.url) = answer at hallowed
    cases answer with
    | ok done => trivial
    | error cause => exact Condition.notRefused_error fun error h => hallowed error (h ▸ rfl)
  | reloading domain =>
    have hreloaded := hr (.reload attempt.tab)
    change ((attempt.resume policy (.reloading domain) (reply (.reload attempt.tab))).value
      l).NotRefused
    generalize reply (.reload attempt.tab) = answer at hreloaded
    cases answer with
    | ok done => trivial
    | error cause => exact Condition.notRefused_error fun error h => hreloaded error (h ▸ rfl)

/-- An attempt under sound rules ends without a refusal. -/
theorem notRefused_complete (hs : ∀ rule ∈ attempt.rules, rule.IsSound)
    (reply : (query : Query) → query.Reply)
    (hr : ∀ query error, reply query ≠ .error (.condition error)) (progress : Progress)
    (hp : progress.NotRefused) :
    Condition.NotRefused ((attempt.complete policy reply progress).value l) := by
  induction progress using complete.induct policy reply attempt generalizing l with
  | case1 result =>
    rw [complete_ended]
    exact hp
  | case2 stage ih =>
    rw [complete_waiting]
    exact ih l _ (notRefused_resume policy attempt l hs stage reply hr)

end Attempt

end BreakageAdvisor
