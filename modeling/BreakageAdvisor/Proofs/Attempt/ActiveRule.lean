import BreakageAdvisor.Proofs.Attempt.Run

/-!
# The rule that an attempt evaluates

An attempt evaluates the first rule that lists its domain, unless the user ignores that rule. An
ignored rule thereby hides those that list the domain after it, although they are not ignored.
-/

namespace BreakageAdvisor

/-- What is stored can be read. -/
structure Store.Readable (store : Store) : Prop where
  notified : ∀ n d, store.fails n (.isNotified d) = false
  ignored : ∀ n, store.fails n .listIgnored = false

/-- A store can be read if it fails as one that can. -/
theorem Store.Readable.of_fails {s t : Store} (hs : s.Readable) (h : t.fails = s.fails) :
    t.Readable := by
  constructor
  · intro n d
    rw [h]
    exact hs.notified n d
  · intro n
    rw [h]
    exact hs.ignored n

/-- Whether a rule is one for an ignored breakage. A rule without an id, or with an empty one, is
none. -/
def Rule.isIgnored (ignored : List Text) (rule : Rule) : Bool :=
  match rule.id with
  | none => false
  | some id => !id.isEmpty && ignored.contains id

/-- The first rule that lists a domain and is not ignored. -/
def Rule.active? (rules : List Rule) (ignored : List Text) (domain : Text) : Option Rule :=
  rules.find? fun rule => rule.lists domain && !rule.isIgnored ignored

/-- The first rule that lists a domain is the first active one, or is ignored like all that list the
domain, exactly if it does not hide another. -/
private theorem Rule.filter_find?_eq_active?_iff (rules : List Rule) (ignored : List Text)
    (d : Text) :
    (find? rules d).filter (fun rule => !rule.isIgnored ignored) = active? rules ignored d ↔
      ∀ first, find? rules d = some first → first.isIgnored ignored →
        ∀ rule ∈ rules, rule.lists d → rule.isIgnored ignored := by
  induction rules with
  | nil => simp [find?, active?]
  | cons rule rest ih =>
    by_cases hl : rule.lists d
    · by_cases hi : rule.isIgnored ignored
      · have hnone : (some rule).filter (fun rule => !rule.isIgnored ignored) = none := by
          simp [Option.filter_some, hi]
        simp [find?, active?, hl, hi, hnone, @eq_comm _ none]
      · simp [find?, active?, hl, hi]
    · simpa [find?, active?, hl] using ih

namespace Ledger

variable {l : Ledger}

private theorem value_reserve {d : Text} (hs : l.store.Readable) (hd : d ≠ []) (hf : d ∉ l.inFlight)
    (hn : d ∉ l.store.notified) : (reserve d).value l = true := by
  have hv : (onStore (Store.isNotified d)).value l = some (l.store.notified.contains d) :=
    Store.value_call_of_fails _ _ _ (hs.notified _ _)
  have hnotified : (isNotified d).value l = false := by
    rw [isNotified, Act.value_get_bind, Act.value_ite, if_neg (by simpa using hf), Act.value_bind,
      hv]
    simpa using hn
  rw [reserve, Act.value_ite, if_neg (by simpa using hd), Act.value_bind, hnotified]
  rfl

private theorem value_isIgnored_eq (hs : l.store.Readable) (rule : Rule) :
    (isIgnored rule.id).value l = rule.isIgnored l.store.ignored := by
  have hv : (onStore Store.listIgnored).value l = some l.store.ignored :=
    Store.value_call_of_fails _ _ _ (hs.ignored _)
  unfold isIgnored Rule.isIgnored
  cases rule.id with
  | none => rfl
  | some id =>
    cases id with
    | nil => rfl
    | cons c rest =>
      rw [Act.value_bind, hv]
      rfl

end Ledger

namespace Attempt

variable (policy : Policy) (reply : (query : Query) → query.Reply) (attempt : Attempt)
  (l : Ledger)

/-- An attempt on a ledger evaluates a rule and no other, with the domain claimed, or ends without a
notification and evaluates none. It evaluates a rule if its run, however rules are judged, is that
of judging this rule; and it evaluates none if its run does not depend on how rules are judged. The
attempt itself judges by `judge`: see `run_eq_runWith`. -/
def Evaluates : Option Rule → Prop
  | some rule => ∃ (claimed : Ledger) (before : List Entry),
      (l.claim (attempt.domain policy reply)).Agrees claimed ∧ ∀ judge,
        let judged : Act Ledger (Except Failure Bool) := do
          attempt.complete policy reply (← judge (attempt.domain policy reply) rule)
        attempt.runWith policy reply judge l =
          ((judged claimed).1, before ++ (judged claimed).2)
  | none => ∃ (after : Ledger) (entries : List Entry), l.Agrees after ∧ ∀ judge,
      attempt.runWith policy reply judge l = ((.ok false, after), entries)

variable {policy reply attempt l}

/-- No attempt evaluates two rules, or one and none. -/
theorem Evaluates.unique {found found' : Option Rule} (h : attempt.Evaluates policy reply l found)
    (h' : attempt.Evaluates policy reply l found') : found = found' := by
  -- Where only one of the rules is judged to hold, the verdict tells which rule is evaluated.
  classical
  let judge (wanted : Rule) (_ : Text) (rule : Rule) : Act Ledger Progress :=
    return .ended (.ok (rule = wanted))
  have verdict {found : Option Rule} (h : attempt.Evaluates policy reply l found) (wanted : Rule) :
      (attempt.runWith policy reply (judge wanted) l).1.1 = .ok (found = some wanted) := by
    cases found with
    | none =>
      obtain ⟨after, entries, -, h⟩ := h
      rw [h]
      simp
    | some rule =>
      obtain ⟨claimed, before, -, h⟩ := h
      rw [h]
      change Act.value (do attempt.complete policy reply (← judge wanted [] rule)) claimed = _
      simp [judge, complete_ended]
  ext wanted
  simpa using (verdict h wanted).symm.trans (verdict h' wanted)

private theorem value_findRule (attempt : Attempt) (hs : l.store.Readable) (d : Text) :
    (attempt.findRule d).value l =
      (Rule.find? attempt.rules d).filter fun rule => !rule.isIgnored l.store.ignored := by
  unfold findRule
  cases Rule.find? attempt.rules d with
  | none => rfl
  | some rule =>
    rw [Act.value_bind, Act.value_ite, Ledger.value_isIgnored_eq hs, Option.filter_some]
    cases rule.isIgnored l.store.ignored <;> rfl

/-- Judges the rule that was found for a domain, if any. -/
def judgeFound (d : Text) (judge : Text → Rule → Act Ledger Progress) :
    Option Rule → Act Ledger Progress
  | some rule => judge d rule
  | none => finish d (.ok false)

private theorem runWith_apply {d : Text} (hdomain : attempt.domain policy reply = d)
    (hr : (Ledger.reserve d).value l = true) (judge : Text → Rule → Act Ledger Progress) :
    let search : Act Ledger (Option Rule) := do
      let _ ← Ledger.reserve d
      attempt.findRule d
    let next : Act Ledger (Except Failure Bool) := do
      attempt.complete policy reply (← judgeFound d judge (search.value l))
    attempt.runWith policy reply judge l =
      ((next (search.state l)).1,
        (attempt.findDomain policy reply).journal l ++ search.journal l ++
          (next (search.state l)).2) := by
  intro search next
  rw [runWith, Act.bind_apply, value_findDomain, state_findDomain, hdomain, enterWith,
    Act.bind_assoc, Act.bind_apply, hr]
  simp only [if_true]
  rw [Act.bind_assoc, Act.bind_apply]
  simp only [next, search, Act.value_bind, Act.state_bind, Act.journal_bind, List.append_assoc]
  cases (attempt.findRule d).value ((Ledger.reserve d).state l) <;> rfl

section Found

variable (policy reply attempt)
variable (hs : l.store.Readable) (hd : attempt.domain policy reply ≠ [])
  (hf : attempt.domain policy reply ∉ l.inFlight)
  (hn : attempt.domain policy reply ∉ l.store.notified)
include hs hd hf hn

/-- An attempt with a domain that is neither claimed nor told of evaluates the first rule that lists
it, unless that rule is ignored. -/
private theorem evaluates_first :
    attempt.Evaluates policy reply l
      ((Rule.find? attempt.rules (attempt.domain policy reply)).filter
        fun rule => !rule.isIgnored l.store.ignored) := by
  generalize hdomain : attempt.domain policy reply = d at hd hf hn
  have hr := Ledger.value_reserve hs hd hf hn
  obtain ⟨-, -, -, hclaim⟩ := Ledger.reserve_eq_true hr
  have hignored : ((Ledger.reserve d).state l).store.ignored = l.store.ignored :=
    Ledger.keeps_ignored_reserve d l
  have hfound := value_findRule attempt (hs.of_fails (Ledger.fails_reserve d l)) d
  rw [hignored] at hfound
  have hagrees := hclaim.trans (agrees_findRule attempt d _)
  have hrun := runWith_apply hdomain hr
  simp only [Act.value_bind, Act.state_bind, hfound] at hrun
  cases hrule : (Rule.find? attempt.rules d).filter fun rule => !rule.isIgnored l.store.ignored with
  | some rule =>
    simp only [hrule, judgeFound] at hrun
    exact ⟨_, _, hdomain ▸ hagrees, hdomain ▸ hrun⟩
  | none =>
    simp only [hrule, judgeFound, complete_finish] at hrun
    refine ⟨_, _, ?_, hrun⟩
    have h := hagrees.unclaim d
    rwa [Ledger.unclaim_claim hf] at h

/-- An attempt with a domain that is neither claimed nor told of evaluates the first rule that lists
it, unless that rule is ignored, and then none. This is the first rule that lists the domain and is
not ignored, or none if there is no such rule, exactly if the first rule that lists the domain is
ignored only where all that list it are. -/
theorem evaluates_active_iff :
    (∀ found, attempt.Evaluates policy reply l found ↔
      found = (Rule.find? attempt.rules (attempt.domain policy reply)).filter
        fun rule => !rule.isIgnored l.store.ignored) ∧
    (attempt.Evaluates policy reply l
        (Rule.active? attempt.rules l.store.ignored (attempt.domain policy reply)) ↔
      ∀ first, Rule.find? attempt.rules (attempt.domain policy reply) = some first →
        first.isIgnored l.store.ignored →
          ∀ rule ∈ attempt.rules, rule.lists (attempt.domain policy reply) →
            rule.isIgnored l.store.ignored) := by
  have hfirst := evaluates_first policy reply attempt hs hd hf hn
  have hiff (found : Option Rule) : attempt.Evaluates policy reply l found ↔
      found = (Rule.find? attempt.rules (attempt.domain policy reply)).filter
        fun rule => !rule.isIgnored l.store.ignored := by
    constructor
    · intro h
      exact h.unique hfirst
    · rintro rfl
      exact hfirst
  refine ⟨hiff, ?_⟩
  rw [hiff, eq_comm]
  exact Rule.filter_find?_eq_active?_iff ..

end Found

/-- A rule without a condition. -/
def plainRule (id : Text) (domains : List Text) : Rule := ⟨some id, domains, .plain id, .null⟩

/-- A ledger of a user who ignores the breakage "old". -/
def ignoringOld : Ledger := { store := { ignored := ["old"] } }

/-- A visit, under some rules. -/
def visit (rules : List Rule) : Attempt := ⟨.number 1, .tab, "https://a.com/", rules⟩

/-- An ignored rule for another domain hides nothing. -/
theorem evaluates_active_iff_otherDomain :
    let rules := [plainRule "old" ["b.com"], plainRule "new" ["a.com"], plainRule "old" ["a.com"]]
    ignoringOld.store.Readable ∧ (visit rules).domain {} (fun _ => .error .port) = "a.com" ∧
      (visit rules).Evaluates {} (fun _ => .error .port) ignoringOld
        (some (plainRule "new" ["a.com"])) := by
  intro rules
  have hs : ignoringOld.store.Readable := ⟨fun _ _ => rfl, fun _ => rfl⟩
  have hd : (visit rules).domain {} (fun _ => .error .port) = "a.com" := by decide
  obtain ⟨-, h⟩ := evaluates_active_iff {} (fun _ => .error .port) (visit rules) hs
    (by rw [hd]; decide) (by rw [hd]; decide) (by rw [hd]; decide)
  refine ⟨hs, hd, h.mpr ?_⟩
  rw [hd]
  rintro first hfirst
  cases hfirst
  nofun

/-- An ignored rule hides the one behind it: no rule is evaluated, and the user is told of
nothing. -/
theorem active_not_evaluated :
    let rules := [plainRule "old" ["a.com"], plainRule "new" ["a.com"]]
    ignoringOld.store.Readable ∧ (visit rules).domain {} (fun _ => .error .port) = "a.com" ∧
      Rule.active? rules ignoringOld.store.ignored "a.com" = some (plainRule "new" ["a.com"]) ∧
      ¬(visit rules).Evaluates {} (fun _ => .error .port) ignoringOld
        (some (plainRule "new" ["a.com"])) ∧
      ((visit rules).run {} fun _ => .error .port).value ignoringOld = .ok false := by
  intro rules
  have hs : ignoringOld.store.Readable := ⟨fun _ _ => rfl, fun _ => rfl⟩
  have hd : (visit rules).domain {} (fun _ => .error .port) = "a.com" := by decide
  have h := evaluates_first {} (fun _ => .error .port) (visit rules) hs
    (by rw [hd]; decide) (by rw [hd]; decide) (by rw [hd]; decide)
  rw [hd] at h
  have hnot : ¬(visit rules).Evaluates {} (fun _ => .error .port) ignoringOld
      (some (plainRule "new" ["a.com"])) := by
    intro hnew
    cases hnew.unique h
  refine ⟨hs, hd, rfl, hnot, ?_⟩
  obtain ⟨after, entries, -, hrun⟩ := h
  rw [run_eq_runWith, Act.value, hrun]

end Attempt

end BreakageAdvisor
