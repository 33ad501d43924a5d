import BreakageAdvisor.Attempt
import BreakageAdvisor.Proofs.Ledger

/-!
# Phases of attempts

What an attempt has done so far with the domain of its URL, and how one step of an attempt changes
that together with the ledger. Every step of every attempt, with any reply, is one of a few moves;
what holds of all moves holds of all attempts.
-/

namespace BreakageAdvisor

namespace Attempt

/-- What an attempt has done with the domain of its URL. -/
inductive Phase where
  /-- It has claimed no domain, or it is over. -/
  | idle
  /-- It has claimed the domain and looks for a reason to tell the user. -/
  | checking (domain : Text)
  /-- It has asked for the notification, and has not recorded it yet. -/
  | showing (domain : Text)
  /-- It has recorded the notification and carries out its answer. -/
  | settling (domain : Text)
  deriving DecidableEq

namespace Phase

/-- The domain that is claimed and not recorded yet. -/
def claimed? : Phase → Option Text
  | checking domain => some domain
  | showing domain => some domain
  | _ => none

/-- The domain whose notification is asked for and not recorded yet. -/
def shown? : Phase → Option Text
  | showing domain => some domain
  | _ => none

/-- The domain that is recorded. -/
def recorded? : Phase → Option Text
  | settling domain => some domain
  | _ => none

end Phase

/-- The phase of an attempt that waits. -/
def Stage.phase : Stage → Phase
  | resolving => .idle
  | gathering domain _ _ _ _ _ => .checking domain
  | showing domain _ => .showing domain
  | allowing domain => .settling domain
  | reloading domain => .settling domain

/-- The phase of an attempt that has come so far. -/
def Progress.phase : Progress → Phase
  | ended _ => .idle
  | waiting stage => stage.phase

/-- How a step of an attempt changes its phase, with the ledgers before and after. -/
inductive Move (a b : Ledger) : Phase → Phase → Prop where
  /-- Nothing changes, and no notification is waited for. -/
  | stay (p : Phase) (hp : p.shown? = none) (h : a.Agrees b) : Move a b p p
  /-- A domain is claimed. -/
  | claim (d : Text) (q : Phase) (hq : q.claimed? = some d) (hd : d ≠ []) (hf : d ∉ a.inFlight)
      (hs : a.store.Works → d ∉ a.store.notified) (h : (a.claim d).Agrees b) : Move a b .idle q
  /-- The notification is asked for. -/
  | present (d : Text) (h : a.Agrees b) : Move a b (.checking d) (.showing d)
  /-- The claim is dropped. -/
  | drop (d : Text) (h : (a.unclaim d).Agrees b) : Move a b (.checking d) .idle
  /-- The notification is recorded, and the claim ends. -/
  | record (d : Text) (q : Phase) (hq : q = .idle ∨ q = .settling d)
      (hi : b.inFlight = (a.unclaim d).inFlight) (hf : b.store.fails = a.store.fails)
      (hs : a.store.Works → b.store.notified = Store.adjoin a.store.notified d) :
      Move a b (.showing d) q
  /-- The attempt is over after its notification was recorded; the domain is released again. -/
  | leave (d : Text) (h : (a.unclaim d).Agrees b) : Move a b (.settling d) .idle

/-- No move changes which calls to the store fail. -/
theorem Move.fails {a b : Ledger} {p q : Phase} (h : Move a b p q) :
    b.store.fails = a.store.fails := by
  cases h with
  | stay _ _ h => exact h.fails
  | claim _ _ _ _ _ _ h => exact h.fails
  | present _ h => exact h.fails
  | drop _ h => exact h.fails
  | record _ _ _ _ hf _ => exact hf
  | leave _ h => exact h.fails

/-- After its notification was asked for, an attempt claims no domain again. -/
theorem Move.claimed?_eq_none {a b : Ledger} {p q : Phase} (h : Move a b p q)
    (hp : p.shown? ≠ none ∨ p.recorded? ≠ none) : q.claimed? = none := by
  cases h with
  | stay p hs _ =>
    cases p with
    | idle => rfl
    | checking _ => exact absurd hp (by simp [Phase.shown?, Phase.recorded?])
    | showing _ => cases hs
    | settling _ => rfl
  | claim _ _ _ _ _ _ _ => exact absurd hp (by simp [Phase.shown?, Phase.recorded?])
  | present _ _ => exact absurd hp (by simp [Phase.shown?, Phase.recorded?])
  | drop _ _ => rfl
  | record _ _ hq _ _ _ => rcases hq with rfl | rfl <;> rfl
  | leave _ _ => rfl

/-- An attempt has recorded its notification only after it was asked for. -/
theorem Move.recorded?_eq_none {a b : Ledger} {p q : Phase} (h : Move a b p q)
    (hs : p.shown? = none) (hr : p.recorded? = none) : q.recorded? = none := by
  cases h with
  | stay _ _ _ => exact hr
  | claim _ _ hq _ _ _ _ => cases q <;> first | rfl | cases hq
  | present _ _ => rfl
  | drop _ _ => rfl
  | record _ _ _ _ _ _ => cases hs
  | leave _ _ => rfl

/-- A domain that is claimed after a move was claimed before and not by this attempt, or is claimed
by this attempt now, and was so before or is new. -/
theorem Move.mem_inFlight {a b : Ledger} {p q : Phase} (h : Move a b p q) {e : Text}
    (he : e ∈ b.inFlight) :
    e ∈ a.inFlight ∧ p.claimed? ≠ some e ∨
      q.claimed? = some e ∧ (p.claimed? = some e ∨ e ∉ a.inFlight) := by
  -- What the attempt had claimed and still has, is the second case.
  have kept (he : e ∈ a.inFlight) (hq : q.claimed? = p.claimed?) :
      e ∈ a.inFlight ∧ p.claimed? ≠ some e ∨
        q.claimed? = some e ∧ (p.claimed? = some e ∨ e ∉ a.inFlight) := by
    by_cases hp : p.claimed? = some e
    · exact .inr ⟨hq.trans hp, .inl hp⟩
    · exact .inl ⟨he, hp⟩
  have ended {d : Text} (he : e ∈ (a.unclaim d).inFlight) : e ∈ a.inFlight ∧ some d ≠ some e := by
    obtain ⟨he, hne⟩ := Ledger.mem_unclaim.mp he
    exact ⟨he, fun h => hne (Option.some.inj h).symm⟩
  cases h with
  | stay _ _ h => exact kept (h.inFlight ▸ he) rfl
  | present _ h => exact kept (h.inFlight ▸ he) rfl
  | claim d _ hq _ hf _ h =>
    rcases Ledger.mem_claim.mp (h.inFlight ▸ he) with he | rfl
    · exact .inl ⟨he, nofun⟩
    · exact .inr ⟨hq, .inr hf⟩
  | drop _ h => exact .inl (ended (h.inFlight ▸ he))
  | record _ _ _ hi _ _ => exact .inl (ended (hi ▸ he))
  | leave _ h => exact .inl ⟨(ended (h.inFlight ▸ he)).1, nofun⟩

private theorem Move.of_claimed {a b c : Ledger} {d : Text} {q : Phase} (hd : d ≠ [])
    (hf : d ∉ a.inFlight) (hs : a.store.Works → d ∉ a.store.notified)
    (hc : (a.claim d).Agrees b) (h : Move b c (.checking d) q) : Move a c .idle q := by
  cases h with
  | stay _ _ h => exact .claim d _ rfl hd hf hs (hc.trans h)
  | present _ h => exact .claim d _ rfl hd hf hs (hc.trans h)
  | drop _ h =>
    have hu := hc.unclaim d
    rw [Ledger.unclaim_claim hf] at hu
    exact .stay .idle rfl (hu.trans h)

/-- An attempt that finishes ends with the result. -/
@[simp] theorem value_finish (d : Text) (result : Except Failure Bool) (l : Ledger) :
    (finish d result).value l = .ended result := rfl

/-- An attempt that finishes releases its domain. -/
@[simp] theorem state_finish (d : Text) (result : Except Failure Bool) (l : Ledger) :
    (finish d result).state l = l.unclaim d := rfl

/-- Finding a rule changes no claim. -/
theorem agrees_findRule (attempt : Attempt) (d : Text) (l : Ledger) :
    l.Agrees ((attempt.findRule d).state l) := by
  unfold findRule
  split
  · exact Ledger.Agrees.refl l
  · next rule _ =>
    have h := Ledger.agrees_isIgnored rule.id l
    simp only [Act.state_bind, Act.state_ite]
    split
    · exact h
    · exact h

/-- Deciding a condition keeps the claim and may ask for the notification, or drops the claim. -/
theorem move_decide (attempt : Attempt) (d : Text) (rule : Rule) (condition : Condition)
    (e : Evaluation) (l : Ledger) :
    Move l ((attempt.decide d rule condition e).state l) (.checking d)
      ((attempt.decide d rule condition e).value l).phase := by
  cases e with
  | wanting wanted rest gathered => exact .stay _ rfl (.refl l)
  | complete gathered =>
    simp only [decide]
    split
    · exact .present d (.refl l)
    · exact .drop d (.refl _)
    · exact .drop d (.refl _)

/-- Judging a rule keeps the claim and may ask for the notification, or drops the claim. -/
theorem move_judge (policy : Policy) (attempt : Attempt) (d : Text) (rule : Rule) (l : Ledger) :
    Move l ((attempt.judge policy d rule).state l) (.checking d)
      ((attempt.judge policy d rule).value l).phase := by
  unfold judge
  split
  · exact .present d (.refl l)
  · split
    · exact move_decide _ _ _ _ _ l
    · split
      · exact .drop d (.refl _)
      · exact .drop d (.refl _)

/-- Goes on with the domain of the URL, with some way to judge the rule that is found. -/
def enterWith (attempt : Attempt) (domain : Text) (judge : Rule → Act Ledger Progress) :
    Act Ledger Progress := do
  if ← Ledger.reserve domain then
    match ← attempt.findRule domain with
    | some rule => judge rule
    | none => finish domain (.ok false)
  else return .ended (.ok false)

/-- A domain is entered by judging the rule that is found. -/
theorem enter_eq_enterWith (policy : Policy) (attempt : Attempt) (d : Text) :
    attempt.enter policy d = attempt.enterWith d (attempt.judge policy d) := rfl

section Enter

variable {attempt : Attempt} {d : Text} {judge : Rule → Act Ledger Progress}

/-- Entering the ledger ends the attempt without a notification, or leads to the judgement of a
rule that is found there. -/
theorem value_enterWith (l : Ledger) :
    (attempt.enterWith d judge).value l = .ended (.ok false) ∨
      ∃ rule k, (attempt.findRule d).value ((Ledger.reserve d).state l) = some rule ∧
        (attempt.enterWith d judge).value l = (judge rule).value k := by
  simp only [enterWith, Act.value_bind, Act.value_ite]
  split
  · cases hr : (attempt.findRule d).value ((Ledger.reserve d).state l) with
    | none => exact .inl rfl
    | some rule => exact .inr ⟨rule, _, rfl, rfl⟩
  · exact .inl rfl

/-- Entering the ledger claims a domain, unless the attempt ends at once, if every way to judge a
rule keeps the claim or drops it. -/
theorem move_enterWith (l : Ledger)
    (hj : ∀ rule k, Move k ((judge rule).state k) (.checking d) ((judge rule).value k).phase) :
    Move l ((attempt.enterWith d judge).state l) .idle
      ((attempt.enterWith d judge).value l).phase := by
  simp only [enterWith, Act.state_bind, Act.value_bind]
  cases hr : (Ledger.reserve d).value l with
  | false =>
    simp only [Bool.false_eq_true, ite_false]
    exact .stay .idle rfl (Ledger.agrees_reserve hr)
  | true =>
    simp only [ite_true, Act.state_bind, Act.value_bind]
    obtain ⟨hd, hf, hs, hc⟩ := Ledger.reserve_eq_true hr
    have ha := agrees_findRule attempt d ((Ledger.reserve d).state l)
    apply Move.of_claimed hd hf hs (hc.trans ha)
    split
    · exact hj _ _
    · exact .drop d (.refl _)

end Enter

/-- Entering the ledger claims a domain, unless the attempt ends at once. -/
theorem move_enter (policy : Policy) (attempt : Attempt) (d : Text) (l : Ledger) :
    Move l ((attempt.enter policy d).state l) .idle ((attempt.enter policy d).value l).phase :=
  move_enterWith l fun rule k => move_judge policy attempt d rule k

/-- An attempt that begins claims a domain, unless it waits for the domain or ends at once. -/
theorem move_begin (policy : Policy) (attempt : Attempt) (l : Ledger) :
    Move l ((attempt.begin policy).state l) .idle ((attempt.begin policy).value l).phase := by
  unfold begin
  split
  · exact move_enter _ _ _ _
  · exact .stay .idle rfl (.refl l)

private theorem answered_cases (policy : Policy) (d : Text) (rule : Rule) (outcome : Json)
    (l : Ledger) :
    ((answered policy d rule outcome).value l).phase = .idle ∧
        (l.unclaim d).Agrees ((answered policy d rule outcome).state l) ∨
      ((answered policy d rule outcome).value l).phase = .settling d ∧
        l.Agrees ((answered policy d rule outcome).state l) := by
  unfold answered
  split
  · exact .inl ⟨rfl, .refl _⟩
  · exact .inl ⟨rfl, .refl _⟩
  · split
    · exact .inl ⟨rfl, .refl _⟩
    · split
      · exact .inl ⟨rfl, (Ledger.agrees_ignore rule.id l).unclaim d⟩
      · split
        · exact .inr ⟨rfl, .refl _⟩
        · exact .inl ⟨rfl, .refl _⟩
  · exact .inl ⟨rfl, .refl _⟩

private theorem move_record {d : Text} {q : Phase} {a b : Ledger}
    (h : q = .idle ∧ (((Ledger.record d).state a).unclaim d).Agrees b ∨
      q = .settling d ∧ ((Ledger.record d).state a).Agrees b) : Move a b (.showing d) q := by
  have hi := Ledger.inFlight_record d a
  have hf := Ledger.fails_record d a
  rcases h with ⟨hq, h⟩ | ⟨hq, h⟩
  · refine .record d q (.inl hq) ?_ (h.fails.trans hf) ?_
    · rw [h.inFlight, ← Ledger.unclaim_unclaim d a]
      simp only [Ledger.unclaim, hi]
    · intro hw
      rw [h.notified]
      exact Ledger.notified_record d hw
  · refine .record d q (.inr hq) (h.inFlight.trans hi) (h.fails.trans hf) ?_
    intro hw
    rw [h.notified]
    exact Ledger.notified_record d hw

private theorem move_shown (policy : Policy) (attempt : Attempt) (d : Text) (rule : Rule)
    (outcome : Json)
    (l : Ledger) :
    Move l ((attempt.shown policy d rule outcome).state l) (.showing d)
      ((attempt.shown policy d rule outcome).value l).phase :=
  move_record (answered_cases policy d rule outcome ((Ledger.record d).state l))

/-- Every reply makes an attempt that waits make a move. -/
theorem move_resume (policy : Policy) (attempt : Attempt) (stage : Stage)
    (reply : (stage.query attempt).Reply) (l : Ledger) :
    Move l ((attempt.resume policy stage reply).state l) stage.phase
      ((attempt.resume policy stage reply).value l).phase := by
  unfold resume
  split
  · next reply =>
    have hr : (resolved attempt.url reply).state l = l := by cases reply <;> rfl
    simp only [Act.state_bind, Act.value_bind, hr]
    exact move_enter _ _ _ _
  · next d rule condition wanted rest gathered reply =>
    have hr : (Evaluation.resume wanted rest gathered reply).state l = l := by
      cases reply <;> rfl
    simp only [Act.state_bind, Act.value_bind, hr]
    exact move_decide _ _ _ _ _ _
  · exact move_shown _ _ _ _ _ _
  · exact move_shown _ _ _ _ _ _
  · exact move_record (.inl ⟨rfl, .refl _⟩)
  · exact .stay _ rfl (.refl l)
  · exact .leave _ (.refl _)
  · exact .leave _ (.refl _)
  · exact .leave _ (.refl _)

/-- An attempt that is broken off makes a move to its end. -/
theorem move_abandon (stage : Stage) (l : Ledger) :
    Move l ((abandon stage).state l) stage.phase .idle := by
  cases stage with
  | resolving => exact .stay .idle rfl (.refl l)
  | gathering d rule condition wanted rest gathered => exact .drop d (.refl _)
  | showing d rule => exact move_record (.inl ⟨rfl, .refl _⟩)
  | allowing d => exact .leave d (.refl _)
  | reloading d => exact .leave d (.refl _)

end Attempt

end BreakageAdvisor
