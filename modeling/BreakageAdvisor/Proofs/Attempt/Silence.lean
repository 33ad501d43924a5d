import BreakageAdvisor.Proofs.Attempt.Claims

/-!
# Ignored breakages

A breakage that the user asked not to be told of again is passed over by every attempt that comes to
a rule for it. Only an attempt that found the rule before the answer was stored, and that waits for
cookies since, can still ask for a notification: it does not look at the ignored breakages again.
-/

namespace BreakageAdvisor

/-- An evaluation may end with some jars gathered, as the replies turn out. -/
inductive Evaluation.Reaches : Evaluation → Gathering → Prop where
  | complete (final : Gathering) : Reaches (complete final) final
  | wanting (domain : Text) (rest : List Text) (gathered final : Gathering) (jar : Jar)
      (h : Reaches (ofDomains true rest (gathered.addJar domain jar)) final) :
      Reaches (wanting domain rest gathered) final

private theorem Evaluation.reaches_of_resume {σ : Type} {domain : Text} {rest : List Text}
    {gathered final : Gathering} {reply : Except Failure Jar} {s : σ}
    (h : ((resume domain rest gathered reply).value s).Reaches final) :
    (wanting domain rest gathered).Reaches final := by
  cases reply with
  | ok jar => exact .wanting _ _ _ _ jar h
  | error cause => exact .wanting _ _ _ _ [] h

namespace Attempt

namespace Stage

/-- The notification of a breakage is asked for at a stage. -/
def Tells (id : Text) : Stage → Prop
  | showing _ rule => rule.id = some id
  | _ => False

/-- An attempt has found a rule for a breakage and waits for cookies, and the condition of the rule
may come out true. -/
def MayTell (id : Text) (attempt : Attempt) : Stage → Prop
  | gathering _ rule condition wanted rest gathered =>
    rule.id = some id ∧ ∃ final, (Evaluation.wanting wanted rest gathered).Reaches final ∧
      condition.check (some attempt.url) final = .ok true
  | _ => False

end Stage

variable {policy : Policy} {attempt : Attempt} {d id : Text} {rule : Rule} {l : Ledger}
  {stage next : Stage}

private theorem Stage.claimed?_ne_none (h : next.Tells id ∨ next.MayTell id attempt) :
    next.phase.claimed? ≠ none := by
  cases next with
  | gathering domain _ _ _ _ _ => exact Option.some_ne_none domain
  | showing domain _ => exact Option.some_ne_none domain
  | resolving => exact absurd h (not_or.mpr ⟨not_false, not_false⟩)
  | allowing _ => exact absurd h (not_or.mpr ⟨not_false, not_false⟩)
  | reloading _ => exact absurd h (not_or.mpr ⟨not_false, not_false⟩)

/-- A decision leads to the notification of a breakage only if the rule is one for it and its
condition may come out true. -/
private theorem holds_of_decide {condition : Condition} {e : Evaluation}
    (h : (attempt.decide d rule condition e).value l = .waiting next)
    (hn : next.Tells id ∨ next.MayTell id attempt) :
    rule.id = some id ∧
      ∃ final, e.Reaches final ∧ condition.check (some attempt.url) final = .ok true := by
  cases e with
  | wanting wanted rest gathered =>
    cases h
    exact hn.resolve_left not_false
  | complete gathered =>
    simp only [decide] at h
    split at h
    · next hc =>
      cases h
      exact ⟨hn.resolve_right not_false, gathered, .complete gathered, hc⟩
    · cases h
    · cases h

private theorem id_of_judge (h : (attempt.judge policy d rule).value l = .waiting next)
    (hn : next.Tells id ∨ next.MayTell id attempt) : rule.id = some id := by
  unfold judge at h
  split at h
  · cases h
    exact hn.resolve_right not_false
  · split at h
    · exact (holds_of_decide h hn).1
    · split at h
      · cases h
      · cases h

section Ignored

variable (hw : l.store.Works) (hid : id ≠ []) (hi : id ∈ l.store.ignored)
include hw hid hi

private theorem not_ignored_of_findRule (h : (attempt.findRule d).value l = some rule) :
    rule.id ≠ some id := by
  unfold findRule at h
  split at h
  · cases h
  · rw [Act.value_bind, Act.value_ite] at h
    split at h
    · cases h
    · next hf =>
      cases h
      intro hr
      rw [hr, Ledger.value_isIgnored hw hid hi] at hf
      exact hf rfl

private theorem silent_enter (h : (attempt.enter policy d).value l = .waiting next) :
    ¬(next.Tells id ∨ next.MayTell id attempt) := by
  intro hn
  rw [enter_eq_enterWith] at h
  rcases value_enterWith l with he | ⟨rule, k, hr, hv⟩
  · rw [he] at h
    cases h
  · have hworks : ((Ledger.reserve d).state l).store.Works := hw.of_fails (Ledger.fails_reserve d l)
    refine not_ignored_of_findRule hworks hid (Ledger.stable_reserve d l hi) hr ?_
    rw [hv] at h
    exact id_of_judge h hn

private theorem silent_begin (h : (attempt.begin policy).value l = .waiting next) :
    ¬(next.Tells id ∨ next.MayTell id attempt) := by
  unfold begin at h
  split at h
  · exact silent_enter hw hid hi h
  · cases h
    exact not_or.mpr ⟨not_false, not_false⟩

private theorem mayTell_of_resume {reply : (stage.query attempt).Reply}
    (h : (attempt.resume policy stage reply).value l = .waiting next)
    (hn : next.Tells id ∨ next.MayTell id attempt) : stage.MayTell id attempt := by
  have hm := move_resume policy attempt stage reply l
  rw [h] at hm
  -- Once its notification was asked for, an attempt asks for no other.
  have past (hp : stage.phase.shown? ≠ none ∨ stage.phase.recorded? ≠ none) :
      stage.MayTell id attempt := absurd (hm.claimed?_eq_none hp) (Stage.claimed?_ne_none hn)
  cases stage with
  | resolving =>
    have hs : (resolved attempt.url reply).state l = l := by cases reply <;> rfl
    simp only [resume, Act.value_bind, hs] at h
    exact absurd hn (silent_enter hw hid hi h)
  | gathering domain rule condition wanted rest gathered =>
    obtain ⟨hr, final, hf, hc⟩ := holds_of_decide h hn
    exact ⟨hr, final, Evaluation.reaches_of_resume hf, hc⟩
  | showing domain rule => exact past (.inl (Option.some_ne_none domain))
  | allowing domain => exact past (.inr (Option.some_ne_none domain))
  | reloading domain => exact past (.inr (Option.some_ne_none domain))

end Ignored

section Stays

private theorem stable_findRule :
    Act.Stable (fun l => id ∈ l.store.ignored) (attempt.findRule d) := by
  unfold findRule
  split
  · exact .pure _
  · refine .bind (Ledger.stable_isIgnored _) fun found => ?_
    split
    · exact .bind (.report _) fun _ => .pure _
    · exact .pure _

private theorem stable_finish (result : Except Failure Bool) :
    Act.Stable (fun l => id ∈ l.store.ignored) (finish d result) := fun _ h => h

private theorem stable_decide (condition : Condition) (e : Evaluation) :
    Act.Stable (fun l => id ∈ l.store.ignored) (attempt.decide d rule condition e) := by
  unfold decide
  split
  · exact .pure _
  · split
    · exact .pure _
    · exact stable_finish _
    · exact stable_finish _

private theorem stable_judge :
    Act.Stable (fun l => id ∈ l.store.ignored) (attempt.judge policy d rule) := by
  unfold judge
  split
  · exact .pure _
  · split
    · exact stable_decide _ _
    · split
      · exact .bind (.report _) fun _ => stable_finish _
      · exact stable_finish _

private theorem stable_enter :
    Act.Stable (fun l => id ∈ l.store.ignored) (attempt.enter policy d) := by
  refine .bind (Ledger.stable_reserve d) fun reserved => ?_
  split
  · refine .bind stable_findRule fun found => ?_
    cases found with
    | none => exact stable_finish _
    | some rule => exact stable_judge
  · exact .pure _

/-- An attempt that begins leaves ignored breakages ignored. -/
theorem stable_begin : Act.Stable (fun l => id ∈ l.store.ignored) (attempt.begin policy) := by
  unfold begin
  split
  · exact stable_enter
  · exact .pure _

private theorem stable_shown (outcome : Json) :
    Act.Stable (fun l => id ∈ l.store.ignored) (attempt.shown policy d rule outcome) := by
  refine .bind (Ledger.stable_record d) fun _ => .bind (.report _) fun _ => ?_
  unfold answered
  split
  · exact stable_finish _
  · exact stable_finish _
  · split
    · exact stable_finish _
    · split
      · exact .bind (Ledger.stable_ignore _) fun _ => stable_finish _
      · split
        · exact .pure _
        · exact .bind (.report _) fun _ => stable_finish _
  · exact .bind (.report _) fun _ => stable_finish _

private theorem stable_resume (reply : (stage.query attempt).Reply) :
    Act.Stable (fun l => id ∈ l.store.ignored) (attempt.resume policy stage reply) := by
  unfold resume
  split
  · next reply =>
    have hr : Act.Stable (fun l : Ledger => id ∈ l.store.ignored) (resolved attempt.url reply) := by
      cases reply with
      | ok domain => exact .pure _
      | error cause => exact .bind (.report _) fun _ => .pure _
    exact .bind hr fun _ => stable_enter
  · next wanted rest gathered reply =>
    have hr : Act.Stable (fun l : Ledger => id ∈ l.store.ignored)
        (Evaluation.resume wanted rest gathered reply) := by
      cases reply with
      | ok jar => exact .pure _
      | error cause => exact .bind (.report _) fun _ => .pure _
    exact .bind hr fun _ => stable_decide _ _
  · exact stable_shown _
  · exact .bind (.report _) fun _ => stable_shown _
  · exact .bind (Ledger.stable_record _) fun _ => stable_finish _
  · exact .pure _
  · exact stable_finish _
  · exact stable_finish _
  · exact stable_finish _

private theorem stable_abandon : Act.Stable (fun l => id ∈ l.store.ignored) (abandon stage) := by
  cases stage with
  | resolving => exact .pure _
  | gathering _ _ _ _ _ _ => exact fun _ h => h
  | showing _ _ => exact .bind (Ledger.stable_record _) fun _ _ h => h
  | allowing _ => exact fun _ h => h
  | reloading _ => exact fun _ h => h

end Stays

end Attempt

open Attempt

namespace Crowd

/-- The attempt that an event brings to a stage, with the stage. -/
def arrival? (policy : Policy) (c : Crowd) : Event → Option (Attempt × Stage)
  | .began attempt => ((attempt.begin policy).value c.ledger).stage?.map (attempt, ·)
  | .replied place reply =>
    match c.members[place]? with
    | none => none
    | some (attempt, stage) =>
      ((attempt.resume policy stage (reply (stage.query attempt))).value c.ledger).stage?.map
        (attempt, ·)
  | _ => none

/-- An event makes an attempt ask for the notification of a breakage. -/
def Tells (policy : Policy) (id : Text) (c : Crowd) (e : Event) : Prop :=
  ∃ m, c.arrival? policy e = some m ∧ m.2.Tells id

/-- A breakage is ignored, and no attempt can come to tell of it. -/
structure Silent (id : Text) (c : Crowd) : Prop where
  works : c.ledger.store.Works
  ignored : id ∈ c.ledger.store.ignored
  members : ∀ m ∈ c.members, ¬ m.2.MayTell id m.1

variable {policy : Policy} {c : Crowd} {id : Text}

private theorem eq_waiting {attempt : Attempt} {p : Progress} {m : Attempt × Stage}
    (h : p.stage?.map (attempt, ·) = some m) : m.1 = attempt ∧ p = .waiting m.2 := by
  cases p with
  | ended result => cases h
  | waiting stage =>
    cases h
    exact ⟨rfl, rfl⟩

private theorem mem_put {before after : List (Attempt × Stage)} {attempt : Attempt}
    {next : Option Stage} {ledger : Ledger} {m : Attempt × Stage}
    (h : m ∈ (c.put before after attempt next ledger).members) :
    m ∈ before ∨ m ∈ after ∨ next.map (attempt, ·) = some m := by
  simp only [put, List.mem_append, Option.mem_toList] at h
  rcases h with (h | h) | h
  · exact .inl h
  · exact .inr (.inr h)
  · exact .inr (.inl h)

private theorem mem_step (e : Event) {m : Attempt × Stage} (h : m ∈ (c.step policy e).members) :
    m ∈ c.members ∨ c.arrival? policy e = some m := by
  cases e with
  | began attempt =>
    rcases mem_put h with h | h | h
    · exact .inl h
    · cases h
    · exact .inr h
  | replied place reply =>
    cases hm : c.members[place]? with
    | none =>
      simp only [step, hm] at h
      exact .inl h
    | some member =>
      simp only [step, arrival?, hm] at h ⊢
      rcases mem_put h with h | h | h
      · exact .inl (List.mem_of_mem_take h)
      · exact .inl (List.mem_of_mem_drop h)
      · exact .inr h
  | abandoned place =>
    simp only [step] at h
    split at h
    · exact .inl h
    · rcases mem_put h with h | h | h
      · exact .inl (List.mem_of_mem_take h)
      · exact .inl (List.mem_of_mem_drop h)
      · cases h
  | cleared => exact .inl h

private theorem ignored_step (e : Event) (h : id ∈ c.ledger.store.ignored) :
    id ∈ (c.step policy e).ledger.store.ignored := by
  cases e with
  | began attempt => exact stable_begin _ h
  | replied place reply =>
    simp only [step]
    split
    · exact h
    · exact stable_resume _ _ h
  | abandoned place =>
    simp only [step]
    split
    · exact h
    · exact stable_abandon _ h
  | cleared => exact Ledger.stable_clear _ h

namespace Silent

/-- Where a breakage is silent, no event brings an attempt to where it could tell of it. -/
theorem arrival (h : Silent id c) (hid : id ≠ []) {e : Event} {m : Attempt × Stage}
    (ha : c.arrival? policy e = some m) : ¬(m.2.Tells id ∨ m.2.MayTell id m.1) := by
  cases e with
  | began attempt =>
    obtain ⟨rfl, hp⟩ := eq_waiting ha
    exact silent_begin h.works hid h.ignored hp
  | replied place reply =>
    simp only [arrival?] at ha
    split at ha
    · cases ha
    · next attempt stage hm =>
      obtain ⟨rfl, hp⟩ := eq_waiting ha
      intro hn
      exact h.members _ (List.mem_of_getElem? hm) (mayTell_of_resume h.works hid h.ignored hp hn)
  | abandoned place => cases ha
  | cleared => cases ha

/-- A silent breakage stays silent in every event. -/
theorem step (h : Silent id c) (hid : id ≠ []) (e : Event) : Silent id (c.step policy e) where
  works := (change_step policy c e).works h.works
  ignored := ignored_step e h.ignored
  members := by
    intro m hm
    rcases mem_step e hm with hm | ha
    · exact h.members m hm
    · exact (not_or.mp (h.arrival hid ha)).2

/-- A silent breakage stays silent in every run. -/
theorem run (h : Silent id c) (hid : id ≠ []) (events : List Event) :
    Silent id (c.run policy events) := by
  induction events generalizing c with
  | nil => exact h
  | cons e rest ih => exact ih (h.step hid e)

end Silent

private theorem getElem?_step {place : Nat} {attempt : Attempt} {stage next : Stage}
    (reply : (query : Query) → query.Reply) (hm : c.members[place]? = some (attempt, stage))
    (hv : (attempt.resume policy stage (reply (stage.query attempt))).value c.ledger =
      .waiting next) :
    (c.step policy (.replied place reply)).members[place]? = some (attempt, next) := by
  obtain ⟨hl, _⟩ := List.getElem?_eq_some_iff.mp hm
  have ht : (c.members.take place).length = place := List.length_take_of_le (Nat.le_of_lt hl)
  simp only [step, hm, hv, put, Progress.stage?, Option.map_some, Option.toList_some,
    List.append_assoc]
  rw [List.getElem?_append_right (by omega), ht, Nat.sub_self]
  rfl

/-- The replies of a browser that has one jar for all domains. -/
def listing (jar : Jar) : (query : Query) → query.Reply
  | .cookies _ => .ok jar
  | query => clicking [] query

/-- An attempt that waits for cookies for a rule tells of its breakage if the condition of the rule
comes out true with the jars that come. -/
private theorem exists_tells (policy : Policy) {attempt : Attempt} {d : Text} {rule : Rule}
    {condition : Condition} {final : Gathering} (hr : rule.id = some id)
    (hc : condition.check (some attempt.url) final = .ok true) {e : Evaluation}
    (he : e.Reaches final) {wanted : Text} {rest : List Text} {gathered : Gathering}
    (hw : e = .wanting wanted rest gathered) {place : Nat}
    (hm : c.members[place]? = some (attempt, .gathering d rule condition wanted rest gathered)) :
    ∃ events next, (c.run policy events).Tells policy id next := by
  induction he generalizing c wanted rest gathered with
  | complete final => cases hw
  | wanting wanted rest gathered final jar hj ih =>
    cases hw
    have hv : (attempt.resume policy (.gathering d rule condition wanted rest gathered)
        (.ok jar)).value c.ledger =
          (attempt.decide d rule condition
            (.ofDomains true rest (gathered.addJar wanted jar))).value c.ledger := rfl
    cases ho : Evaluation.ofDomains true rest (gathered.addJar wanted jar) with
    | complete last =>
      rw [ho] at hj hv
      cases hj
      simp only [Attempt.decide, hc] at hv
      refine ⟨[], .replied place (listing jar), (attempt, .showing d rule), ?_, hr⟩
      simp only [run, List.foldl_nil, arrival?, hm]
      exact congrArg (fun p : Progress => p.stage?.map (attempt, ·)) hv
    | wanting wanted' rest' gathered' =>
      rw [ho] at hv
      obtain ⟨events, next, h⟩ := ih hc ho (getElem?_step (listing jar) hm hv)
      exact ⟨.replied place (listing jar) :: events, next, h⟩

/-- Once a breakage is ignored in a working store, no event of any run makes an attempt ask for its
notification, exactly if no attempt was waiting at that moment for cookies for a rule of the
breakage whose condition may come out true. -/
theorem silenced_iff (policy : Policy) {c : Crowd} {id : Text} (hw : c.ledger.store.Works)
    (hid : id ≠ []) (hi : id ∈ c.ledger.store.ignored) :
    (∀ events e, ¬ (run policy c events).Tells policy id e) ↔
      ∀ m ∈ c.members, ¬ m.2.MayTell id m.1 := by
  constructor
  · rintro h ⟨attempt, stage⟩ hm ht
    obtain ⟨place, hp⟩ := List.mem_iff_getElem?.mp hm
    cases stage with
    | gathering d rule condition wanted rest gathered =>
      obtain ⟨hr, final, hf, hc⟩ := ht
      obtain ⟨events, e, he⟩ := exists_tells policy hr hc hf rfl hp
      exact h events e he
    | resolving => exact ht
    | showing _ _ => exact ht
    | allowing _ => exact ht
    | reloading _ => exact ht
  · rintro hm events e ⟨m, ha, ht⟩
    have hs : Silent id c := ⟨hw, hi, hm⟩
    exact (hs.run hid events).arrival hid ha (.inl ht)

/-- An attempt on a request, under one rule that lists two domains and looks for a cookie. -/
def consentVisit (domain : Text) : Attempt :=
  ⟨.number 1, .request, domain, [⟨some "rule", ["a.com", "b.com"], .plain "message",
    .object [("type", .text "cookie"), ("domain", .text "c.com"), ("name", .text "consent")]⟩]⟩

/-- The replies of a browser that has the cookie, where the user wants to be told no more. -/
def refusing : (query : Query) → query.Reply
  | .baseDomain url => .ok url
  | .notification _ => .ok (.text "not-anymore")
  | query => listing [some ⟨.text "consent", .text "given", .text "c.com"⟩] query

/-- The user refuses the breakage for one domain before an attempt for the other has found the rule:
that attempt tells of nothing, nor does any later one. -/
theorem silenced_iff_early :
    let early : List Event := [.began (consentVisit "a.com"), .began (consentVisit "b.com"),
      .replied 1 refusing, .replied 1 refusing, .replied 1 refusing]
    let c := run { notifications := .actionable } {} early
    c.ledger.store.Works ∧ ("rule" : Text) ≠ [] ∧ ("rule" : Text) ∈ c.ledger.store.ignored ∧
      ∀ events e, ¬ (run { notifications := .actionable } c events).Tells
        { notifications := .actionable } "rule" e := by
  intro early c
  have hw : c.ledger.store.Works := fun _ _ => rfl
  have hi : ("rule" : Text) ∈ c.ledger.store.ignored := by decide
  have hm : c.members = [(consentVisit "a.com", .resolving)] := rfl
  refine ⟨hw, by decide, hi, (silenced_iff _ hw (by decide) hi).mpr ?_⟩
  simp [hm, Stage.MayTell]

/-- The user refuses the breakage for one domain while an attempt for the other waits for the
cookies that its condition needs. -/
def refusedRun : List Event :=
  [.began (consentVisit "a.com"), .replied 0 refusing, .began (consentVisit "b.com"),
    .replied 1 refusing, .replied 1 refusing, .replied 1 refusing]

/-- After the refusal was stored, the cookies make the first attempt ask for the notification. -/
theorem refusedRun_tells :
    let c := run { notifications := .actionable } {} refusedRun
    c.ledger.store.Works ∧ ("rule" : Text) ∈ c.ledger.store.ignored ∧
      c.Tells { notifications := .actionable } "rule" (.replied 0 refusing) := by
  intro c
  have hi : ("rule" : Text) ∈ c.ledger.store.ignored := by decide
  exact ⟨fun _ _ => rfl, hi, _, rfl, rfl⟩

end Crowd

end BreakageAdvisor
