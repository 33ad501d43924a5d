import BreakageAdvisor.Proofs.Attempt.Faults
import BreakageAdvisor.Proofs.Attempt.Run
import BreakageAdvisor.Proofs.Attempt.Soundness
import BreakageAdvisor.Proofs.Condition.Snapshots

/-!
# Verdicts

An attempt gives the verdict that the user was told exactly if it asked for a notification, and
before it carries out the answer it stores that the domain was told of. It gives no verdict only
where the user clicked, and the exemption of the URL or the reload of the tab fails: then it fails
itself, although the user was told.
-/

namespace BreakageAdvisor

/-- An entry that neither alters anything nor asks for a notification. -/
def Entry.Preliminary (entry : Entry) : Prop :=
  ¬entry.Alters ∧ ∀ message, entry ≠ .asked (.notification message)

private theorem Entry.preliminary_reported (report : LogEntry) :
    (Entry.reported report).Preliminary :=
  ⟨not_false, nofun⟩

private theorem Entry.preliminary_cookies (domain : Text) :
    (Entry.asked (.cookies domain)).Preliminary :=
  ⟨not_false, nofun⟩

/-- The jars that were gathered so far. -/
def Evaluation.gathered : Evaluation → Gathering
  | complete gathering => gathering
  | wanting _ _ gathering => gathering

namespace Evaluation

variable {g : Gathering} {snapshot : Text → Option Jar}

private theorem exists_shows_ofDomains (hasCookies : Bool) (domains : List Text)
    (h : g.Shows snapshot) :
    ∃ later, (ofDomains hasCookies domains g).gathered.Shows later := by
  induction domains generalizing g snapshot with
  | nil => exact ⟨snapshot, h⟩
  | cons domain rest ih =>
    rw [ofDomains]
    split
    · exact ih h
    · split
      · exact ⟨snapshot, h⟩
      · exact ih (h.addJar domain [])

private theorem exists_shows_resume {σ : Type} (domain : Text) (rest : List Text)
    (reply : Except Failure Jar) (s : σ) (h : g.Shows snapshot) :
    ∃ later, ((resume domain rest g reply).value s).gathered.Shows later := by
  cases reply with
  | ok jar => exact exists_shows_ofDomains true rest (h.addJar domain jar)
  | error cause => exact exists_shows_ofDomains true rest (h.addJar domain [])

end Evaluation

private theorem Ledger.enters_ignore {P : Entry → Prop} (id : Option Text)
    (h : ∀ id, P (.stored (.addIgnored id))) (hr : ∀ report, P (.reported report)) :
    (ignore id).Enters P := by
  unfold ignore
  split
  · exact .pure _
  · exact .pure _
  · refine .bind (enters_onStore_call _ _ (h _)) fun found => ?_
    split
    · exact .report (hr _)
    · exact .pure _

private theorem Ledger.journal_record (d : Text) {l : Ledger} (hw : l.store.Works) :
    (record d).journal l = [.stored (.addNotified d)] := by
  have hv : (onStore (Store.addNotified d)).value l = some () := Store.value_call _ _ _ hw
  have hj : (onStore (Store.addNotified d)).journal l = [.stored (.addNotified d)] :=
    journal_onStore_call _ _ _ l
  rw [record, Act.journal_bind, hv, hj]
  rfl

namespace Attempt

section Before

variable {policy : Policy} {attempt : Attempt} {d : Text} {rule : Rule}

/-- How far an attempt that has claimed a domain can have come before it asks for its notification:
it has ended without it, waits for cookies with a snapshot, or is about to ask. -/
def Progress.Undecided (d : Text) : Progress → Prop
  | ended verdict => verdict = .ok false
  | waiting (.gathering domain _ _ _ _ gathered) =>
    domain = d ∧ ∃ snapshot, gathered.Shows snapshot
  | waiting (.showing domain _) => domain = d
  | waiting _ => False

private theorem undecided_decide {condition : Condition} {e : Evaluation}
    {snapshot : Text → Option Jar}
    (h : e.gathered.Shows snapshot) (l : Ledger) :
    ((attempt.decide d rule condition e).value l).Undecided d := by
  cases e with
  | wanting wanted rest gathered => exact ⟨rfl, snapshot, h⟩
  | complete gathered =>
    obtain ⟨holds, hc⟩ : ∃ holds, condition.check (some attempt.url) gathered = .ok holds :=
      Condition.exists_check_eq_ok _ h condition
    rw [decide, hc]
    cases holds <;> rfl

private theorem undecided_judge (hs : rule.IsSound) (l : Ledger) :
    ((attempt.judge policy d rule).value l).Undecided d := by
  unfold judge
  split
  · rfl
  · split
    · have h : Gathering.Shows [] fun _ => none := fun _ => rfl
      obtain ⟨snapshot, h⟩ := Evaluation.exists_shows_ofDomains policy.cookies _ h
      exact undecided_decide h l
    · next error hc =>
      rw [if_pos (hs error hc)]
      rfl

private theorem undecided_enter (hs : ∀ rule ∈ attempt.rules, rule.IsSound) (l : Ledger) :
    ((attempt.enter policy d).value l).Undecided d := by
  rw [enter, Act.value_bind, Act.value_ite]
  split
  · rw [Act.value_bind]
    split
    · next rule hf => exact undecided_judge (hs rule (mem_of_findRule _ _ _ hf)) _
    · rfl
  · rfl

variable {P : Entry → Prop}

private theorem enters_finish (verdict : Except Failure Bool) : (finish d verdict).Enters P :=
  .bind (.modify _) fun _ => .pure _

private theorem enters_decide (condition : Condition) (e : Evaluation) :
    (attempt.decide d rule condition e).Enters P := by
  unfold decide
  split
  · exact .pure _
  · split
    · exact .pure _
    · exact enters_finish _
    · exact enters_finish _

private theorem enters_judge (hr : ∀ report, P (.reported report)) :
    (attempt.judge policy d rule).Enters P := by
  unfold judge
  split
  · exact .pure _
  · split
    · exact enters_decide _ _
    · split
      · exact .bind (.report (hr _)) fun _ => enters_finish _
      · exact enters_finish _

private theorem enters_enter (hn : P (.stored (.isNotified d))) (hi : P (.stored .listIgnored))
    (hr : ∀ report, P (.reported report)) : (attempt.enter policy d).Enters P := by
  refine .bind (Ledger.enters_reserve hn hr) fun reserved => ?_
  split
  · refine .bind (enters_findRule attempt d hi hr) fun found => ?_
    cases found with
    | none => exact enters_finish _
    | some rule => exact enters_judge hr
  · exact .pure _

private theorem enters_findDomain {reply : (query : Query) → query.Reply}
    (hq : P (.asked (.baseDomain attempt.url))) (hr : ∀ report, P (.reported report)) :
    (attempt.findDomain policy reply).Enters P := by
  unfold findDomain
  split
  · exact .pure _
  · refine .bind (.enter hq) fun _ => ?_
    cases reply (.baseDomain attempt.url) with
    | ok domain => exact .pure _
    | error cause => exact .bind (.report (hr _)) fun _ => .pure _

private theorem enters_resume_gathering (hr : ∀ report, P (.reported report))
    {condition : Condition}
    {wanted : Text} {rest : List Text} {gathered : Gathering} (reply : Except Failure Jar) :
    (attempt.resume policy (.gathering d rule condition wanted rest gathered) reply).Enters P := by
  refine .bind ?_ fun _ => enters_decide _ _
  cases reply with
  | ok jar => exact .pure _
  | error cause => exact .bind (.report (hr _)) fun _ => .pure _

private theorem undecided_resume_gathering {condition : Condition} {wanted : Text}
    {rest : List Text}
    {gathered : Gathering} {snapshot : Text → Option Jar} (h : gathered.Shows snapshot)
    (reply : Except Failure Jar) (l : Ledger) :
    ((attempt.resume policy (.gathering d rule condition wanted rest gathered) reply).value
      l).Undecided d := by
  obtain ⟨later, h⟩ := Evaluation.exists_shows_resume wanted rest reply l h
  exact undecided_decide h _

end Before

section Answer

variable (policy : Policy) (reply : (query : Query) → query.Reply) (attempt : Attempt)

/-- The answer to a notification is a click, and what it asks for cannot be done: the exemption of
the URL, or the reload of the tab. -/
def Thwarted (outcome : Json) : Prop :=
  outcome = .text "clicked" ∧ policy.notifications = .actionable ∧
    ((∃ cause, reply (.allow attempt.url) = .error cause) ∨
      ∃ cause, reply (.reload attempt.tab) = .error cause)

/-- What an act does after a notification was recorded: it fails in a certain case, and otherwise
says that the user was told; it asks for no further notification, and nothing that was told of is
forgotten. -/
structure Settles (failing : Prop) (act : Act Ledger (Except Failure Bool)) (l : Ledger) :
    Prop where
  fails : (∃ cause, act.value l = .error cause) ↔ failing
  tells : ∀ told, act.value l = .ok told → told = true
  quiet : ∀ message, .asked (.notification message) ∉ act.journal l
  keeps : (act.state l).store.notified = l.store.notified

variable {policy reply attempt} {d : Text} {rule : Rule} {l : Ledger}

private theorem Settles.of_not {failing : Prop} {act : Act Ledger (Except Failure Bool)}
    (hf : ¬failing) (h : Settles False act l) : Settles failing act l := by
  rwa [eq_false hf]

private theorem settles_told :
    Settles False (do attempt.complete policy reply (← finish d (.ok true))) l := by
  rw [complete_finish]
  exact ⟨by simp, by simp, fun _ => List.not_mem_nil, rfl⟩

private theorem settles_failed (cause : Failure) :
    Settles True (do attempt.complete policy reply (← finish d (.error cause))) l := by
  rw [complete_finish]
  exact ⟨by simp, by simp, fun _ => List.not_mem_nil, rfl⟩

/-- What neither asks for a notification nor forgets one may come before. -/
theorem Settles.after {α : Type} {failing : Prop} {first : Act Ledger α}
    {next : α → Act Ledger (Except Failure Bool)}
    (hj : ∀ message, .asked (.notification message) ∉ first.journal l)
    (hs : (first.state l).store.notified = l.store.notified)
    (h : Settles failing (next (first.value l)) (first.state l)) :
    Settles failing (first >>= next) l where
  fails := h.fails
  tells := h.tells
  quiet := by
    intro message hm
    rcases List.mem_append.mp hm with hm | hm
    · exact hj message hm
    · exact h.quiet message hm
  keeps := h.keeps.trans hs

/-- A query that asks for no notification, and the reply to it, may come before. -/
theorem Settles.waiting {failing : Prop} {stage : Stage}
    (hq : ∀ message, stage.query attempt ≠ .notification message)
    (h : ∀ l, Settles failing (do
      attempt.complete policy reply
        (← attempt.resume policy stage (reply (stage.query attempt)))) l) :
    Settles failing (attempt.complete policy reply (.waiting stage)) l := by
  rw [complete_waiting]
  apply Settles.after
  · intro message hm
    exact hq message (Entry.asked.inj (List.mem_singleton.mp hm)).symm
  · rfl
  · exact h _

private theorem settles_reloading :
    Settles (∃ cause, reply (.reload attempt.tab) = .error cause)
      (attempt.complete policy reply (.waiting (.reloading d))) l := by
  apply Settles.waiting (by simp [Stage.query])
  intro l
  simp only [Stage.query]
  cases reply (.reload attempt.tab) with
  | ok done =>
    simp only [reduceCtorEq, exists_false]
    exact settles_told
  | error cause =>
    simp only [Except.error.injEq, exists_eq']
    exact settles_failed cause

private theorem settles_allowing :
    Settles ((∃ cause, reply (.allow attempt.url) = .error cause) ∨
        ∃ cause, reply (.reload attempt.tab) = .error cause)
      (attempt.complete policy reply (.waiting (.allowing d))) l := by
  apply Settles.waiting (by simp [Stage.query])
  intro l
  simp only [Stage.query]
  cases reply (.allow attempt.url) with
  | ok done =>
    simp only [reduceCtorEq, exists_false, false_or]
    exact settles_reloading
  | error cause =>
    simp only [Except.error.injEq, exists_eq', true_or]
    exact settles_failed cause

private theorem settles_reported (report : LogEntry) :
    Settles False (do
      Act.report report
      attempt.complete policy reply (← finish d (.ok true))) l := by
  apply Settles.after
  · intro message hm
    cases List.mem_singleton.mp hm
  · rfl
  · exact settles_told

private theorem settles_ignored (id : Option Text) :
    Settles False (do
      Ledger.ignore id
      attempt.complete policy reply (← finish d (.ok true))) l := by
  apply Settles.after
  · intro message hm
    have h := Ledger.enters_ignore (P := fun e => e ≠ .asked (.notification message)) id
      (fun _ => nofun) (fun _ => nofun)
    exact h l _ hm rfl
  · exact (Ledger.agrees_ignore id l).notified
  · exact settles_told

private theorem settles_answered (outcome : Json) :
    Settles (attempt.Thwarted policy reply outcome)
      (do attempt.complete policy reply (← answered policy d rule outcome)) l := by
  unfold answered Thwarted
  split
  · next hn => exact .of_not (by simp [hn]) settles_told
  · exact .of_not (by simp) settles_told
  · next answer hn =>
    split
    · next h =>
      have hne : answer ≠ "clicked" := by rw [h]; decide
      exact .of_not (by simp [hne]) settles_told
    · split
      · next h =>
        have hne : answer ≠ "clicked" := by rw [h]; decide
        rw [Act.bind_assoc]
        exact .of_not (by simp [hne]) (settles_ignored rule.id)
      · split
        · next h =>
          simp only [h, hn, true_and]
          exact settles_allowing
        · next hne =>
          rw [Act.bind_assoc]
          exact .of_not (by simp [hne]) (settles_reported _)
  · next h =>
    rw [Act.bind_assoc]
    exact .of_not (fun hc => h _ hc.1) (settles_reported _)

end Answer

section Whole

variable (policy : Policy) (reply : (query : Query) → query.Reply) (attempt : Attempt)

/-- What an act does that records a notification for a domain: before the record nothing is altered
or asked, and after it no notification is asked for. -/
structure Concludes (failing : Prop) (d : Text) (act : Act Ledger (Except Failure Bool))
    (l : Ledger) : Prop where
  fails : (∃ cause, act.value l = .error cause) ↔ failing
  tells : ∀ told, act.value l = .ok told → told = true
  records : ∃ before after, act.journal l = before ++ .stored (.addNotified d) :: after ∧
    (∀ entry ∈ before, entry.Preliminary) ∧ ∀ message, .asked (.notification message) ∉ after
  keeps : d ∈ (act.state l).store.notified

/-- What a run does once it has its domain: it fails exactly where it asked for a notification whose
answer cannot be carried out; a verdict says whether it asked for a notification; and if it did, it
stored that the domain was told of before anything else was altered. -/
structure Truthful (d : Text) (act : Act Ledger (Except Failure Bool)) (l : Ledger) : Prop where
  fails : (∃ cause, act.value l = .error cause) ↔
    ∃ message outcome, .asked (.notification message) ∈ act.journal l ∧
      reply (.notification message) = .ok outcome ∧ attempt.Thwarted policy reply outcome
  tells : ∀ told, act.value l = .ok told →
    (told = true ↔ ∃ message, .asked (.notification message) ∈ act.journal l)
  records : (∃ message, .asked (.notification message) ∈ act.journal l) →
    (∃ before after, act.journal l = before ++ .stored (.addNotified d) :: after ∧
      ∀ entry ∈ before, ¬entry.Alters) ∧ d ∈ (act.state l).store.notified

variable {policy reply attempt} {d : Text} {rule : Rule} {l : Ledger}

private theorem concludes_shown (hw : l.store.Works) (outcome : Json) :
    Concludes (attempt.Thwarted policy reply outcome) d (do
      attempt.complete policy reply (← attempt.shown policy d rule outcome)) l := by
  let later : Act Ledger (Except Failure Bool) := do
    Act.report (.notificationShown d (rule.labelOr attempt.trigger.name))
    attempt.complete policy reply (← answered policy d rule outcome)
  have h : Settles (attempt.Thwarted policy reply outcome) later ((Ledger.record d).state l) := by
    apply Settles.after
    · intro message hm
      cases List.mem_singleton.mp hm
    · rfl
    · exact settles_answered outcome
  have hshown : (do attempt.complete policy reply (← attempt.shown policy d rule outcome)) =
      Ledger.record d >>= fun _ => later := by
    simp only [later, shown, Act.bind_assoc]
  rw [hshown]
  have hnone : ∀ entry ∈ ([] : List Entry), entry.Preliminary := List.forall_mem_nil _
  refine ⟨h.fails, h.tells, ⟨[], later.journal ((Ledger.record d).state l), ?_, hnone, h.quiet⟩, ?_⟩
  · rw [Act.journal_bind, Ledger.journal_record d hw]
    rfl
  · rw [Act.state_bind, h.keeps, Ledger.notified_record d hw, Store.mem_adjoin]
    exact .inr rfl

/-- A report may come before. -/
theorem Concludes.reported {failing : Prop} {act : Act Ledger (Except Failure Bool)}
    (h : Concludes failing d act l) (report : LogEntry) :
    Concludes failing d (do Act.report report; act) l := by
  obtain ⟨before, after, hj, hb, ha⟩ := h.records
  refine ⟨h.fails, h.tells, ⟨.reported report :: before, after, ?_, ?_, ha⟩, h.keeps⟩
  · exact congrArg (List.cons _) hj
  · exact List.forall_mem_cons.mpr ⟨Entry.preliminary_reported report, hb⟩

private theorem Concludes.truthful {failing : Prop} {message : Message}
    {act : Act Ledger (Except Failure Bool)} (h : Concludes failing d act l)
    (hf : failing ↔ ∃ outcome, reply (.notification message) = .ok outcome ∧
      attempt.Thwarted policy reply outcome) :
    Truthful policy reply attempt d (do Act.enter (.asked (.notification message)); act) l := by
  obtain ⟨before, after, hj, hb, ha⟩ := h.records
  have hjournal : (do Act.enter (.asked (.notification message)); act).journal l =
      (.asked (.notification message) :: before) ++ .stored (.addNotified d) :: after :=
    congrArg (List.cons _) hj
  have honly (other : Message) : .asked (.notification other) ∈
      (do Act.enter (.asked (.notification message)); act).journal l ↔ other = message := by
    rw [hjournal, List.mem_append, List.mem_cons, List.mem_cons]
    constructor
    · rintro ((hm | hm) | hm | hm)
      · exact Query.notification.inj (Entry.asked.inj hm)
      · exact absurd rfl ((hb _ hm).2 other)
      · cases hm
      · exact absurd hm (ha other)
    · rintro rfl
      exact .inl (.inl rfl)
  refine ⟨?_, ?_, ?_⟩
  · simp only [honly, exists_and_left, exists_eq_left]
    exact h.fails.trans hf
  · intro told ht
    simp only [honly, exists_eq, iff_true]
    exact h.tells told ht
  · intro _
    refine ⟨⟨.asked (.notification message) :: before, after, hjournal, ?_⟩, h.keeps⟩
    exact List.forall_mem_cons.mpr ⟨not_false, fun entry hm => (hb entry hm).1⟩

/-- A notification is asked for, and its answer is carried out. No answer counts as one that asks
for nothing. -/
private theorem truthful_showing (hw : l.store.Works)
    (hr : ∀ cause, reply (.notification rule.message) = .error cause →
      ∃ reason, cause = .bridge reason) :
    Truthful policy reply attempt d (attempt.complete policy reply (.waiting (.showing d rule)))
      l := by
  rw [complete_waiting]
  simp only [Stage.query]
  cases hreply : reply (.notification rule.message) with
  | ok outcome =>
    apply (concludes_shown hw outcome).truthful
    simp [hreply]
  | error cause =>
    obtain ⟨reason, rfl⟩ := hr cause hreply
    simp only [resume, Act.bind_assoc]
    apply ((concludes_shown hw .null).reported _).truthful
    simp [hreply, Thwarted]

/-- What neither alters anything nor asks for a notification may come before. -/
theorem Truthful.after {α : Type} {first : Act Ledger α}
    {next : α → Act Ledger (Except Failure Bool)}
    (hj : ∀ entry ∈ first.journal l, entry.Preliminary)
    (h : Truthful policy reply attempt d (next (first.value l)) (first.state l)) :
    Truthful policy reply attempt d (first >>= next) l := by
  have hasked (message : Message) : .asked (.notification message) ∈ (first >>= next).journal l ↔
      .asked (.notification message) ∈ (next (first.value l)).journal (first.state l) := by
    rw [Act.journal_bind, List.mem_append, or_iff_right]
    intro hm
    exact (hj _ hm).2 message rfl
  refine ⟨?_, ?_, ?_⟩
  · simp only [hasked]
    exact h.fails
  · simp only [hasked]
    exact h.tells
  · intro ht
    simp only [hasked] at ht
    obtain ⟨⟨before, after, he, hb⟩, hd⟩ := h.records ht
    refine ⟨⟨first.journal l ++ before, after, ?_, ?_⟩, hd⟩
    · rw [Act.journal_bind, he, List.append_assoc]
    · intro entry hm
      rcases List.mem_append.mp hm with hm | hm
      · exact (hj entry hm).1
      · exact hb entry hm

private theorem truthful_ended :
    Truthful policy reply attempt d (attempt.complete policy reply (.ended (.ok false))) l := by
  rw [complete_ended]
  exact ⟨by simp, by simp, by simp⟩

section Run

variable (policy)
variable (hs : ∀ rule ∈ attempt.rules, rule.IsSound)
  (hr : ∀ message cause, reply (.notification message) = .error cause →
    ∃ reason, cause = .bridge reason)
include hr

private theorem truthful_complete {progress : Progress} (hp : progress.Undecided d)
    (hw : l.store.Works) :
    Truthful policy reply attempt d (attempt.complete policy reply progress) l := by
  -- Along the run, before the notification, what was gathered stays a snapshot: the condition is
  -- decided, so the attempt ends without failing or comes to ask.
  induction progress using complete.induct policy reply attempt generalizing l with
  | case1 result =>
    cases hp
    exact truthful_ended
  | case2 stage ih =>
    cases stage with
    | resolving => exact absurd hp not_false
    | allowing _ => exact absurd hp not_false
    | reloading _ => exact absurd hp not_false
    | showing domain rule =>
      cases hp
      exact truthful_showing hw (hr rule.message)
    | gathering domain rule condition wanted rest gathered =>
      obtain ⟨rfl, snapshot, hg⟩ := hp
      rw [complete_waiting]
      apply Truthful.after
      · intro entry he
        rw [List.mem_singleton.mp he]
        exact Entry.preliminary_cookies wanted
      · apply Truthful.after
        · exact enters_resume_gathering Entry.preliminary_reported _ _
        · apply ih
          · exact undecided_resume_gathering hg _ _
          · exact hw.of_fails (move_resume ..).fails

include hs

private theorem truthful_run (hw : l.store.Works) :
    Truthful policy reply attempt (attempt.domain policy reply) (attempt.run policy reply) l := by
  rw [run_eq_runWith, runWith]
  apply Truthful.after
  · exact enters_findDomain ⟨not_false, nofun⟩ Entry.preliminary_reported _
  · rw [value_findDomain, state_findDomain]
    apply Truthful.after
    · exact enters_enter ⟨not_false, nofun⟩ ⟨not_false, nofun⟩ Entry.preliminary_reported _
    · apply truthful_complete policy hr
      · exact undecided_enter hs _
      · exact hw.of_fails (move_enter ..).fails

/-- An attempt whose rules are sound, whose store works, and for whose notification nothing but a
call to the browser fails, gives a verdict, and the verdict that the user was told if and only if it
asked for a notification; except exactly where the user clicked, and the exemption of the URL or the
reload of the tab fails. If it asked for a notification, the domain is stored as told of, and that
was done before the answer was carried out. -/
theorem reports_what_it_did_iff (hw : l.store.Works) :
    let journal := (attempt.run policy reply).journal l
    ((∃ told, (attempt.run policy reply).value l = .ok told ∧
        (told = true ↔ ∃ message, .asked (.notification message) ∈ journal)) ↔
      ¬∃ message outcome, .asked (.notification message) ∈ journal ∧
        reply (.notification message) = .ok outcome ∧ attempt.Thwarted policy reply outcome) ∧
    ((∃ message, .asked (.notification message) ∈ journal) →
      (∃ before after,
        journal = before ++ .stored (.addNotified (attempt.domain policy reply)) :: after ∧
          ∀ entry ∈ before, ¬entry.Alters) ∧
        attempt.domain policy reply ∈ ((attempt.run policy reply).state l).store.notified) := by
  have h := truthful_run policy hs hr hw
  refine ⟨?_, h.records⟩
  rw [← h.fails]
  cases hv : (attempt.run policy reply).value l with
  | ok told => simp [h.tells told hv]
  | error cause => simp

end Run

end Whole

/-- A visit under one rule without a condition. -/
def singleVisit : Attempt :=
  ⟨.number 1, .tab, "https://a.com/", [⟨some "rule", ["a.com"], .plain "message", .null⟩]⟩

/-- The user clicks, and all that is asked of the browser fails. -/
def clickingInVain : (query : Query) → query.Reply
  | .notification _ => .ok (.text "clicked")
  | _ => .error (.bridge "failed")

private theorem isSound_singleVisit : ∀ rule ∈ singleVisit.rules, rule.IsSound := by
  intro rule hm error he
  cases List.mem_singleton.mp hm
  cases he
  rfl

private theorem bridge_clickingInVain (message : Message) (cause : Failure)
    (h : clickingInVain (.notification message) = .error cause) :
    ∃ reason, cause = .bridge reason :=
  nomatch h

/-- Where the answer to the notification brings nothing about, the verdict tells what was done. -/
theorem reports_what_it_did_iff_informational :
    (∀ rule ∈ singleVisit.rules, rule.IsSound) ∧ ({} : Ledger).store.Works ∧
      ∃ told, (singleVisit.run {} clickingInVain).value {} = .ok told ∧
        (told = true ↔
          ∃ message, .asked (.notification message) ∈
            (singleVisit.run {} clickingInVain).journal {}) := by
  have hw : ({} : Ledger).store.Works := fun _ _ => rfl
  obtain ⟨h, -⟩ := reports_what_it_did_iff {} isSound_singleVisit bridge_clickingInVain hw
  refine ⟨isSound_singleVisit, hw, h.mpr ?_⟩
  rintro ⟨message, outcome, -, -, -, hn, -⟩
  cases hn

/-- A click that cannot be carried out makes an attempt fail, although the notification was asked
for and recorded. -/
theorem clicked_in_vain :
    let policy : Policy := { notifications := .actionable }
    (∀ rule ∈ singleVisit.rules, rule.IsSound) ∧ ({} : Ledger).store.Works ∧
      (∀ message cause, clickingInVain (.notification message) = .error cause →
        ∃ reason, cause = .bridge reason) ∧
      .asked (.notification (.plain "message")) ∈
        (singleVisit.run policy clickingInVain).journal {} ∧
      (singleVisit.run policy clickingInVain).value {} = .error (.bridge "failed") := by
  intro policy
  have hb : (singleVisit.begin policy).value {} =
      .waiting (.showing "a.com" ⟨some "rule", ["a.com"], .plain "message", .null⟩) := rfl
  refine ⟨isSound_singleVisit, fun _ _ => rfl, bridge_clickingInVain, ?_, ?_⟩
  · rw [run, Act.journal_bind, hb, complete_waiting]
    exact List.mem_append_right _ List.mem_cons_self
  · rw [run, Act.value_bind, hb, complete_waiting]
    change (singleVisit.complete policy clickingInVain (.waiting (.allowing "a.com"))).value _ = _
    rw [complete_waiting]
    change (singleVisit.complete policy clickingInVain
      (.ended (.error (.bridge "failed")))).value _ = _
    rw [complete_ended]
    rfl

end Attempt

end BreakageAdvisor
