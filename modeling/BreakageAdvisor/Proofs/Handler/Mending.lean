import BreakageAdvisor.Proofs.Attempt.Mending
import BreakageAdvisor.Proofs.Handler.Judgements

/-!
# Handlers under mended rules

Handlers that run one after the other, each to its end, once under some rules and once under the
same rules mended. Where a condition is refused otherwise than as malformed the judgement fails, and
the handler goes on with nothing; under mended rules the judgement shows nothing, and the handler
goes on with what was deferred. So the two runs are the same exactly as long as no judgement of that
kind has anything after it.
-/

namespace BreakageAdvisor

/-- The rule book with the rules in force mended. -/
def RuleBook.mend (book : RuleBook) : RuleBook :=
  { book with rules := book.rules.map (List.map Rule.mend) }

namespace Judgement

/-- The cases of judgements, in order. -/
def cases (judgements : List Judgement) : List Handler.Case := judgements.map (·.case)

/-- A judgement under mended rules. -/
def mend (j : Judgement) : Judgement := { j with verdict := Attempt.mendVerdict j.verdict }

private theorem cases_mend (judgements : List Judgement) :
    cases (judgements.map mend) = cases judgements := by
  rw [cases, List.map_map]
  rfl

/-- A judgement is harmless unless a condition is refused in it and its handler has more to go on
with. -/
def Harmless (j : Judgement) : Prop := Condition.NotRefused j.verdict ∨ j.later = []

end Judgement

/-- A handler that goes on with nothing, or with a verdict that refuses no condition, goes on the
same way with the mended verdict. -/
private theorem Handler.mirrors_judged (purpose : Purpose) (verdict : Except Failure Bool)
    (d : Deferred)
    (h : Condition.NotRefused verdict ∨ purpose.rest = []) :
    Act.Mirrors id id (judged purpose verdict) (judged purpose (Attempt.mendVerdict verdict))
      d := by
  rcases h with hn | hr
  · rw [Attempt.mendVerdict_of_notRefused hn]
    exact .refl _ d
  · cases verdict with
    | ok shown => exact .refl _ d
    | error cause =>
      cases cause with
      | condition error =>
        cases purpose with
        | update => exact ⟨rfl, rfl, rfl⟩
        | request => exact ⟨rfl, rfl, rfl⟩
        | replay tab rest =>
          obtain rfl : rest = [] := List.map_eq_nil_iff.mp hr
          exact ⟨rfl, rfl, rfl⟩
      | _ => exact .refl _ d

namespace Advisor

/-- The advisor with the rules in force mended. -/
def mend (a : Advisor) : Advisor := { a with book := a.book.mend }

section Mirrors

variable {α β : Type} {f : α → β} {a : Advisor}

private theorem mirrors_onLedger {act : Act Ledger α} {act' : Act Ledger β}
    (h : Act.Mirrors f id act act' a.ledger) :
    Act.Mirrors f mend (onLedger act) (onLedger act') a where
  value := h.value
  state := congrArg (fun ledger => { a.mend with ledger }) h.state
  deeds := h.deeds

private theorem mirrors_onDeferred {act : Act Deferred α} {act' : Act Deferred β}
    (h : Act.Mirrors f id act act' a.activator.tracker.deferred) :
    Act.Mirrors f mend (onDeferred act) (onDeferred act') a where
  value := h.value
  state := congrArg (fun deferred : Deferred =>
    { a.mend with activator := { a.activator with
        tracker := { a.activator.tracker with deferred } } }) h.state
  deeds := h.deeds

end Mirrors

variable (policy : Policy) (reply : (query : Query) → query.Reply)
  (hr : ∀ query error, reply query ≠ .error (.condition error)) (a : Advisor)

private theorem mirrors_attempt (tab : TabId) (trigger : Trigger) (url : Text) :
    Act.Mirrors Attempt.mend mend (attempt tab trigger url) (attempt tab trigger url) a where
  value := congrArg (Attempt.mk tab trigger url) (PerTrigger.get_map ..)
  state := rfl
  deeds := rfl

include hr in
/-- A case is judged the same way under mended rules. -/
theorem mirrors_judge (case : Handler.Case) :
    Act.Mirrors Attempt.mendVerdict mend (judge policy reply case) (judge policy reply case) a := by
  refine .bind (mirrors_attempt a _ _ _) (mirrors_onLedger ?_)
  exact .bind (Attempt.mirrors_begin ..) (Attempt.mirrors_complete _ _ _ reply hr _)

include hr in
private theorem mirrors_play (progress : Handler.Progress)
    (h : ∀ j ∈ (play policy reply progress).value a, j.Harmless) :
    Act.Mirrors (List.map Judgement.mend) mend (play policy reply progress)
      (play policy reply progress) a := by
  induction progress using play.induct policy reply generalizing a with
  | case1 =>
    rw [play_ended]
    exact .pure _
  | case2 lookup ih =>
    rw [play_lookingUp] at h ⊢
    exact .bind (.enter _) (.bind (mirrors_onDeferred (.refl _ _)) (ih _ _ h))
  | case3 case purpose ih =>
    rw [play_judging] at h ⊢
    obtain ⟨hfirst, hlater⟩ := List.forall_mem_cons.mp h
    refine .bind (mirrors_judge policy reply hr a case) ?_
    refine .bind (mirrors_onDeferred (Handler.mirrors_judged _ _ _ hfirst)) ?_
    exact .bind (ih _ _ hlater) (.pure _)

private theorem play_judged_ne_nil (purpose : Handler.Purpose) (h : purpose.rest ≠ [])
    (d : Deferred) :
    (play policy reply ((Handler.judged purpose (.ok false)).value d)).value a ≠ [] := by
  match purpose, h with
  | .replay tab (url :: rest), _ =>
    rw [Handler.value_judged_replay, Handler.replay, play_judging]
    exact List.cons_ne_nil _ _

include hr in
private theorem harmless_of_cases (progress : Handler.Progress)
    (h : Judgement.cases ((play policy reply progress).value a.mend) =
      Judgement.cases ((play policy reply progress).value a)) :
    ∀ j ∈ (play policy reply progress).value a, j.Harmless := by
  induction progress using play.induct policy reply generalizing a with
  | case1 =>
    rw [play_ended]
    exact fun j hj => absurd hj List.not_mem_nil
  | case2 lookup ih =>
    rw [play_lookingUp] at h ⊢
    exact ih _ _ h
  | case3 case purpose ih =>
    rw [play_judging] at h ⊢
    have hjudged := mirrors_judge policy reply hr a case
    simp only [Judgement.cases, Act.value_bind, Act.value_pure, List.map_cons, List.cons.injEq,
      true_and, hjudged.value, hjudged.state] at h
    by_cases hfirst : Condition.NotRefused ((judge policy reply case).value a) ∨ purpose.rest = []
    · have hnext := mirrors_onDeferred (a := (judge policy reply case).state a)
        (Handler.mirrors_judged purpose _ _ hfirst)
      rw [hnext.value, hnext.state] at h
      exact List.forall_mem_cons.mpr ⟨hfirst, ih _ _ h⟩
    · -- the failed judgement was the last one, but under mended rules another comes
      obtain ⟨hrefused, hrest⟩ := not_or.mp hfirst
      obtain ⟨error, he⟩ := Condition.exists_of_not_notRefused hrefused
      have hlast : play policy reply ((onDeferred (Handler.judged purpose
          ((judge policy reply case).value a))).value ((judge policy reply case).state a)) =
          pure [] := by
        rw [he]
        exact play_ended policy reply
      rw [hlast, he] at h
      exact absurd (List.map_eq_nil_iff.mp h) (play_judged_ne_nil policy reply _ purpose hrest _)

/-- The rules in force are sound. -/
def IsSound (a : Advisor) : Prop := ∀ t, ∀ rule ∈ a.book.rules.get t, rule.IsSound

include hr in
private theorem harmless_of_isSound (progress : Handler.Progress) (hs : a.IsSound) :
    (∀ j ∈ (play policy reply progress).value a, j.Harmless) ∧
      ((play policy reply progress).state a).book = a.book := by
  induction progress using play.induct policy reply generalizing a with
  | case1 =>
    rw [play_ended]
    exact ⟨fun j hj => absurd hj List.not_mem_nil, rfl⟩
  | case2 lookup ih =>
    rw [play_lookingUp]
    exact ih a _ hs
  | case3 case purpose ih =>
    rw [play_judging]
    have hverdict : Condition.NotRefused ((judge policy reply case).value a) :=
      Attempt.notRefused_complete policy _ _ (hs case.trigger) reply hr _
        (Attempt.notRefused_begin policy _ _ (hs case.trigger))
    let judged := (judge policy reply case).state a
    obtain ⟨hlater, hbook⟩ := ih a
      ((onDeferred (Handler.judged purpose ((judge policy reply case).value a))).state judged) hs
    exact ⟨List.forall_mem_cons.mpr ⟨.inl hverdict, hlater⟩, hbook⟩

end Advisor

namespace Occasion

variable (policy : Policy) (a : Advisor)

private theorem mirrors_judgements (o : Occasion)
    (h : ∀ j ∈ (o.judgements policy).value a, j.Harmless) :
    Act.Mirrors (List.map Judgement.mend) Advisor.mend (o.judgements policy) (o.judgements policy)
      a :=
  .bind (Advisor.mirrors_onDeferred (.refl _ _))
    (Advisor.mirrors_play policy o.reply o.unrelated _ _ h)

/-- An occasion on which the same cases are handed over under mended rules has harmless judgements
only. -/
private theorem harmless_of_cases (o : Occasion)
    (h : Judgement.cases ((o.judgements policy).value a.mend) =
      Judgement.cases ((o.judgements policy).value a)) :
    ∀ j ∈ (o.judgements policy).value a, j.Harmless :=
  Advisor.harmless_of_cases policy o.reply o.unrelated _ _ h

private theorem mirrors_judgementsAll (occasions : List Occasion)
    (h : ∀ judgements ∈ (judgementsAll policy occasions).value a, ∀ j ∈ judgements, j.Harmless) :
    Act.Mirrors (List.map (List.map Judgement.mend)) Advisor.mend (judgementsAll policy occasions)
      (judgementsAll policy occasions) a := by
  induction occasions generalizing a with
  | nil => exact .pure _
  | cons o rest ih =>
    obtain ⟨hfirst, hlater⟩ := List.forall_mem_cons.mp h
    exact .bind (mirrors_judgements policy a o hfirst) (.bind (ih _ hlater) (.pure _))

/-- Occasions on which the same cases are handed over under mended rules have harmless judgements
only. -/
private theorem harmless_of_casesAll (occasions : List Occasion)
    (h : ((judgementsAll policy occasions).value a.mend).map Judgement.cases =
      ((judgementsAll policy occasions).value a).map Judgement.cases) :
    ∀ judgements ∈ (judgementsAll policy occasions).value a, ∀ j ∈ judgements, j.Harmless := by
  induction occasions generalizing a with
  | nil => exact fun judgements hj => absurd hj List.not_mem_nil
  | cons o rest ih =>
    simp only [judgementsAll, Act.value_bind, Act.value_pure, List.map_cons, List.cons.injEq] at h
    have hfirst := harmless_of_cases policy a o h.1
    rw [(mirrors_judgements policy a o hfirst).state] at h
    exact List.forall_mem_cons.mpr ⟨hfirst, ih _ h.2⟩

private theorem harmlessAll_of_isSound (occasions : List Occasion) (hs : a.IsSound) :
    ∀ judgements ∈ (judgementsAll policy occasions).value a, ∀ j ∈ judgements, j.Harmless := by
  induction occasions generalizing a with
  | nil => exact fun judgements hj => absurd hj List.not_mem_nil
  | cons o rest ih =>
    let opened := (Advisor.onDeferred (o.report.handle policy.tracking)).state a
    obtain ⟨hfirst, hbook⟩ := Advisor.harmless_of_isSound policy o.reply o.unrelated opened
      ((Advisor.onDeferred (o.report.handle policy.tracking)).value a) hs
    have hlater : ((o.judgements policy).state a).IsSound := fun t rule hrule =>
      hs t rule (hbook ▸ hrule)
    exact List.forall_mem_cons.mpr ⟨hfirst, ih _ hlater⟩

/-- Two runs of handlers, under the rules as they are and under mended rules, do the same: they hand
over the same cases on every occasion, do the same beside reports and leave the same ledger. -/
structure SameMended (setting : Setting) (occasions : List Occasion) (a : Advisor) : Prop where
  cases : ((judgementsAll setting.policy occasions).value a.mend).map Judgement.cases =
    ((judgementsAll setting.policy occasions).value a).map Judgement.cases
  deeds : (runAll setting occasions).deeds a.mend = (runAll setting occasions).deeds a
  ledger : ((runAll setting occasions).state a.mend).ledger =
    ((runAll setting occasions).state a).ledger

private theorem sameMended_of_harmless (setting : Setting) (occasions : List Occasion)
    (h : ∀ judgements ∈ (judgementsAll setting.policy occasions).value a,
      ∀ j ∈ judgements, j.Harmless) : SameMended setting occasions a := by
  have hm := mirrors_judgementsAll _ a occasions h
  have hrun : Act.Mirrors id Advisor.mend (runAll setting occasions) (runAll setting occasions)
      a := by
    rw [runAll_eq]
    exact .bind hm (.pure ())
  refine ⟨?_, hrun.deeds, ?_⟩
  · rw [hm.value, List.map_map]
    exact List.map_congr_left fun judgements _ => Judgement.cases_mend judgements
  · rw [hrun.state]
    rfl

/-- Under sound rules handlers do the same as under mended rules. -/
theorem sameMended_of_isSound (setting : Setting) (occasions : List Occasion) (hs : a.IsSound) :
    SameMended setting occasions a :=
  sameMended_of_harmless a setting occasions (harmlessAll_of_isSound _ a occasions hs)

/-- Handlers that run one after the other do the same under mended rules as under the rules as they
are, exactly if no judgement in which a condition is refused has another one after it. -/
theorem sameMended_iff (setting : Setting) (occasions : List Occasion) :
    SameMended setting occasions a ↔
      ∀ judgements ∈ (judgementsAll setting.policy occasions).value a,
        ∀ j ∈ judgements, j.Harmless := by
  constructor
  · intro h
    exact harmless_of_casesAll _ a occasions h.cases
  · intro h
    exact sameMended_of_harmless a setting occasions h

/-- Two requests of a tab are deferred. The rule for the first asks for more repetitions than can be
counted; the rule for the second has no condition. -/
def overlong : Advisor where
  book := {
    rules := {
      tab := []
      request := [
        ⟨some "broken", ["a.com"], .ofJson (.text "m"),
          .object [("type", .text "url"), ("pattern", .text "a\x7b99999999999\x7d")]⟩,
        ⟨some "good", ["b.com"], .ofJson (.text "n"), .null⟩] } }
  activator := {
    tracker := {
      deferred := { requests := [(.number 1, ["https://a.com/x", "https://b.com/y"])] } } }

/-- The tab comes to the foreground, in a browser whose ports do not fail. -/
def shown : Occasion where
  report := .activated (.number 1)
  reply := Browser.answer { tabs := [⟨.number 1, "https://c.com/", true⟩] }
  unrelated := by
    intro query error
    cases query with
    | tab id =>
      rw [Browser.answer]
      split <;> exact nofun
    | _ => exact nofun

/-- A pattern that asks for too many repetitions keeps a user from being told of the request after
it, of which mended rules tell. -/
theorem runAll_mend_overlong :
    ((runAll {} [shown]).state overlong).ledger.store.notified = [] ∧
      ((runAll {} [shown]).state overlong.mend).ledger.store.notified = [("b.com" : Text)] := by
  have hrun (a : Advisor) (h : ((shown.runFor {} 4).value a).waits = false) :
      (runAll {} [shown]).state a = (shown.runFor {} 4).state a :=
    congrArg (fun done => done.1.2) (run_eq_runFor {} 4 shown a h)
  rw [hrun overlong (by decide +kernel), hrun overlong.mend (by decide +kernel)]
  decide +kernel

end Occasion

end BreakageAdvisor
