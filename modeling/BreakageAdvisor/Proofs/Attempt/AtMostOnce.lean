import BreakageAdvisor.Proofs.Attempt.Claims

/-!
# At most one notification for a domain

Where the store works and the domains told of are never cleared, a crowd of attempts asks for at
most one notification for a domain, and for none that was told of before. When all attempts are
over, the domains told of are those from before and those for which a notification was asked for.
-/

namespace BreakageAdvisor

open Attempt

namespace Crowd

/-- The state of a crowd that began with some domains told of, none of which was cleared: what was
recorded is told of, and what is told of or waited for was so at the beginning or was asked for. -/
structure Uncleared (before : List Text) (c : Crowd) : Prop where
  owned : c.Owned
  current : c.Current
  once : c.OncePerClearing
  works : c.ledger.store.Works
  clearings : c.clearings = 0
  stored : ∀ d ∈ c.recorded, d ∈ c.ledger.store.notified
  old : ∀ d ∈ before, d ∈ c.ledger.store.notified
  fresh : ∀ n ∈ c.notices, n.1 ∉ before
  account : (c.ledger.store.notified ++ c.shown).Perm (before ++ c.notices.map (·.1))

private theorem uncleared_start (ledger : Ledger) (hw : ledger.store.Works) :
    Uncleared ledger.store.notified { ledger } where
  owned := ⟨List.nodup_nil, by simp [claims, phases]⟩
  current := ⟨by simp, by simp⟩
  once := List.Pairwise.nil
  works := hw
  clearings := rfl
  stored := by simp [recorded, phases]
  old := fun _ hd => hd
  fresh := by simp
  account := .refl _

section Steps

variable {before : List Text} {c c' : Crowd}

private theorem Uncleared.not_claimed_of_left {late : Option Text} (hu : Uncleared before c)
    (h : Change c late c') (d : Text) (hl : late = some d) : d ∉ c.claims := by
  cases h with
  | cleared => cases hl
  | moved others p q hm hp _ _ _ =>
    have hr : d ∈ c.recorded := by
      rw [(perm_recorded hp).mem_iff]
      cases p with
      | settling e =>
        cases q with
        | idle => cases hl; exact List.mem_append_left _ List.mem_cons_self
        | checking _ => cases hl
        | showing _ => cases hl
        | settling _ => cases hl
      | idle => cases hl
      | checking _ => cases hl
      | showing _ => cases hl
    intro hc
    exact (hu.owned.holds d hc).2 hu.works (hu.stored d hr)

private theorem notified_mono {p q : Phase} {d : Text} (hw : c.ledger.store.Works)
    (hm : Move c.ledger c'.ledger p q) (hd : d ∈ c.ledger.store.notified) :
    d ∈ c'.ledger.store.notified := by
  rcases notified_of_move hw hm with ⟨hn, _⟩ | ⟨e, _, _, hn⟩
  · rw [hn]
    exact hd
  · rw [hn, Store.mem_adjoin]
    exact .inl hd

private theorem stored_of_move {p q : Phase} {d : Text} (hw : c.ledger.store.Works)
    (hm : Move c.ledger c'.ledger p q)
    (hp : ∀ e, p.recorded? = some e → e ∈ c.ledger.store.notified) (hq : q.recorded? = some d) :
    d ∈ c'.ledger.store.notified := by
  cases hm with
  | stay _ _ h =>
    rw [h.notified]
    exact hp d hq
  | claim e _ hc _ _ _ _ =>
    cases q with
    | settling g => cases hc
    | idle => cases hq
    | checking g => cases hq
    | showing g => cases hq
  | present _ _ => cases hq
  | drop _ _ => cases hq
  | leave _ _ => cases hq
  | record e _ he _ _ hs =>
    rw [hs hw, Store.mem_adjoin]
    rcases he with rfl | rfl
    · cases hq
    · cases hq
      exact .inr rfl

private theorem account_of_move {p q : Phase} {others : List Phase} (hu : Uncleared before c)
    (hm : Move c.ledger c'.ledger p q) (hp : c.phases.Perm (p.toList ++ others))
    (hq : c'.phases.Perm (q.toList ++ others))
    (hn : c'.notices = c.notices ++ (q.shown?.map (·, c.clearings)).toList) :
    (c'.ledger.store.notified ++ c'.shown).Perm (before ++ c'.notices.map (·.1)) := by
  have hs := perm_shown hp
  have hs' := perm_shown hq
  have ha := hu.account
  rcases notified_of_move hu.works hm with ⟨hnot, hnone⟩ | ⟨d, hd, hnone, hnot⟩
  · -- Nothing is recorded: what is asked for now is waited for.
    rw [hnone] at hs
    have he : c'.notices.map (·.1) = c.notices.map (·.1) ++ q.shown?.toList := by
      rw [hn, List.map_append]
      cases q.shown? <;> rfl
    rw [hnot, he]
    calc
      (c.ledger.store.notified ++ c'.shown).Perm
          (c.ledger.store.notified ++ (c.shown ++ q.shown?.toList)) :=
        ((hs'.trans (hs.symm.append_left _)).trans List.perm_append_comm).append_left _
      (c.ledger.store.notified ++ (c.shown ++ q.shown?.toList)).Perm
          ((before ++ c.notices.map (·.1)) ++ q.shown?.toList) := by
        rw [← List.append_assoc]
        exact ha.append_right _
      ((before ++ c.notices.map (·.1)) ++ q.shown?.toList).Perm
          (before ++ (c.notices.map (·.1) ++ q.shown?.toList)) := by
        rw [List.append_assoc]
  · -- A notification that was waited for is recorded, and nothing is asked for.
    rw [hd] at hs
    rw [hnone] at hs' hn
    have hclaim : d ∈ c.claims := by
      rw [(perm_claims hp).mem_iff]
      cases p with
      | showing e => cases hd; exact List.mem_append_left _ List.mem_cons_self
      | idle => cases hd
      | checking _ => cases hd
      | settling _ => cases hd
    have hfresh := (hu.owned.holds d hclaim).2 hu.works
    rw [hnot, Store.adjoin_of_not_mem hfresh, hn, List.append_assoc]
    have hsame : ([d] ++ c'.shown).Perm c.shown := (hs'.append_left [d]).trans hs.symm
    simpa using (hsame.append_left c.ledger.store.notified).trans ha

private theorem uncleared_of_change {late : Option Text} (hu : Uncleared before c)
    (h : Change c late c')
    (hc : c'.clearings = c.clearings) : Uncleared before c' := by
  have hx' := owned_of_change h hu.owned (hu.not_claimed_of_left h)
  have hcur := current_of_change h hu.current hu.works
  have honce := oncePerClearing_of_change h hu.owned hu.current hu.once hu.works
  have hw := h.works hu.works
  cases h with
  | cleared => simp at hc
  | moved others p q hm hp hq _ hn =>
    have hr := perm_recorded hp
    refine ⟨hx', hcur, honce, hw, hc.trans hu.clearings, ?_, ?_, ?_, account_of_move hu hm hp hq hn⟩
    · intro d hd
      rcases List.mem_append.mp ((perm_recorded hq).mem_iff.mp hd) with hd | hd
      · refine stored_of_move hu.works hm (fun e he => ?_) (Option.mem_toList.mp hd)
        exact hu.stored e (hr.mem_iff.mpr (List.mem_append_left _ (Option.mem_toList.mpr he)))
      · exact notified_mono hu.works hm (hu.stored d (hr.mem_iff.mpr (List.mem_append_right _ hd)))
    · intro d hd
      exact notified_mono hu.works hm (hu.old d hd)
    · intro n hn'
      rw [hn] at hn'
      rcases List.mem_append.mp hn' with hn' | hn'
      · exact hu.fresh n hn'
      · obtain ⟨d, hs, rfl⟩ := Option.map_eq_some_iff.mp (Option.mem_toList.mp hn')
        intro hd
        exact (fresh_of_move hu.owned hu.works hm hp hs).1 (hu.old d hd)

end Steps

private theorem clearings_step (policy : Policy) (c : Crowd) (e : Event) (h : e ≠ .cleared) :
    (c.step policy e).clearings = c.clearings := by
  cases e with
  | began attempt => rfl
  | replied place reply => simp only [step]; split <;> rfl
  | abandoned place => simp only [step]; split <;> rfl
  | cleared => exact absurd rfl h

/-- Every run that clears nothing goes on accounting for the domains told of. -/
theorem Uncleared.run {before : List Text} {c : Crowd} (policy : Policy)
    (hu : Uncleared before c) {events : List Event} (hc : .cleared ∉ events) :
    Uncleared before (run policy c events) := by
  induction events generalizing c with
  | nil => exact hu
  | cons e rest ih =>
    rw [List.mem_cons, not_or] at hc
    have hn : (c.step policy e).clearings = c.clearings := clearings_step policy c e (Ne.symm hc.1)
    exact ih (uncleared_of_change hu (change_step policy c e) hn) hc.2

/-- Whatever the order of events and whatever the replies, at most one notification is asked for
each domain, none for a domain told of before, and when all attempts are over, the domains told of
are those from before and those for which a notification was asked for. -/
theorem notified_at_most_once (policy : Policy) (ledger : Ledger) (events : List Event)
    (hw : ledger.store.Works) (hc : .cleared ∉ events) :
    ((run policy { ledger } events).notices.map (·.1)).Nodup ∧
      (∀ n ∈ (run policy { ledger } events).notices, n.1 ∉ ledger.store.notified) ∧
      ((run policy { ledger } events).members = [] →
        (run policy { ledger } events).ledger.store.notified.Perm
          (ledger.store.notified ++ (run policy { ledger } events).notices.map (·.1))) := by
  have hu := (uncleared_start ledger hw).run policy hc
  refine ⟨?_, hu.fresh, ?_⟩
  · have hz : ∀ n ∈ (run policy { ledger } events).notices, n.2 = 0 := by
      intro n hn
      have hle := hu.current.past n hn
      rw [hu.clearings] at hle
      omega
    apply List.pairwise_map.mpr
    apply List.Pairwise.imp_of_mem _ hu.once
    intro m n hm hn hne
    exact hne ((hz m hm).trans (hz n hn).symm)
  · intro hm
    have hs : (run policy { ledger } events).shown = [] := by simp [shown, phases, hm]
    have ha := hu.account
    rw [hs, List.append_nil] at ha
    exact ha

/-- A ledger with one domain told of. -/
def told : Ledger := { store := { notified := ["b.com"] } }

/-- Two attempts on one domain and one on a domain told of before. Both know their domain before
either has claimed it. -/
def race : List Event :=
  [.began (visit "a.com"), .began (visit "a.com"), .began (visit "b.com"),
    .replied 1 (clicking "a.com"), .replied 0 (clicking "a.com"), .replied 1 (clicking "b.com"),
    .replied 0 (clicking "a.com"), .replied 0 (clicking "a.com"), .replied 0 (clicking "a.com")]

/-- In the race one notification is asked for, and when all attempts are over, its domain and the
one from before are told of. -/
theorem notified_at_most_once_race :
    told.store.Works ∧ Event.cleared ∉ race ∧
      (run { notifications := .actionable } { ledger := told } race).notices.map (·.1) =
        (["a.com"] : List Text) ∧
      (run { notifications := .actionable } { ledger := told } race).ledger.store.notified.Perm
        ["b.com", "a.com"] := by
  have hw : told.store.Works := fun _ _ => rfl
  have hc : Event.cleared ∉ race := by simp [race]
  have h := notified_at_most_once { notifications := .actionable } told race hw hc
  exact ⟨hw, hc, by decide, h.2.2 (List.isEmpty_iff.mp (by decide))⟩

end Crowd

end BreakageAdvisor
