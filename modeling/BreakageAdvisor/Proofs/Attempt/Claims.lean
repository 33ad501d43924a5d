import BreakageAdvisor.Proofs.Attempt.Crowd

/-!
# Claims in a crowd

An attempt owns the claim on its domain from the reservation to its record or release: the domain
is in flight, and no other attempt has claimed it. Only one thing can take a claim from its owner:
an attempt that releases, at its end, a domain which it had recorded long before and which another
attempt has claimed since. As long as that does not happen, a domain is told of at most once
between two clearings.
-/

namespace BreakageAdvisor

open Attempt

namespace Crowd

/-- Every claim is in flight, and no two attempts claim one domain. -/
structure Exclusive (c : Crowd) : Prop where
  nodup : c.claims.Nodup
  inFlight : ∀ d ∈ c.claims, d ∈ c.ledger.inFlight

/-- No two notifications for one domain were asked for between two clearings. -/
def OncePerClearing (c : Crowd) : Prop :=
  c.notices.Pairwise fun m n => m.2 = n.2 → m.1 ≠ n.1

/-- Every claim is one attempt's and is held in the ledger. -/
structure Owned (c : Crowd) : Prop where
  nodup : c.claims.Nodup
  holds : ∀ d ∈ c.claims, c.ledger.Holds d

/-- Claims that are owned are exclusive. -/
theorem Owned.exclusive {c : Crowd} (h : c.Owned) : c.Exclusive :=
  ⟨h.nodup, fun d hd => (h.holds d hd).1⟩

/-- Every notification that was asked for since the last clearing is recorded or waited for. -/
structure Current (c : Crowd) : Prop where
  kept : ∀ n ∈ c.notices, n.2 = c.clearings → n.1 ∈ c.ledger.store.notified ∨ n.1 ∈ c.shown
  past : ∀ n ∈ c.notices, n.2 ≤ c.clearings

section Views

variable {c : Crowd} {p : Phase} {others : List Phase}

private theorem perm_filterMap {f : Phase → Option Text} (hf : f .idle = none)
    (h : c.phases.Perm (p.toList ++ others)) :
    (c.phases.filterMap f).Perm ((f p).toList ++ others.filterMap f) := by
  have hp : p.toList.filterMap f = (f p).toList := by
    cases p with
    | idle => rw [hf]; rfl
    | checking d => simp [Phase.toList, List.filterMap_cons]; cases f (.checking d) <;> rfl
    | showing d => simp [Phase.toList, List.filterMap_cons]; cases f (.showing d) <;> rfl
    | settling d => simp [Phase.toList, List.filterMap_cons]; cases f (.settling d) <;> rfl
  rw [← hp, ← List.filterMap_append]
  exact h.filterMap f

/-- The claims of a crowd are that of one attempt and those of the others. -/
theorem perm_claims (h : c.phases.Perm (p.toList ++ others)) :
    c.claims.Perm (p.claimed?.toList ++ others.filterMap (·.claimed?)) :=
  perm_filterMap rfl h

/-- The notifications waited for are that of one attempt and those of the others. -/
theorem perm_shown (h : c.phases.Perm (p.toList ++ others)) :
    c.shown.Perm (p.shown?.toList ++ others.filterMap (·.shown?)) :=
  perm_filterMap rfl h

/-- The domains recorded are that of one attempt and those of the others. -/
theorem perm_recorded (h : c.phases.Perm (p.toList ++ others)) :
    c.recorded.Perm (p.recorded?.toList ++ others.filterMap (·.recorded?)) :=
  perm_filterMap rfl h

private theorem claimed_of_shown {d : Text} (h : d ∈ others.filterMap (·.shown?)) :
    d ∈ others.filterMap (·.claimed?) := by
  obtain ⟨q, hq, hd⟩ := List.mem_filterMap.mp h
  refine List.mem_filterMap.mpr ⟨q, hq, ?_⟩
  cases q with
  | showing e => exact hd
  | idle => cases hd
  | checking e => cases hd
  | settling e => cases hd

end Views

section Steps

variable {c c' : Crowd} {late : Option Text}

/-- No event changes which calls to the store fail. -/
theorem Change.fails (h : Change c late c') : c'.ledger.store.fails = c.ledger.store.fails := by
  cases h with
  | cleared => exact Ledger.fails_clear c.ledger
  | moved _ _ _ hm _ _ _ _ => exact hm.fails

/-- A store that works goes on working. -/
theorem Change.works (h : Change c late c') (hw : c.ledger.store.Works) :
    c'.ledger.store.Works := hw.of_fails h.fails

/-- Every claim keeps its owner in an event that releases no claimed domain late. -/
theorem owned_of_change (h : Change c late c') (hx : c.Owned)
    (hl : ∀ d, late = some d → d ∉ c.claims) : c'.Owned := by
  cases h with
  | cleared =>
    refine ⟨hx.nodup, ?_⟩
    intro d hd
    refine ⟨?_, ?_⟩
    · rw [Ledger.inFlight_clear]
      exact (hx.holds d hd).1
    · intro hw
      rw [Ledger.notified_clear (hw.of_fails (Ledger.fails_clear c.ledger).symm)]
      exact List.not_mem_nil
  | moved others p q hm hp hq _ _ =>
    have hc := perm_claims hp
    have hn := hc.nodup_iff.mp hx.nodup
    have hh : ∀ d ∈ p.claimed?.toList ++ others.filterMap (·.claimed?), c.ledger.Holds d :=
      fun d hd => hx.holds d (hc.mem_iff.mpr hd)
    -- The claims after the move are those of the others and that of the attempt which moved.
    have done : (q.claimed?.toList ++ others.filterMap (·.claimed?)).Nodup →
        (∀ d ∈ q.claimed?.toList ++ others.filterMap (·.claimed?), c'.ledger.Holds d) →
        c'.Owned :=
      fun hn hh => ⟨(perm_claims hq).nodup_iff.mpr hn,
        fun d hd => hh d ((perm_claims hq).mem_iff.mp hd)⟩
    cases hm with
    | stay _ _ h => exact done hn fun d hd => (hh d hd).of_agrees h
    | present d h => exact done hn fun e he => (hh e he).of_agrees h
    | claim d _ hq _ hd hs h =>
      rw [hq] at done
      apply done
      · refine List.nodup_cons.mpr ⟨?_, hn⟩
        intro hm
        exact hd (hh d hm).1
      · intro e he
        apply Ledger.Holds.of_agrees h
        rcases List.mem_cons.mp he with rfl | he
        · exact ⟨Ledger.mem_claim.mpr (.inr rfl), hs⟩
        · exact (hh e he).claim
    | drop d h =>
      have hd := List.nodup_cons.mp hn
      apply done hd.2
      intro e he
      have hne : e ≠ d := fun hed => hd.1 (hed ▸ he)
      exact ((hh e (List.mem_cons_of_mem d he)).unclaim hne).of_agrees h
    | record d _ hq hi hf hs =>
      have hd := List.nodup_cons.mp hn
      have hnone : q.claimed? = none := by rcases hq with rfl | rfl <;> rfl
      rw [hnone] at done
      apply done hd.2
      intro e he
      have hne : e ≠ d := fun hed => hd.1 (hed ▸ he)
      have hold := hh e (List.mem_cons_of_mem d he)
      exact hold.of_record hne hi hf hs
    | leave d h =>
      apply done hn
      intro e he
      have hne : e ≠ d := by
        rintro rfl
        exact hl e rfl (hc.mem_iff.mpr he)
      exact ((hh e he).unclaim hne).of_agrees h

/-- A late release of a claimed domain takes the claim from its owner. -/
theorem not_exclusive_of_left {d : Text} (h : Change c (some d) c') (hd : d ∈ c.claims) :
    ¬ c'.Exclusive := by
  generalize hl : some d = late at h
  cases h with
  | cleared => cases hl
  | moved others p q hm hp hq _ _ =>
    cases hm with
    | stay p hp => cases p <;> cases hl
    | claim _ _ _ _ _ _ _ => cases hl
    | present _ _ => cases hl
    | drop _ _ => cases hl
    | record _ _ _ _ _ _ => cases hl
    | leave e h =>
      cases hl
      intro hx
      have hd' : d ∈ c'.claims := (perm_claims hq).mem_iff.mpr ((perm_claims hp).mem_iff.mp hd)
      have hf := hx.inFlight d hd'
      rw [h.inFlight, Ledger.mem_unclaim] at hf
      exact hf.2 rfl

/-- A notification is asked for only where its domain was not told of and no other attempt waits
for a notification of it. -/
theorem fresh_of_move {p q : Phase} {others : List Phase} {d : Text} (hx : c.Owned)
    (hw : c.ledger.store.Works) (hm : Move c.ledger c'.ledger p q)
    (hp : c.phases.Perm (p.toList ++ others)) (hd : q.shown? = some d) :
    d ∉ c.ledger.store.notified ∧ d ∉ c.shown := by
  have hc := perm_claims hp
  have hs := perm_shown hp
  cases hm with
  | stay _ hn _ =>
    rw [hn] at hd
    cases hd
  | claim e _ hq _ hf hs' _ =>
    have hed : e = d := by
      cases q with
      | showing g => cases hd; cases hq; rfl
      | idle => cases hd
      | checking g => cases hd
      | settling g => cases hd
    subst e
    refine ⟨hs' hw, ?_⟩
    intro hm
    exact hf (hx.holds d (hc.mem_iff.mpr (claimed_of_shown (hs.mem_iff.mp hm)))).1
  | present e _ =>
    cases hd
    refine ⟨(hx.holds d (hc.mem_iff.mpr List.mem_cons_self)).2 hw, ?_⟩
    intro hm
    have hn := List.nodup_cons.mp (hc.nodup_iff.mp hx.nodup)
    exact hn.1 (claimed_of_shown (hs.mem_iff.mp hm))
  | drop _ _ => cases hd
  | record e _ hq _ _ _ => rcases hq with rfl | rfl <;> cases hd
  | leave _ _ => cases hd

/-- A move adds to the domains told of in a working store the domain whose notification it
records, which is no longer waited for, and no other. -/
theorem notified_of_move {p q : Phase} (hw : c.ledger.store.Works)
    (hm : Move c.ledger c'.ledger p q) :
    c'.ledger.store.notified = c.ledger.store.notified ∧ p.shown? = none ∨
      ∃ d, p.shown? = some d ∧ q.shown? = none ∧
        c'.ledger.store.notified = Store.adjoin c.ledger.store.notified d := by
  cases hm with
  | stay _ hp h => exact .inl ⟨h.notified, hp⟩
  | claim _ _ _ _ _ _ h => exact .inl ⟨h.notified, rfl⟩
  | present _ h => exact .inl ⟨h.notified, rfl⟩
  | drop _ h => exact .inl ⟨h.notified, rfl⟩
  | leave _ h => exact .inl ⟨h.notified, rfl⟩
  | record d _ hq _ _ hs =>
    refine .inr ⟨d, rfl, ?_, hs hw⟩
    rcases hq with rfl | rfl <;> rfl

private theorem kept_of_move {p q : Phase} {others : List Phase} {d : Text}
    (hw : c.ledger.store.Works)
    (hm : Move c.ledger c'.ledger p q) (hp : c.phases.Perm (p.toList ++ others))
    (hq : c'.phases.Perm (q.toList ++ others))
    (hd : d ∈ c.ledger.store.notified ∨ d ∈ c.shown) :
    d ∈ c'.ledger.store.notified ∨ d ∈ c'.shown := by
  rw [(perm_shown hp).mem_iff] at hd
  rw [(perm_shown hq).mem_iff]
  rcases notified_of_move hw hm with ⟨hn, hnone⟩ | ⟨e, he, _, hn⟩
  · rw [hnone] at hd
    rw [hn]
    rcases hd with hd | hd
    · exact .inl hd
    · exact .inr (List.mem_append_right _ hd)
  · rw [he] at hd
    rw [hn, Store.mem_adjoin]
    rcases hd with hd | hd
    · exact .inl (.inl hd)
    · rcases List.mem_cons.mp hd with rfl | hd
      · exact .inl (.inr rfl)
      · exact .inr (List.mem_append_right _ hd)

/-- Every notification asked for stays waited for until it is recorded, and stays recorded until
the next clearing. -/
theorem current_of_change (h : Change c late c') (hu : c.Current) (hw : c.ledger.store.Works) :
    c'.Current := by
  cases h with
  | cleared =>
    refine ⟨?_, ?_⟩
    · intro n hn hc
      have hle := hu.past n hn
      dsimp only at hc
      omega
    · intro n hn
      exact Nat.le_succ_of_le (hu.past n hn)
  | moved others p q hm hp hq hc hn =>
    have split : ∀ n ∈ c'.notices, n ∈ c.notices ∨ q.shown? = some n.1 ∧ n.2 = c.clearings := by
      intro n hn'
      rw [hn] at hn'
      rcases List.mem_append.mp hn' with hn' | hn'
      · exact .inl hn'
      · obtain ⟨d, hd, rfl⟩ := Option.map_eq_some_iff.mp (Option.mem_toList.mp hn')
        exact .inr ⟨hd, rfl⟩
    refine ⟨?_, ?_⟩
    · intro n hn' hnc
      rcases split n hn' with hn' | ⟨hd, _⟩
      · exact kept_of_move hw hm hp hq (hu.kept n hn' (hnc.trans hc))
      · right
        rw [(perm_shown hq).mem_iff, hd]
        exact List.mem_append_left _ List.mem_cons_self
    · intro n hn'
      rw [hc]
      rcases split n hn' with hn' | ⟨_, he⟩
      · exact hu.past n hn'
      · exact Nat.le_of_eq he

/-- While claims are owned, an event asks for no second notification since the last clearing. -/
theorem oncePerClearing_of_change (h : Change c late c') (hx : c.Owned) (hu : c.Current)
    (ho : c.OncePerClearing) (hw : c.ledger.store.Works) : c'.OncePerClearing := by
  cases h with
  | cleared => exact ho
  | moved others p q hm hp hq hc hn =>
    unfold OncePerClearing
    rw [hn]
    refine List.pairwise_append.mpr ⟨ho, ?_, ?_⟩
    · cases q.shown? <;> simp
    · intro m hm' n hn' hmn hd
      obtain ⟨d, hs, rfl⟩ := Option.map_eq_some_iff.mp (Option.mem_toList.mp hn')
      obtain ⟨hnot, hshown⟩ := fresh_of_move hx hw hm hp hs
      dsimp only at hd
      rw [← hd] at hnot hshown
      rcases hu.kept m hm' hmn with hk | hk
      · exact hnot hk
      · exact hshown hk

end Steps

end Crowd

end BreakageAdvisor
