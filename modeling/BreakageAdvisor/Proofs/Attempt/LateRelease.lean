import BreakageAdvisor.Proofs.Attempt.Claims

/-!
# Late releases

An attempt that carries out the answer to its notification has recorded its domain before, and
releases it once more at its end. If the domains told of were cleared meanwhile, another attempt
may have claimed the domain by then, and loses its claim. A run keeps all claims with their owners
exactly if no such late release happens in it.
-/

namespace BreakageAdvisor

open Attempt

namespace Crowd

/-- An event ends an attempt that has recorded its domain while another attempt claims it. -/
def ReleasesLate (policy : Policy) (c : Crowd) (e : Event) : Prop :=
  ∃ d, c.left? policy e = some d ∧ d ∈ c.claims

/-- No event of a run is a late release. -/
def Punctual (policy : Policy) (c : Crowd) (events : List Event) : Prop :=
  ∀ past e rest, events = past ++ e :: rest → ¬ (run policy c past).ReleasesLate policy e

/-- Claims are exclusive throughout a run. -/
def ExclusiveThroughout (policy : Policy) (c : Crowd) (events : List Event) : Prop :=
  ∀ past rest, events = past ++ rest → (run policy c past).Exclusive

private theorem Punctual.of_append {policy : Policy} {c : Crowd} {past rest : List Event}
    (h : Punctual policy c (past ++ rest)) : Punctual policy c past := by
  intro before e after he
  apply h before e (after ++ rest)
  rw [he, List.append_assoc, List.cons_append]

private theorem Punctual.of_cons {policy : Policy} {c : Crowd} {e : Event} {rest : List Event}
    (h : Punctual policy c (e :: rest)) :
    ¬ c.ReleasesLate policy e ∧ Punctual policy (c.step policy e) rest := by
  constructor
  · exact h [] e rest rfl
  · intro past f more he
    apply h (e :: past) f more
    rw [he, List.cons_append]

private theorem owned_start (ledger : Ledger) : ({ ledger } : Crowd).Owned :=
  ⟨List.nodup_nil, by simp [claims, phases]⟩

private theorem current_start (ledger : Ledger) : ({ ledger } : Crowd).Current := ⟨by simp, by simp⟩

/-- Claims stay owned in an event that is no late release. -/
theorem Owned.step {policy : Policy} {c : Crowd} {e : Event} (ho : c.Owned)
    (h : ¬ c.ReleasesLate policy e) : (c.step policy e).Owned := by
  apply owned_of_change (change_step policy c e) ho
  intro d hl hd
  exact h ⟨d, hl, hd⟩

/-- Claims stay owned in every punctual run. -/
theorem Owned.run {policy : Policy} {c : Crowd} {events : List Event} (ho : c.Owned)
    (h : Punctual policy c events) : (c.run policy events).Owned := by
  induction events generalizing c with
  | nil => exact ho
  | cons e rest ih =>
    obtain ⟨hlate, hrest⟩ := h.of_cons
    exact ih (ho.step hlate) hrest

/-- A punctual run with a working store goes on asking for at most one notification for a domain
between two clearings. -/
theorem OncePerClearing.run {policy : Policy} {c : Crowd} {events : List Event}
    (hone : c.OncePerClearing) (ho : c.Owned) (hcur : c.Current) (hw : c.ledger.store.Works)
    (h : Punctual policy c events) : (c.run policy events).OncePerClearing := by
  induction events generalizing c with
  | nil => exact hone
  | cons e rest ih =>
    obtain ⟨hlate, hrest⟩ := h.of_cons
    have hs := change_step policy c e
    have hone' := oncePerClearing_of_change hs ho hcur hone hw
    exact ih hone' (ho.step hlate) (current_of_change hs hcur hw) (hs.works hw) hrest

/-- Claims are exclusive throughout a run exactly if no event of it is a late release, whatever the
order of events, the replies and the failures of the store. In such a run, a working store lets at
most one notification for a domain be asked for between two clearings. -/
theorem exclusive_iff_punctual (policy : Policy) (ledger : Ledger) (events : List Event) :
    (ExclusiveThroughout policy { ledger } events ↔ Punctual policy { ledger } events) ∧
      (ledger.store.Works → Punctual policy { ledger } events →
        (run policy { ledger } events).OncePerClearing) := by
  refine ⟨⟨?_, ?_⟩, fun hw h => ?_⟩
  · rintro hx past e rest he ⟨d, hl, hd⟩
    have hc := change_step policy (run policy { ledger } past) e
    rw [hl] at hc
    apply not_exclusive_of_left hc hd
    rw [← run_concat]
    apply hx (past ++ [e]) rest
    rw [he, List.append_assoc, List.singleton_append]
  · intro h past rest he
    rw [he] at h
    exact ((owned_start ledger).run h.of_append).exclusive
  · exact OncePerClearing.run List.Pairwise.nil (owned_start ledger) (current_start ledger) hw h

/-- A run with a late release: an attempt has recorded its domain and waits for an exemption, the
domains told of are cleared, a second attempt claims the domain, and the first one ends. Then a
third attempt begins. -/
def lateRun : List Event :=
  [.began (visit "a.com"), .replied 0 (clicking "a.com"), .replied 0 (clicking "a.com"), .cleared,
    .began (visit "a.com"), .replied 1 (clicking "a.com"), .replied 0 (clicking "a.com"),
    .replied 0 (clicking "a.com"), .began (visit "a.com"), .replied 1 (clicking "a.com")]

/-- After the late release two attempts claim one domain, and two notifications for it were asked
for after the clearing, by attempts that both began after it. -/
theorem lateRun_claims_twice :
    (run { notifications := .actionable } {} lateRun).claims = (["a.com", "a.com"] : List Text) ∧
      (run { notifications := .actionable } {} lateRun).notices =
        ([("a.com", 0), ("a.com", 1), ("a.com", 1)] : List (Text × Nat)) ∧
      ¬ (run { notifications := .actionable } {} lateRun).Exclusive ∧
      ¬ (run { notifications := .actionable } {} lateRun).OncePerClearing := by
  have hc : (run { notifications := .actionable } {} lateRun).claims =
      (["a.com", "a.com"] : List Text) := by
    decide
  have hn : (run { notifications := .actionable } {} lateRun).notices =
      ([("a.com", 0), ("a.com", 1), ("a.com", 1)] : List (Text × Nat)) := by
    decide
  refine ⟨hc, hn, ?_, ?_⟩
  · intro hx
    have hd := hx.nodup
    rw [hc] at hd
    simp at hd
  · intro ho
    rw [OncePerClearing, hn] at ho
    simp at ho

end Crowd

end BreakageAdvisor
