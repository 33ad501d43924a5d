import BreakageAdvisor.Text.LetterCase
import Mathlib.Data.List.Basic
import Mathlib.Tactic.SplitIfs

/-!
# Lower-cased texts

Lower-casing leaves no ASCII capital, and it leaves ASCII texts without capitals as they are. Of all
runs of capitals only the first holds ASCII letters, and no run ends in ASCII capitals.
-/

namespace BreakageAdvisor

/-- Whether a code point is an ASCII capital. -/
def CodePoint.IsAsciiCapital (c : CodePoint) : Prop := 65 ≤ c.val ∧ c.val ≤ 90

instance (c : CodePoint) : Decidable c.IsAsciiCapital := inferInstanceAs (Decidable (_ ∧ _))

namespace CodePoint

private theorem ascii_or_beyond :
    ∀ r ∈ capitalRuns, r.last ≤ 90 ∧ 65 ≤ r.first ∨ 128 ≤ r.first := by
  decide +kernel

private theorem lt_small : ∀ r ∈ capitalRuns, 90 < (r.first : Int) + r.shift := by
  decide +kernel

private theorem exists_holds {n : Nat} (h : 65 ≤ n ∧ n ≤ 90) :
    ∃ r ∈ capitalRuns, r.holds n = true := by
  refine ⟨⟨0x41, 0x5A, 1, 32⟩, List.mem_cons_self, ?_⟩
  simp [CapitalRun.holds, h.1, h.2, Nat.mod_one]

private theorem not_isAsciiCapital_toSmall (c : CodePoint) : ¬c.toSmall.IsAsciiCapital := by
  unfold toSmall
  cases hr : capitalRuns.find? (·.holds c.val) with
  | none =>
    intro hc
    obtain ⟨r, hmem, hholds⟩ := exists_holds hc
    exact List.find?_eq_none.mp hr r hmem hholds
  | some r =>
    have hsmall := lt_small r (List.mem_of_find?_eq_some hr)
    have hholds := List.find?_some hr
    simp only [CapitalRun.holds, Bool.and_eq_true, decide_eq_true_eq] at hholds
    have hlt : 90 < ((c.val : Int) + r.shift).toNat := by omega
    intro hc
    simp only [ofNat, IsAsciiCapital] at hc
    split at hc
    · exact Nat.not_le.mpr hlt hc.2
    · exact absurd hc.1 (by decide)

private theorem toSmall_of_ascii {c : CodePoint} (ha : c.val < 128) (hc : ¬c.IsAsciiCapital) :
    c.toSmall = c := by
  have hnone : capitalRuns.find? (·.holds c.val) = none := by
    rw [List.find?_eq_none]
    intro r hr hholds
    simp only [CapitalRun.holds, Bool.and_eq_true, decide_eq_true_eq] at hholds
    have hrun := ascii_or_beyond r hr
    unfold IsAsciiCapital at hc
    omega
  rw [toSmall, hnone]

end CodePoint

namespace Text

/-- Lower-casing leaves no ASCII capital, whatever stands before. -/
theorem not_isAsciiCapital_of_mem_lowerAfter {before t : Text} {c : CodePoint}
    (h : c ∈ lowerAfter before t) : ¬c.IsAsciiCapital := by
  induction t generalizing before with
  | nil => cases h
  | cons d rest ih =>
    rw [lowerAfter, List.mem_append] at h
    rcases h with h | h
    · split_ifs at h
      · rcases List.mem_pair.mp h with rfl | rfl <;> decide
      · obtain rfl := List.mem_singleton.mp h
        decide
      · obtain rfl := List.mem_singleton.mp h
        decide
      · obtain rfl := List.mem_singleton.mp h
        exact d.not_isAsciiCapital_toSmall
    · exact ih h

/-- An ASCII text without capitals is in lower case, whatever stands before. -/
theorem lowerAfter_of_ascii {before t : Text}
    (h : ∀ c ∈ t, c.val < 128 ∧ ¬c.IsAsciiCapital) : lowerAfter before t = t := by
  induction t generalizing before with
  | nil => rfl
  | cons c rest ih =>
    obtain ⟨⟨ha, hc⟩, hrest⟩ := List.forall_mem_cons.mp h
    have hdotted : (c.val == 0x130) = false := beq_false_of_ne (by omega)
    have hsigma : (c.val == 0x3A3) = false := beq_false_of_ne (by omega)
    rw [lowerAfter, hdotted, hsigma, ih hrest, CodePoint.toSmall_of_ascii ha hc]
    rfl

end Text

end BreakageAdvisor
