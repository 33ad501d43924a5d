import Mathlib.Data.List.Induction

/-!
# What holds throughout a run

A run is a list of events. What is said of an event may depend on the events before it.
-/

namespace BreakageAdvisor

/-- Every event of a run is as it ought to be after those before it. -/
def Throughout {ε : Type} (P : List ε → ε → Prop) (events : List ε) : Prop :=
  ∀ past e rest, events = past ++ e :: rest → P past e

namespace Throughout

variable {ε : Type} {P : List ε → ε → Prop}

theorem nil : Throughout P [] := by
  intro past e rest h
  cases past <;> cases h

theorem singleton_iff {e : ε} : Throughout P [e] ↔ P [] e := by
  refine ⟨fun h => h [] e [] rfl, ?_⟩
  intro h past f rest hf
  obtain ⟨rfl, hrest⟩ | ⟨_, rfl, hnil⟩ := List.append_eq_cons_iff.mp hf.symm
  · cases hrest
    exact h
  · cases (List.append_eq_nil_iff.mp hnil.symm).2

/-- What holds throughout a run holds throughout its beginning, and throughout what comes after
that. -/
theorem append_iff {front back : List ε} :
    Throughout P (front ++ back) ↔
      Throughout P front ∧ Throughout (fun past => P (front ++ past)) back := by
  constructor
  · intro h
    constructor
    · rintro past e rest rfl
      exact h past e (rest ++ back) (by rw [List.append_assoc, List.cons_append])
    · rintro past e rest rfl
      exact h (front ++ past) e rest (by rw [List.append_assoc])
  · rintro ⟨hfront, hback⟩ past e rest h
    -- The event is in the beginning, or in what comes after it.
    obtain ⟨more, hf, hm⟩ | ⟨more, rfl, hb⟩ := List.append_eq_append_iff.mp h
    · rw [hf]
      exact hback more e rest hm
    · cases more with
      | nil =>
        have hp := hback [] e rest hb.symm
        rwa [List.append_nil, List.append_nil] at hp
      | cons f more =>
        cases hb
        exact hfront past e more rfl

/-- What holds throughout a run and of one more event holds throughout the longer run. -/
theorem concat_iff {past : List ε} {e : ε} :
    Throughout P (past ++ [e]) ↔ Throughout P past ∧ P past e := by
  rw [append_iff, singleton_iff, List.append_nil]

/-- What holds throughout a run holds of its first event and throughout what comes after it. -/
theorem cons_iff {e : ε} {rest : List ε} :
    Throughout P (e :: rest) ↔ P [] e ∧ Throughout (fun past => P (e :: past)) rest := by
  rw [← List.singleton_append, append_iff, singleton_iff]
  rfl

/-- If not all events of a run are as they ought to be, one of them is the last that is not. -/
theorem exists_last {events : List ε} (h : ¬Throughout P events) :
    ∃ past e rest, events = past ++ e :: rest ∧ ¬P past e ∧
      Throughout (fun later => P (past ++ e :: later)) rest := by
  induction events using List.reverseRecOn with
  | nil => exact absurd nil h
  | append_singleton front e ih =>
    by_cases he : P front e
    · obtain ⟨past, e', rest, rfl, hne, hrest⟩ := ih fun hfront => h (concat_iff.mpr ⟨hfront, he⟩)
      refine ⟨past, e', rest ++ [e], by simp, hne, concat_iff.mpr ⟨hrest, he⟩⟩
    · exact ⟨front, e, [], rfl, he, nil⟩

end Throughout

end BreakageAdvisor
