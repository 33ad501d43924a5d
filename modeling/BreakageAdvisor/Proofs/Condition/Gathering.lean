import BreakageAdvisor.Condition.Evaluation

/-!
# Gathered jars

What gathering leaves under the keys of the domains that a condition may look at. Every domain gets
one jar, however often it is named: that of the lookup, or an empty one if cookies cannot be asked
for or the lookup fails.
-/

namespace BreakageAdvisor

namespace Gathering

variable (g : Gathering)

/-- What is gathered under a key is found there. -/
@[simp]
theorem get?_set_self (key : Text) (value : Gathered) :
    (g.set key value).get? key = some value := by
  simp [set, get?]

/-- What is gathered under a key changes nothing under another. -/
theorem get?_set_of_ne {key other : Text} (h : other ≠ key) (value : Gathered) :
    (g.set key value).get? other = g.get? other := by
  rw [set, get?, if_neg (Ne.symm h)]
  induction g with
  | nil => rfl
  | cons entry rest ih =>
    obtain ⟨k, v⟩ := entry
    by_cases hk : k = key
    · subst hk
      simp [get?, ih, Ne.symm h]
    · simp [get?, hk, ih]

/-- Every domain has a key of its own. -/
theorem jarKey_inj {d e : Text} : jarKey d = jarKey e ↔ d = e :=
  List.append_right_inj _

/-- The jars of some domains are gathered, and no jar is another than its domain's. -/
structure Holds (jar : Text → Jar) (domains : List Text) : Prop where
  /-- The jar of each of the domains is there. -/
  present : ∀ d ∈ domains, g.get? (jarKey d) = some (.jar (jar d))
  /-- Whatever is there for a domain is its jar. -/
  right : ∀ d v, g.get? (jarKey d) = some v → v = .jar (jar d)

variable {g} {jar : Text → Jar} {domains : List Text} {d : Text}

private theorem Holds.cons_of_hasJar (h : g.Holds jar domains) (hd : g.hasJar d) :
    g.Holds jar (d :: domains) where
  present := by
    intro e he
    rcases List.mem_cons.mp he with rfl | he
    · cases hg : g.get? (jarKey e) with
      | none => simp [hasJar, hg] at hd
      | some v => rw [h.right e v hg]
    · exact h.present e he
  right := h.right

/-- The jar of a domain is added beside the others. -/
theorem Holds.addJar (h : g.Holds jar domains) (d : Text) :
    (g.addJar d (jar d)).Holds jar (d :: domains) := by
  have hget (e : Text) : (g.addJar d (jar d)).get? (jarKey e) =
      if e = d then some (.jar (jar d)) else g.get? (jarKey e) := by
    by_cases he : e = d
    · rw [if_pos he, he, Gathering.addJar, get?_set_self]
    · rw [if_neg he, Gathering.addJar, get?_set_of_ne _ fun hk => he (jarKey_inj.mp hk)]
  constructor
  · intro e he
    rw [hget]
    by_cases hd : e = d
    · rw [if_pos hd, hd]
    · rw [if_neg hd]
      exact h.present e (List.mem_of_ne_of_mem hd he)
  · intro e v hv
    rw [hget] at hv
    by_cases hd : e = d
    · rw [if_pos hd] at hv
      rw [hd]
      exact (Option.some.inj hv).symm
    · rw [if_neg hd] at hv
      exact h.right e v hv

end Gathering

namespace Condition

/-- The jar of a domain as conditions see it: empty if cookies cannot be asked for or the lookup
fails. -/
def Context.jar (context : Context) (lookup : Text → Except Failure Jar) (domain : Text) : Jar :=
  if context.hasCookies then
    match lookup domain with
    | .ok jar => jar
    | .error _ => []
  else []

end Condition

namespace Evaluation

variable {σ : Type} (context : Condition.Context) (lookup : Text → Except Failure Jar)

/-- A reply gives the jar that conditions see. -/
theorem value_resume (h : context.hasCookies) (d : Text) (rest : List Text) (g : Gathering)
    (s : σ) :
    (resume d rest g (lookup d)).value s =
      ofDomains true rest (g.addJar d (context.jar lookup d)) := by
  cases hl : lookup d <;> simp [resume, Condition.Context.jar, h, hl]

/-- Gathering changes no state. -/
theorem state_resume (d : Text) (rest : List Text) (g : Gathering) (reply : Except Failure Jar)
    (s : σ) : (resume d rest g reply).state s = s := by
  cases reply <;> rfl

/-- Gathering that waits for a jar goes on with it. -/
theorem value_finish_wanting (h : context.hasCookies) (d : Text) (rest : List Text) (g : Gathering)
    (s : σ) :
    ((wanting d rest g).finish lookup).value s =
      ((ofDomains true rest (g.addJar d (context.jar lookup d))).finish lookup).value s := by
  rw [← value_resume context lookup h d rest g s, finish]
  change ((resume d rest g (lookup d)).value s |>.finish lookup).value
      ((resume d rest g (lookup d)).state s) = _
  rw [state_resume]

/-- Gathering ends with the jars of all domains. -/
theorem holds_finish (domains seen : List Text) (g : Gathering)
    (h : g.Holds (context.jar lookup) seen) (s : σ) :
    (((ofDomains context.hasCookies domains g).finish lookup).value s).Holds (context.jar lookup)
      (domains ++ seen) := by
  induction domains generalizing seen g with
  | nil =>
    rw [ofDomains, finish]
    exact h
  | cons d rest ih =>
    -- The domain at hand joins those that were seen, so the rest is gathered on top of it.
    have step (g' : Gathering) (h' : g'.Holds (context.jar lookup) (d :: seen)) :
        (((ofDomains context.hasCookies rest g').finish lookup).value s).Holds (context.jar lookup)
          (d :: rest ++ seen) := by
      obtain ⟨present, right⟩ := ih (d :: seen) g' h'
      refine ⟨fun e he => present e ?_, right⟩
      simp only [List.mem_append, List.mem_cons] at he ⊢
      rcases he with (he | he) | he
      · exact .inr (.inl he)
      · exact .inl he
      · exact .inr (.inr he)
    rw [ofDomains]
    by_cases hd : g.hasJar d
    · rw [if_pos hd]
      exact step g (h.cons_of_hasJar hd)
    · rw [if_neg hd]
      by_cases hc : context.hasCookies
      · rw [if_pos hc, value_finish_wanting context lookup hc, ← hc]
        exact step _ (h.addJar d)
      · rw [if_neg hc]
        have hj : context.jar lookup d = [] := by simp [Condition.Context.jar, hc]
        exact step _ (hj ▸ h.addJar d)

end Evaluation

end BreakageAdvisor
