import BreakageAdvisor.Proofs.Condition.Gathering

/-!
# Snapshots

What is gathered for conditions shows a snapshot: the jars of some domains, and nothing else under
the keys of domains. A condition is decided from the jars of its own domains, and from a snapshot it
is always decided.
-/

namespace BreakageAdvisor

namespace Gathering

/-- What is gathered for domains are the jars of a snapshot, and nothing else. -/
def Shows (g : Gathering) (snapshot : Text → Option Jar) : Prop :=
  ∀ d, g.get? (jarKey d) = (snapshot d).map .jar

variable {g : Gathering} {snapshot : Text → Option Jar}

/-- The jar of a domain was gathered if the snapshot has it. -/
theorem Shows.hasJar (h : g.Shows snapshot) (d : Text) : g.hasJar d = (snapshot d).isSome := by
  rw [Gathering.hasJar, h d]
  cases snapshot d <;> rfl

/-- A jar that is added is shown beside the others. -/
theorem Shows.addJar (h : g.Shows snapshot) (domain : Text) (jar : Jar) :
    (g.addJar domain jar).Shows fun d => if d = domain then some jar else snapshot d := by
  intro d
  by_cases hd : d = domain
  · simp [Gathering.addJar, hd]
  · simp only [Gathering.addJar, hd, if_false]
    rw [get?_set_of_ne _ fun hk => hd (jarKey_inj.mp hk), h d]

end Gathering

namespace Condition

section Check

variable (url : Option Text) {g g' : Gathering}

mutual

/-- A condition is decided from the jars of its domains alone. -/
theorem check_congr : (c : Condition) →
    (∀ d ∈ c.domains, g.get? (Gathering.jarKey d) = g'.get? (Gathering.jarKey d)) →
      check url g c = check url g' c
  | .constant result, _ => by simp [check]
  | .every children, h => by
    rw [check, check]
    exact checkEvery_congr children (by simpa [domains] using h)
  | .any children, h => by
    rw [check, check]
    exact checkAny_congr children (by simpa [domains] using h)
  | .negation none, _ => by simp [check]
  | .negation (some child), h => by
    rw [check, check, check_congr child (by simpa [domains] using h)]
  | .cookie none name value part, _ => by simp [check]
  | .cookie (some domain) none value part, _ => by simp [check]
  | .cookie (some domain) (some name) value part, h => by
    rw [check, check]
    by_cases hd : domain.isEmpty
    · simp [hd]
    · have := h domain (by simp [domains, hd])
      rw [checkCookie, checkCookie, this]
  | .url pattern compiled, _ => by
    unfold check
    rfl

private theorem checkEvery_congr : (children : List Condition) →
    (∀ d ∈ domainsOfAll children,
      g.get? (Gathering.jarKey d) = g'.get? (Gathering.jarKey d)) →
      checkEvery url g children = checkEvery url g' children
  | [], _ => by simp [checkEvery]
  | c :: rest, h => by
    simp only [domainsOfAll, List.forall_mem_append] at h
    rw [checkEvery, checkEvery, check_congr c h.1, checkEvery_congr rest h.2]

private theorem checkAny_congr : (children : List Condition) →
    (∀ d ∈ domainsOfAll children,
      g.get? (Gathering.jarKey d) = g'.get? (Gathering.jarKey d)) →
      checkAny url g children = checkAny url g' children
  | [], _ => by simp [checkAny]
  | c :: rest, h => by
    simp only [domainsOfAll, List.forall_mem_append] at h
    rw [checkAny, checkAny, check_congr c h.1, checkAny_congr rest h.2]

end

end Check

section Success

variable (url : Option Text) {g : Gathering} {snapshot : Text → Option Jar}

mutual

/-- From a snapshot every condition is decided. -/
theorem exists_check_eq_ok (h : g.Shows snapshot) :
    (c : Condition) → ∃ holds, check url g c = .ok holds
  | .constant result => ⟨result, by rw [check]⟩
  | .every children => by
    rw [check]
    exact exists_checkEvery_eq_ok h children
  | .any children => by
    rw [check]
    exact exists_checkAny_eq_ok h children
  | .negation none => ⟨true, by rw [check]⟩
  | .negation (some child) => by
    obtain ⟨holds, hc⟩ := exists_check_eq_ok h child
    exact ⟨!holds, by rw [check, hc, Except.map]⟩
  | .cookie none name value part => ⟨false, by simp [check]⟩
  | .cookie (some domain) none value part => ⟨false, by simp [check]⟩
  | .cookie (some domain) (some name) value part => by
    rw [check, checkCookie, h domain]
    split
    · exact ⟨false, rfl⟩
    · cases snapshot domain with
      | none => exact ⟨false, rfl⟩
      | some jar =>
        dsimp only [Option.map_some]
        split
        · exact ⟨_, rfl⟩
        · exact ⟨false, rfl⟩
  | .url pattern compiled => by
    unfold check
    split
    · exact ⟨_, rfl⟩
    · exact ⟨false, rfl⟩

private theorem exists_checkEvery_eq_ok (h : g.Shows snapshot) :
    (children : List Condition) → ∃ holds, checkEvery url g children = .ok holds
  | [] => ⟨true, by rw [checkEvery]⟩
  | c :: rest => by
    obtain ⟨holds, hc⟩ := exists_check_eq_ok h c
    obtain ⟨others, hr⟩ := exists_checkEvery_eq_ok h rest
    rw [checkEvery, hc]
    cases holds with
    | true => exact ⟨others, hr⟩
    | false => exact ⟨false, rfl⟩

private theorem exists_checkAny_eq_ok (h : g.Shows snapshot) :
    (children : List Condition) → ∃ holds, checkAny url g children = .ok holds
  | [] => ⟨false, by rw [checkAny]⟩
  | c :: rest => by
    obtain ⟨holds, hc⟩ := exists_check_eq_ok h c
    obtain ⟨others, hr⟩ := exists_checkAny_eq_ok h rest
    rw [checkAny, hc]
    cases holds with
    | true => exact ⟨true, rfl⟩
    | false => exact ⟨others, hr⟩

end

end Success

end Condition

end BreakageAdvisor
