import BreakageAdvisor.Proofs.Condition.Snapshots
import BreakageAdvisor.Proofs.Act

/-!
# Lookups of cookies

Conditions that share what is gathered look the cookies of a domain up once, when the first of them
that names the domain is gathered for. Lookups go by the order of the leaves, whatever becomes of
them, and whichever leaves are looked at when the conditions are decided. The jar that the first
lookup gave stays.
-/

namespace BreakageAdvisor

namespace Condition

section Leaves

mutual

/-- The leaves of a condition, from left to right. -/
def leaves : Condition → List Condition
  | every children => leavesOfAll children
  | any children => leavesOfAll children
  | negation none => []
  | negation (some child) => leaves child
  | leaf => [leaf]

/-- The leaves of some conditions, from left to right. -/
def leavesOfAll : List Condition → List Condition
  | [] => []
  | c :: rest => leaves c ++ leavesOfAll rest

end

/-- The domain of a leaf that looks at cookies, if one is given and is not empty. -/
def cookieDomain? : Condition → Option Text
  | cookie (some domain) _ _ _ => if domain = [] then none else some domain
  | _ => none

mutual

private theorem domains_eq_leaves : (c : Condition) → c.domains = c.leaves.filterMap cookieDomain?
  | .constant result => by simp [domains, leaves, cookieDomain?]
  | .every children => by
    rw [domains, leaves]
    exact domainsOfAll_eq_leaves children
  | .any children => by
    rw [domains, leaves]
    exact domainsOfAll_eq_leaves children
  | .negation none => by simp [domains, leaves]
  | .negation (some child) => by
    rw [domains, leaves]
    exact domains_eq_leaves child
  | .cookie none name value part => by simp [domains, leaves, cookieDomain?]
  | .cookie (some domain) name value part => by
    by_cases h : domain = []
    · simp [domains, leaves, cookieDomain?, h]
    · simp [domains, leaves, cookieDomain?, h]
  | .url pattern compiled => by simp [domains, leaves, cookieDomain?]

private theorem domainsOfAll_eq_leaves :
    (children : List Condition) →
      domainsOfAll children = (leavesOfAll children).filterMap cookieDomain?
  | [] => rfl
  | c :: rest => by
    rw [domainsOfAll, leavesOfAll, List.filterMap_append, domains_eq_leaves c,
      domainsOfAll_eq_leaves rest]

end

end Leaves

end Condition

/-- The domains whose cookies were looked up, in order. -/
def lookups (journal : List Entry) : List Text :=
  journal.filterMap fun
    | .asked (.cookies domain) => some domain
    | _ => none

private theorem lookups_cons_asked (d : Text) (rest : List Entry) :
    lookups (.asked (.cookies d) :: rest) = d :: lookups rest := rfl

private theorem lookups_append (a b : List Entry) : lookups (a ++ b) = lookups a ++ lookups b :=
  List.filterMap_append ..

namespace Evaluation

variable {σ : Type} (lookup : Text → Except Failure Jar)

private theorem journal_finish_wanting (d : Text) (rest : List Text) (g : Gathering) (s : σ) :
    ((wanting d rest g).finish lookup).journal s =
      .asked (.cookies d) :: (resume d rest g (lookup d)).journal s ++
        (((resume d rest g (lookup d)).value s).finish lookup).journal s := by
  rw [finish]
  change _ :: _ ++ (((resume d rest g (lookup d)).value s).finish lookup).journal
      ((resume d rest g (lookup d)).state s) = _
  rw [state_resume]
  rfl

private theorem lookups_resume (d : Text) (rest : List Text) (g : Gathering)
    (reply : Except Failure Jar)
    (s : σ) : lookups ((resume d rest g reply).journal s) = [] := by
  cases reply <;> rfl

variable {context : Condition.Context} {g : Gathering} {snapshot : Text → Option Jar}

private theorem shows_finish (hc : context.hasCookies) (domains : List Text) (h : g.Shows snapshot)
    (s : σ) :
    (((ofDomains true domains g).finish lookup).value s).Shows fun d =>
      (snapshot d).or (if d ∈ domains then some (context.jar lookup d) else none) := by
  induction domains generalizing g snapshot with
  | nil =>
    rw [ofDomains, finish]
    simpa using h
  | cons domain rest ih =>
    rw [ofDomains]
    by_cases hj : g.hasJar domain
    · rw [if_pos hj]
      intro d
      rw [ih h d]
      rw [h.hasJar, Option.isSome_iff_exists] at hj
      obtain ⟨jar, hj⟩ := hj
      by_cases hd : d = domain
      · simp [hd, hj]
      · simp [hd]
    · rw [if_neg hj, if_pos rfl, value_finish_wanting context lookup hc]
      intro d
      rw [ih (h.addJar domain _) d]
      rw [h.hasJar, Bool.not_eq_true, Option.isSome_eq_false_iff, Option.isNone_iff_eq_none] at hj
      by_cases hd : d = domain
      · simp [hd, hj]
      · simp [hd]

private theorem lookups_finish (hc : context.hasCookies) (domains : List Text)
    (h : g.Shows snapshot)
    (s : σ) :
    lookups (((ofDomains true domains g).finish lookup).journal s) =
      (domains.filter fun d => (snapshot d).isNone).eraseDups := by
  induction domains generalizing g snapshot with
  | nil =>
    rw [ofDomains, finish]
    rfl
  | cons domain rest ih =>
    rw [ofDomains]
    by_cases hj : g.hasJar domain
    · rw [if_pos hj, ih h]
      rw [h.hasJar, Option.isSome_iff_ne_none] at hj
      simp [hj]
    · rw [if_neg hj, if_pos rfl, journal_finish_wanting, value_resume context lookup hc]
      rw [List.cons_append, lookups_cons_asked, lookups_append, lookups_resume, List.nil_append,
        ih (h.addJar domain _)]
      rw [h.hasJar, Bool.not_eq_true, Option.isSome_eq_false_iff] at hj
      rw [List.filter_cons, if_pos hj, List.eraseDups_cons, List.filter_filter]
      congr 2
      apply List.filter_congr
      intro d _
      by_cases hd : d = domain
      · simp [hd]
      · simp [hd]

end Evaluation

namespace Condition

/-- A use of what conditions share: to gather what a condition needs, with the cookies as they are
to be had at that time, or to decide a condition. -/
inductive Use where
  | gather (condition : Condition) (lookup : Text → Except Failure Jar)
  | check (condition : Condition)

namespace Use

/-- The domains that a use names: those of the leaves of a condition that is gathered for. -/
def domains : Use → List Text
  | gather condition _ => condition.leaves.filterMap cookieDomain?
  | check _ => []

/-- Makes some uses, one after the other, and gives the verdicts of those that decide. -/
def performAll (context : Context) : List Use → Act Gathering (List (Except Failure Bool))
  | [] => return []
  | gather condition lookup :: rest => do
    let gathering ← Act.get
    let gathered ← (condition.gather context.hasCookies gathering).finish lookup
    Act.set gathered
    performAll context rest
  | check condition :: rest => do
    let gathering ← Act.get
    let later ← performAll context rest
    return condition.check context.url gathering :: later

/-- The jar that a use gives for a domain, if it names the domain. -/
def jar? (context : Context) (domain : Text) : Use → Option Jar
  | gather condition lookup =>
    if domain ∈ (gather condition lookup).domains then some (context.jar lookup domain) else none
  | check _ => none

/-- The jar that the first use to name a domain gives for it. -/
def snapshot (context : Context) (uses : List Use) (domain : Text) : Option Jar :=
  uses.findSome? (jar? context domain)

section Run

variable {context : Context} {g : Gathering} {shown : Text → Option Jar}

private theorem snapshot_append (before after : List Use) (d : Text) :
    snapshot context (before ++ after) d =
      (snapshot context before d).or (snapshot context after d) :=
  List.findSome?_append

private theorem snapshot_cons (use : Use) (rest : List Use) (d : Text) :
    snapshot context (use :: rest) d = (use.jar? context d).or (snapshot context rest d) := by
  rw [snapshot, List.findSome?_cons]
  cases use.jar? context d <;> rfl

private theorem isSome_jar?_iff {use : Use} {d : Text} :
    (use.jar? context d).isSome ↔ d ∈ use.domains := by
  cases use with
  | gather condition lookup => simp [jar?]
  | check condition => simp [jar?, domains]

private theorem isSome_snapshot_iff {uses : List Use} {d : Text} :
    (snapshot context uses d).isSome ↔ d ∈ uses.flatMap domains := by
  simp only [snapshot, List.isSome_findSome?, List.any_eq_true, List.mem_flatMap, isSome_jar?_iff]

@[simp]
theorem state_performAll_gather (condition : Condition) (lookup : Text → Except Failure Jar)
    (rest : List Use) (g : Gathering) :
    (performAll context (.gather condition lookup :: rest)).state g =
      (performAll context rest).state
        (((condition.gather context.hasCookies g).finish lookup).value g) := rfl

@[simp]
theorem journal_performAll_gather (condition : Condition) (lookup : Text → Except Failure Jar)
    (rest : List Use) (g : Gathering) :
    (performAll context (.gather condition lookup :: rest)).journal g =
      ((condition.gather context.hasCookies g).finish lookup).journal g ++
        (performAll context rest).journal
          (((condition.gather context.hasCookies g).finish lookup).value g) := rfl

@[simp]
theorem value_performAll_check (condition : Condition) (rest : List Use) (g : Gathering) :
    (performAll context (.check condition :: rest)).value g =
      condition.check context.url g :: (performAll context rest).value g := rfl

@[simp]
theorem state_performAll_check (condition : Condition) (rest : List Use) (g : Gathering) :
    (performAll context (.check condition :: rest)).state g =
      (performAll context rest).state g := rfl

@[simp]
theorem journal_performAll_check (condition : Condition) (rest : List Use) (g : Gathering) :
    (performAll context (.check condition :: rest)).journal g =
      (performAll context rest).journal g :=
  List.append_nil _

private theorem shows_gather (hc : context.hasCookies) (condition : Condition)
    (lookup : Text → Except Failure Jar) (h : g.Shows shown) :
    (((condition.gather context.hasCookies g).finish lookup).value g).Shows fun d =>
      (shown d).or ((gather condition lookup).jar? context d) := by
  rw [Condition.gather, hc]
  intro d
  rw [Evaluation.shows_finish lookup hc condition.domains h g d, domains_eq_leaves]
  rfl

private theorem shows_performAll (hc : context.hasCookies) (uses : List Use) (h : g.Shows shown) :
    ((performAll context uses).state g).Shows fun d =>
      (shown d).or (snapshot context uses d) := by
  induction uses generalizing g shown with
  | nil => simpa [performAll, snapshot] using h
  | cons use rest ih =>
    simp only [snapshot_cons, ← Option.or_assoc]
    cases use with
    | check condition => simpa [jar?] using ih h
    | gather condition lookup => exact ih (shows_gather hc condition lookup h)

private theorem lookups_performAll (hc : context.hasCookies) (uses : List Use) (h : g.Shows shown) :
    lookups ((performAll context uses).journal g) =
      ((uses.flatMap domains).filter fun d => (shown d).isNone).eraseDups := by
  induction uses generalizing g shown with
  | nil => rfl
  | cons use rest ih =>
    cases use with
    | check condition => simpa [domains] using ih h
    | gather condition lookup =>
      have hl := Evaluation.lookups_finish lookup hc condition.domains h g
      rw [journal_performAll_gather, lookups_append, ih (shows_gather hc condition lookup h),
        Condition.gather, hc, hl, List.flatMap_cons, List.filter_append, List.eraseDups_append,
        domains, domains_eq_leaves, List.removeAll, List.filter_filter]
      congr 2
      -- Among the later domains, those that the use gives are those that are not looked up again.
      apply List.filter_congr
      intro d _
      rw [Bool.eq_iff_iff]
      cases hs : shown d <;> simp [jar?, domains, hs]

/-- Uses give the verdicts of the first, and then those of the rest from where the first have led.
-/
private theorem value_performAll_append (before after : List Use) (g : Gathering) :
    (performAll context (before ++ after)).value g =
      (performAll context before).value g ++
        (performAll context after).value ((performAll context before).state g) := by
  induction before generalizing g with
  | nil => rfl
  | cons use rest ih =>
    cases use with
    | gather condition lookup => exact ih _
    | check condition => exact congrArg (List.cons _) (ih g)

private theorem journal_performAll_append (before after : List Use) (g : Gathering) :
    (performAll context (before ++ after)).journal g =
      (performAll context before).journal g ++
        (performAll context after).journal ((performAll context before).state g) := by
  induction before generalizing g with
  | nil => rfl
  | cons use rest ih =>
    cases use with
    | gather condition lookup => simp [ih]
    | check condition => simp [ih]

private theorem get?_performAll (hc : context.hasCookies) (uses : List Use) (d : Text) :
    ((performAll context uses).state []).get? (Gathering.jarKey d) =
      (snapshot context uses d).map .jar := by
  have h : Gathering.Shows [] fun _ => none := fun _ => rfl
  exact shows_performAll hc uses h d

private theorem get?_performAll_append (hc : context.hasCookies) {uses : List Use} {d : Text}
    (hd : d ∈ uses.flatMap domains) (later : List Use) :
    ((performAll context (uses ++ later)).state []).get? (Gathering.jarKey d) =
      ((performAll context uses).state []).get? (Gathering.jarKey d) := by
  rw [get?_performAll hc, get?_performAll hc, snapshot_append]
  obtain ⟨jar, hj⟩ := Option.isSome_iff_exists.mp (isSome_snapshot_iff.mpr hd)
  rw [hj, Option.some_or]

end Run

/-- Conditions that share what is gathered look up the domains of their leaves, from left to right
and in the order of gathering, each at its first place only, however the lookups turn out and
whatever is decided in between. Deciding looks nothing up. What is there for a domain is the jar of
its first lookup, and stays; so a condition whose domains were gathered for is decided the same
whenever it is. -/
theorem looks_up_each_domain_once (url : Option Text) (uses : List Use) :
    let context : Context := ⟨url, true⟩
    lookups ((performAll context uses).journal []) = (uses.flatMap domains).eraseDups ∧
      (∀ condition, (performAll context (uses ++ [.check condition])).journal [] =
        (performAll context uses).journal []) ∧
      (∀ d, ((performAll context uses).state []).get? (Gathering.jarKey d) =
        (snapshot context uses d).map .jar) ∧
      (∀ d ∈ uses.flatMap domains, ∀ later,
        ((performAll context (uses ++ later)).state []).get? (Gathering.jarKey d) =
          ((performAll context uses).state []).get? (Gathering.jarKey d)) ∧
      ∀ condition : Condition, (∀ d ∈ condition.domains, d ∈ uses.flatMap domains) → ∀ later,
        ((performAll context (uses ++ later ++ [.check condition])).value []).getLast? =
          ((performAll context (uses ++ [.check condition])).value []).getLast? := by
  intro context
  have hc : context.hasCookies := rfl
  refine ⟨?_, ?_, get?_performAll hc uses, ?_, ?_⟩
  · have h : Gathering.Shows [] fun _ => none := fun _ => rfl
    rw [lookups_performAll hc uses h]
    congr 1
    exact List.filter_eq_self.mpr fun _ _ => rfl
  · intro condition
    rw [journal_performAll_append, journal_performAll_check]
    exact List.append_nil _
  · intro d hd later
    exact get?_performAll_append hc hd later
  · intro condition hd later
    have hcheck : condition.check url ((performAll context (uses ++ later)).state []) =
        condition.check url ((performAll context uses).state []) := by
      apply check_congr
      intro d hdc
      exact get?_performAll_append hc (hd d hdc) later
    simp only [value_performAll_append _ [.check condition], value_performAll_check,
      List.getLast?_append, hcheck, context]
    rfl

/-- A site has set a session cookie. -/
def session (domain : Text) : Condition := .cookie (some domain) (some "session") none none

/-- Two conditions share a domain; the first is decided by its first leaf. The cookies cannot be had
when the first is gathered for, and can be had for the second. -/
def sharedDomain : List Use :=
  [.gather (.any [.constant true, .negation (some (session "b.com")), session "a.com", session []])
      fun _ => .error .port,
    .check (session "a.com"),
    .gather (.every [session "c.com", session "a.com"])
      fun _ => .ok [some ⟨.text "session", .text "1", .null⟩]]

/-- The shared domain is looked up once. Its jar counts as empty ever after, since the lookup
fails. -/
theorem looks_up_each_domain_once_sharedDomain :
    lookups ((performAll ⟨none, true⟩ sharedDomain).journal []) =
        (["b.com", "a.com", "c.com"] : List Text) ∧
      ((performAll ⟨none, true⟩ sharedDomain).state []).get? (Gathering.jarKey "a.com") =
        some (.jar []) ∧
      (∀ d ∈ (session "a.com").domains, d ∈ (sharedDomain.take 1).flatMap domains) ∧
      ((performAll ⟨none, true⟩ (sharedDomain.take 1 ++ sharedDomain.drop 1 ++
          [.check (session "a.com")])).value []).getLast? = some (.ok false) := by
  obtain ⟨hl, -, hs, -, -⟩ := looks_up_each_domain_once none sharedDomain
  obtain ⟨-, -, hs', -, hv⟩ := looks_up_each_domain_once none (sharedDomain.take 1)
  have hd : ∀ d ∈ (session "a.com").domains, d ∈ (sharedDomain.take 1).flatMap domains := by decide
  refine ⟨hl.trans (by rfl), (hs "a.com").trans (by rfl), hd, ?_⟩
  have ha : snapshot ⟨none, true⟩ (sharedDomain.take 1) "a.com" = some [] := rfl
  rw [hv _ hd, value_performAll_append, value_performAll_check, session, Condition.check,
    checkCookie, hs', ha]
  rfl

end Use

end Condition

end BreakageAdvisor
