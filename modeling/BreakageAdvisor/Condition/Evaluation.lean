import BreakageAdvisor.Journal

/-!
# Evaluating conditions

A condition is evaluated in two steps. First the cookie jars that it may look at are gathered, each
domain once, from left to right; then it is decided from the jars gathered. A jar that cannot be
had counts as empty.
-/

namespace BreakageAdvisor

/-- What was gathered under a key. -/
inductive Gathered where
  | jar (jar : Jar)
  | value (value : Json)

/-- What was gathered for conditions, by key. -/
abbrev Gathering := List (Text × Gathered)

namespace Gathering

/-- What was gathered under a key. -/
def get? : Gathering → Text → Option Gathered
  | [], _ => none
  | (k, v) :: rest, key => if k = key then some v else get? rest key

/-- Replaces what was gathered under a key. -/
def set (gathering : Gathering) (key : Text) (value : Gathered) : Gathering :=
  (key, value) :: gathering.filter (·.1 != key)

/-- The key of the jar of a domain. -/
def jarKey (domain : Text) : Text := "cookies-" ++ domain

/-- Whether the jar of a domain was gathered. -/
def hasJar (gathering : Gathering) (domain : Text) : Bool :=
  match get? gathering (jarKey domain) with
  | some (.jar _) => true
  | some (.value (.list _)) => true
  | _ => false

/-- Adds the jar of a domain. -/
def addJar (gathering : Gathering) (domain : Text) (jar : Jar) : Gathering :=
  set gathering (jarKey domain) (.jar jar)

end Gathering

/-- What a condition may look at. -/
structure Condition.Context where
  url : Option Text := none
  /-- Whether cookies can be asked for. -/
  hasCookies : Bool := false

/-- How far gathering has come. -/
inductive Evaluation where
  | complete (gathering : Gathering)
  /-- The jar of a domain is needed next, and then those of the rest. -/
  | wanting (domain : Text) (rest : List Text) (gathering : Gathering)

namespace Evaluation

/-- Gathers jars up to the first that has to be asked for. Where cookies cannot be asked for, all
jars are empty. -/
def ofDomains (hasCookies : Bool) : List Text → Gathering → Evaluation
  | [], gathering => complete gathering
  | domain :: rest, gathering =>
    if gathering.hasJar domain then ofDomains hasCookies rest gathering
    else if hasCookies then wanting domain rest gathering
    else ofDomains hasCookies rest (gathering.addJar domain [])

/-- Goes on with the reply to the question for the jar of a domain. A failure is reported, and the
jar counts as empty. -/
def resume {σ : Type} (domain : Text) (rest : List Text) (gathering : Gathering)
    (reply : Except Failure Jar) : Act σ Evaluation :=
  match reply with
  | .ok jar => return ofDomains true rest (gathering.addJar domain jar)
  | .error _ => do
    Act.report (.cookieLookupFailed domain)
    return ofDomains true rest (gathering.addJar domain [])

/-- How many jars may still be asked for. -/
def remaining : Evaluation → Nat
  | complete _ => 0
  | wanting _ rest _ => rest.length + 1

private theorem remaining_ofDomains_le (hasCookies : Bool) (domains : List Text)
    (gathering : Gathering) :
    (ofDomains hasCookies domains gathering).remaining ≤ domains.length := by
  induction domains generalizing gathering with
  | nil => simp [ofDomains, remaining]
  | cons d rest ih =>
    unfold ofDomains
    split
    · exact Nat.le_succ_of_le (ih _)
    · split
      · simp [remaining]
      · exact Nat.le_succ_of_le (ih _)

/-- Going on leaves no more jars to ask for than domains. -/
theorem remaining_resume_le {σ : Type} (domain : Text) (rest : List Text) (gathering : Gathering)
    (reply : Except Failure Jar) (s : σ) :
    ((resume domain rest gathering reply).value s).remaining ≤ rest.length := by
  cases reply with
  | ok jar => exact remaining_ofDomains_le true rest _
  | error _ => exact remaining_ofDomains_le true rest _

/-- Gathers all jars, asking for them one after the other. -/
def finish {σ : Type} (lookup : Text → Except Failure Jar) : Evaluation → Act σ Gathering
  | complete gathering => return gathering
  | wanting domain rest gathering => fun s =>
    let step := resume domain rest gathering (lookup domain) s
    have : step.1.1.remaining < (wanting domain rest gathering).remaining :=
      Nat.lt_succ_of_le (remaining_resume_le domain rest gathering (lookup domain) s)
    let later := finish lookup step.1.1 step.1.2
    (later.1, .asked (.cookies domain) :: step.2 ++ later.2)
termination_by evaluation => evaluation.remaining

end Evaluation

namespace Condition

variable [PatternEngine]

mutual

/-- The domains whose jars a condition may look at, from left to right. -/
def domains : Condition → List Text
  | constant _ => []
  | every children => domainsOfAll children
  | any children => domainsOfAll children
  | negation none => []
  | negation (some child) => domains child
  | cookie (some domain) _ _ _ => if domain.isEmpty then [] else [domain]
  | cookie none _ _ _ => []
  | url _ _ => []

/-- The domains whose jars any of some conditions may look at. -/
def domainsOfAll : List Condition → List Text
  | [] => []
  | c :: rest => domains c ++ domainsOfAll rest

end

/-- Begins to gather what a condition needs, beyond what was gathered before. -/
def gather (condition : Condition) (hasCookies : Bool) (gathering : Gathering) : Evaluation :=
  Evaluation.ofDomains hasCookies condition.domains gathering

/-- Whether a value is a certain text. -/
def isText (t : Text) : Json → Bool
  | .text s => s == t
  | _ => false

/-- Whether a cookie has the required value and contains the required part. -/
def cookieHolds (value part : Option Text) (c : Cookie) : Bool :=
  (match value with
    | some wanted => isText wanted c.value
    | none => true) &&
  (match part, c.value with
    | some wanted, .text given => Text.occursIn wanted given
    | some _, _ => false
    | none, _ => true)

/-- The first cookie of a name in a jar. -/
def findCookie (name : Text) (jar : Jar) : Option Cookie :=
  jar.findSome? fun
    | some c => if isText name c.name then some c else none
    | none => none

/-- The outcome of looking for a cookie among values that are no cookies: gaps are passed over, any
other value has no name. -/
def searchValues : List Json → Except Failure Bool
  | [] => .ok false
  | .null :: rest => searchValues rest
  | value :: _ => .error (.noField value.kind "name")

/-- Decides a cookie condition with a domain and a name from what was gathered. -/
def checkCookie (gathering : Gathering) (domain name : Text) (value part : Option Text) :
    Except Failure Bool :=
  match gathering.get? (Gathering.jarKey domain) with
  | none => .ok false
  | some (.jar jar) =>
    match findCookie name jar with
    | some c => .ok (cookieHolds value part c)
    | none => .ok false
  | some (.value stored) =>
    if !stored.truthy then .ok false
    else match stored with
      | .list items => searchValues items
      | .text _ => .error (.noField .text "name")
      | .object _ => .error (.noField .text "name")
      | other => .error (.notIterable other.kind)

mutual

/-- Decides a condition from what was gathered. Children are decided from left to right until one
settles the result. -/
def check (url : Option Text) (gathering : Gathering) : Condition → Except Failure Bool
  | constant result => .ok result
  | every children => checkEvery url gathering children
  | any children => checkAny url gathering children
  | negation none => .ok true
  | negation (some child) => (check url gathering child).map (!·)
  | cookie (some domain) (some name) value part =>
    if domain.isEmpty || name.isEmpty then .ok false
    else checkCookie gathering domain name value part
  | cookie _ _ _ _ => .ok false
  | .url _ compiled =>
    match url with
    | some (c :: rest) => .ok (PatternEngine.occurs compiled (c :: rest))
    | _ => .ok false

/-- Decides whether all of some conditions hold. -/
def checkEvery (url : Option Text) (gathering : Gathering) :
    List Condition → Except Failure Bool
  | [] => .ok true
  | c :: rest => do if ← check url gathering c then checkEvery url gathering rest else return false

/-- Decides whether any of some conditions holds. -/
def checkAny (url : Option Text) (gathering : Gathering) : List Condition → Except Failure Bool
  | [] => .ok false
  | c :: rest => do if ← check url gathering c then return true else checkAny url gathering rest

end

/-- Evaluates the condition of a description, with a way to look cookies up. No description is a
condition that holds. -/
def evaluate {σ : Type} (context : Context) (lookup : Text → Except Failure Jar) :
    Json → Act σ (Except Failure Bool)
  | .null => return .ok true
  | description =>
    match ofJson description with
    | .error error => return .error (.condition error)
    | .ok condition => do
      let gathering ← (condition.gather context.hasCookies []).finish lookup
      return condition.check context.url gathering

end Condition

end BreakageAdvisor
