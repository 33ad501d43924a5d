import BreakageAdvisor.Proofs.Attempt.Phase

/-!
# Crowds of attempts

Any number of attempts that share one ledger. They begin at any time and wait for replies, which
come in any order and may be anything that a reply can be; an attempt may be broken off where it
waits, and the domains told of may be cleared between any two steps. What an event does to a crowd
is a move of one attempt, or a clearing.
-/

namespace BreakageAdvisor

namespace Attempt

/-- Where an attempt that has come so far waits. -/
def Progress.stage? : Progress → Option Stage
  | ended _ => none
  | waiting stage => some stage

/-- The phase of an attempt that waits somewhere or nowhere. -/
def Phase.ofStage? : Option Stage → Phase
  | none => .idle
  | some stage => stage.phase

private theorem Phase.ofStage?_stage? (p : Progress) : Phase.ofStage? p.stage? = p.phase := by
  cases p <;> rfl

/-- A phase, unless it is idle. -/
def Phase.toList : Phase → List Phase
  | idle => []
  | p => [p]

/-- The domain that an attempt releases although it had recorded it before. -/
def Phase.left? : Phase → Phase → Option Text
  | settling domain, idle => some domain
  | _, _ => none

end Attempt

open Attempt

/-- Attempts that share a ledger. -/
structure Crowd where
  ledger : Ledger := {}
  /-- The attempts that wait. -/
  members : List (Attempt × Stage) := []
  /-- How often the domains told of were cleared. -/
  clearings : Nat := 0
  /-- The domains for which a notification was asked for, in order, each with the number of
  clearings before. -/
  notices : List (Text × Nat) := []

namespace Crowd

/-- What happens to a crowd. -/
inductive Event where
  /-- An attempt begins. -/
  | began (attempt : Attempt)
  /-- The attempt at a place gets a reply to its query, whichever that is. -/
  | replied (place : Nat) (reply : (query : Query) → query.Reply)
  /-- The attempt at a place is broken off. -/
  | abandoned (place : Nat)
  /-- The domains told of are cleared. -/
  | cleared

/-- The domain for which an attempt asks for a notification at a stage. -/
def notice? (attempt : Attempt) (stage : Stage) : Option Text :=
  match stage.query attempt with
  | .notification _ => stage.domain?
  | _ => none

/-- The crowd after an attempt between others has come to wait at a stage, or is over. -/
def put (c : Crowd) (before after : List (Attempt × Stage)) (attempt : Attempt)
    (next : Option Stage) (ledger : Ledger) : Crowd where
  ledger := ledger
  members := before ++ (next.map (attempt, ·)).toList ++ after
  clearings := c.clearings
  notices := c.notices ++ ((next.bind (notice? attempt)).map (·, c.clearings)).toList

/-- The crowd after an event. A reply to an attempt that does not exist changes nothing. -/
def step (policy : Policy) (c : Crowd) : Event → Crowd
  | .began attempt =>
    c.put c.members [] attempt ((attempt.begin policy).value c.ledger).stage?
      ((attempt.begin policy).state c.ledger)
  | .replied place reply =>
    match c.members[place]? with
    | none => c
    | some (attempt, stage) =>
      let act := attempt.resume policy stage (reply (stage.query attempt))
      c.put (c.members.take place) (c.members.drop (place + 1)) attempt
        (act.value c.ledger).stage? (act.state c.ledger)
  | .abandoned place =>
    match c.members[place]? with
    | none => c
    | some (attempt, stage) =>
      c.put (c.members.take place) (c.members.drop (place + 1)) attempt none
        ((abandon stage).state c.ledger)
  | .cleared => { c with ledger := Ledger.clear.state c.ledger, clearings := c.clearings + 1 }

/-- The crowd after events, one after the other. -/
def run (policy : Policy) (c : Crowd) (events : List Event) : Crowd :=
  events.foldl (step policy) c

/-- A run goes on with its next event. -/
theorem run_concat (policy : Policy) (c : Crowd) (events : List Event) (e : Event) :
    run policy c (events ++ [e]) = (run policy c events).step policy e := by
  simp [run]

/-- The replies of a browser where all goes well and the user clicks every notification, if all
URLs are of one domain. -/
def clicking (domain : Text) : (query : Query) → query.Reply
  | .baseDomain _ => .ok domain
  | .cookies _ => .ok []
  | .notification _ => .ok (.text "clicked")
  | .allow _ => .ok ()
  | .reload _ => .ok ()
  | .tab _ => .error .tabGone
  | .bundled _ => .ok (.list [])
  | .configured _ => .ok (.list [])

/-- An attempt on a request, under one rule that lists one domain. -/
def visit (domain : Text) : Attempt :=
  ⟨.number 1, .request, domain, [⟨some "rule", [domain], .plain "message", .null⟩]⟩

/-- The domain that an attempt releases in an event although it had recorded it before. -/
def left? (policy : Policy) (c : Crowd) : Event → Option Text
  | .replied place reply =>
    match c.members[place]? with
    | none => none
    | some (attempt, stage) =>
      stage.phase.left?
        ((attempt.resume policy stage (reply (stage.query attempt))).value c.ledger).phase
  | .abandoned place =>
    match c.members[place]? with
    | none => none
    | some (_, stage) => stage.phase.left? .idle
  | _ => none

/-- The phases of the attempts, idle ones left out. -/
def phases (c : Crowd) : List Phase := c.members.flatMap (·.2.phase.toList)

/-- The domains that attempts have claimed and not recorded yet. -/
def claims (c : Crowd) : List Text := c.phases.filterMap (·.claimed?)

/-- The domains whose notifications were asked for and are not recorded yet. -/
def shown (c : Crowd) : List Text := c.phases.filterMap (·.shown?)

/-- The domains recorded by attempts that carry out an answer. -/
def recorded (c : Crowd) : List Text := c.phases.filterMap (·.recorded?)

/-- What an event does to a crowd, with the domain that is released after it was recorded. -/
inductive Change (c : Crowd) : Option Text → Crowd → Prop where
  /-- The domains told of are cleared. -/
  | cleared :
    Change c none { c with ledger := Ledger.clear.state c.ledger, clearings := c.clearings + 1 }
  /-- One attempt makes a move. -/
  | moved {c' : Crowd} (others : List Phase) (p q : Phase)
      (hm : Move c.ledger c'.ledger p q) (hp : c.phases.Perm (p.toList ++ others))
      (hq : c'.phases.Perm (q.toList ++ others)) (hc : c'.clearings = c.clearings)
      (hn : c'.notices = c.notices ++ (q.shown?.map (·, c.clearings)).toList) :
      Change c (p.left? q) c'

private theorem bind_notice? (attempt : Attempt) (next : Option Stage) :
    next.bind (notice? attempt) = (Phase.ofStage? next).shown? := by
  cases next with
  | none => rfl
  | some stage => cases stage <;> rfl

private theorem flatMap_stage? (attempt : Attempt) (next : Option Stage) :
    (next.map (attempt, ·)).toList.flatMap (·.2.phase.toList) =
      (Phase.ofStage? next).toList := by
  cases next with
  | none => rfl
  | some stage => exact List.append_nil _

private theorem perm_middle (before p after : List Phase) :
    (before ++ p ++ after).Perm (p ++ (before ++ after)) := by
  rw [← List.append_assoc]
  exact List.perm_append_comm.append_right after

private theorem change_put {c : Crowd} {before after : List (Attempt × Stage)} {old : Phase}
    (attempt : Attempt) (next : Option Stage) (ledger : Ledger)
    (hm : Move c.ledger ledger old (Phase.ofStage? next))
    (hp : c.phases = before.flatMap (·.2.phase.toList) ++ old.toList ++
      after.flatMap (·.2.phase.toList)) :
    Change c (old.left? (Phase.ofStage? next)) (c.put before after attempt next ledger) := by
  refine .moved _ old _ hm (hp ▸ perm_middle _ _ _) ?_ rfl ?_
  · simp only [phases, put, List.flatMap_append, flatMap_stage?]
    exact perm_middle _ _ _
  · simp only [put, bind_notice?]

private theorem phases_split {c : Crowd} {place : Nat} {attempt : Attempt} {stage : Stage}
    (h : c.members[place]? = some (attempt, stage)) :
    c.phases = (c.members.take place).flatMap (·.2.phase.toList) ++ stage.phase.toList ++
      (c.members.drop (place + 1)).flatMap (·.2.phase.toList) := by
  obtain ⟨hl, he⟩ := List.getElem?_eq_some_iff.mp h
  have hs : c.members = c.members.take place ++ (attempt, stage) :: c.members.drop (place + 1) := by
    rw [← he, List.getElem_cons_drop, List.take_append_drop]
  have hf := congrArg (List.flatMap fun m : Attempt × Stage => m.2.phase.toList) hs
  rw [List.flatMap_append, List.flatMap_cons, ← List.append_assoc] at hf
  exact hf

private theorem change_self (c : Crowd) : Change c none c :=
  .moved c.phases .idle .idle (.stay .idle rfl (.refl _)) (.refl _) (.refl _) rfl
    (List.append_nil _).symm

/-- Every event changes a crowd by a clearing or by a move of one attempt. -/
theorem change_step (policy : Policy) (c : Crowd) (e : Event) :
    Change c (c.left? policy e) (c.step policy e) := by
  cases e with
  | began attempt =>
    have hm := move_begin policy attempt c.ledger
    rw [← Phase.ofStage?_stage?] at hm
    exact change_put attempt _ _ hm (by simp [phases, Phase.toList])
  | replied place reply =>
    cases h : c.members[place]? with
    | none =>
      simp only [left?, step, h]
      exact change_self c
    | some m =>
      obtain ⟨attempt, stage⟩ := m
      have hm := move_resume policy attempt stage (reply (stage.query attempt)) c.ledger
      simp only [left?, step, h]
      rw [← Phase.ofStage?_stage?] at hm ⊢
      exact change_put attempt _ _ hm (phases_split h)
  | abandoned place =>
    cases h : c.members[place]? with
    | none =>
      simp only [left?, step, h]
      exact change_self c
    | some m =>
      obtain ⟨attempt, stage⟩ := m
      simp only [left?, step, h]
      exact change_put attempt none _ (move_abandon stage c.ledger) (phases_split h)
  | cleared => exact .cleared

end Crowd

end BreakageAdvisor
