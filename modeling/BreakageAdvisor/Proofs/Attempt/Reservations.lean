import BreakageAdvisor.Proofs.Attempt.Faults

/-!
# Reservations end with attempts

Any number of attempts that share a ledger, each with an account of what it did. Every query, every
call to the store and every evaluation of a condition may fail for any cause, and an attempt may be
broken off where it waits. A domain is in flight only while an attempt that reserved it goes on, and
an attempt that is over without having asked for a notification has left everything as it was.
-/

namespace BreakageAdvisor

open Attempt

/-- An attempt, with an account of what it has done. -/
structure Course where
  attempt : Attempt
  /-- What it has entered in the journal, and the queries it has asked. -/
  deeds : List Entry := []
  /-- The domains that its steps have put in flight. -/
  reserved : List Text := []

namespace Course

/-- The account after a further step, with the ledgers before and after. -/
def after (course : Course) (entries : List Entry) (a b : Ledger) : Course where
  attempt := course.attempt
  deeds := course.deeds ++ entries
  reserved := course.reserved ++ b.inFlight.filter (· ∉ a.inFlight)

/-- An attempt has asked for its notification. -/
def Notified (course : Course) : Prop := ∃ message, .asked (.notification message) ∈ course.deeds

/-- An attempt has altered nothing. -/
def Quiet (course : Course) : Prop := ∀ entry ∈ course.deeds, ¬ entry.Alters

end Course

/-- Attempts that share a ledger, with their accounts. -/
structure Docket where
  ledger : Ledger := {}
  /-- The attempts that wait. -/
  running : List (Course × Stage) := []
  /-- The attempts that are over, with their verdicts; one that was broken off has none. -/
  finished : List (Course × Option (Except Failure Bool)) := []

namespace Docket

/-- What happens to a docket. -/
inductive Event where
  /-- An attempt begins; the condition of its rule may fail. -/
  | began (attempt : Attempt) (fault : Option Failure)
  /-- The attempt at a place gets a reply to its query; the condition of its rule may fail. -/
  | replied (place : Nat) (reply : (query : Query) → query.Reply) (fault : Option Failure)
  /-- The attempt at a place is broken off. -/
  | abandoned (place : Nat)
  /-- The domains told of are cleared. -/
  | cleared

/-- How far an attempt has come that goes on, is over with a verdict, or was broken off. -/
inductive Standing where
  | goes (stage : Stage)
  | ends (verdict : Option (Except Failure Bool))

namespace Standing

/-- The standing of an attempt that has come so far. -/
def ofProgress : Progress → Standing
  | .ended verdict => ends (some verdict)
  | .waiting stage => goes stage

/-- The phase of an attempt of some standing. -/
def phase : Standing → Phase
  | goes stage => stage.phase
  | ends _ => .idle

/-- The query that an attempt of some standing asks. -/
def queries (attempt : Attempt) : Standing → List Entry
  | goes stage => [.asked (stage.query attempt)]
  | ends _ => []

end Standing

/-- The account of an attempt after a step. -/
def account (docket : Docket) (course : Course) (act : Act Ledger Standing) : Course :=
  course.after
    (act.journal docket.ledger ++ (act.value docket.ledger).queries course.attempt)
    docket.ledger (act.state docket.ledger)

/-- The docket after a step of an attempt between others. -/
def put (docket : Docket) (before after : List (Course × Stage)) (course : Course)
    (act : Act Ledger Standing) : Docket :=
  let course' := docket.account course act
  let ledger := act.state docket.ledger
  match act.value docket.ledger with
  | .goes stage => { docket with ledger, running := before ++ (course', stage) :: after }
  | .ends verdict =>
    { docket with
      ledger
      running := before ++ after
      finished := docket.finished ++ [(course', verdict)] }

/-- The docket after an event. A reply to an attempt that does not exist changes nothing. -/
def step (policy : Policy) (docket : Docket) : Event → Docket
  | .began attempt fault =>
    docket.put docket.running [] { attempt } (.ofProgress <$> attempt.beginUnder fault policy)
  | .replied place reply fault =>
    match docket.running[place]? with
    | none => docket
    | some (course, stage) =>
      docket.put (docket.running.take place) (docket.running.drop (place + 1)) course
        (.ofProgress <$>
          course.attempt.resumeUnder fault policy stage (reply (stage.query course.attempt)))
  | .abandoned place =>
    match docket.running[place]? with
    | none => docket
    | some (course, stage) =>
      docket.put (docket.running.take place) (docket.running.drop (place + 1)) course
        ((fun _ => .ends none) <$> abandon stage)
  | .cleared => { docket with ledger := Ledger.clear.state docket.ledger }

/-- The docket after events, one after the other. -/
def run (policy : Policy) (docket : Docket) (events : List Event) : Docket :=
  events.foldl (step policy) docket

/-- What the accounts of a docket have to do with its ledger and with the stages: who claims a
domain has reserved it, and who asked for no notification waits before it could, and has altered
nothing. -/
structure Sound (docket : Docket) : Prop where
  claimed : ∀ d ∈ docket.ledger.inFlight, ∃ m ∈ docket.running, m.2.phase.claimed? = some d
  reserved : ∀ m ∈ docket.running, ∀ d, m.2.phase.claimed? = some d → d ∈ m.1.reserved
  unheard : ∀ m ∈ docket.running,
    m.1.Notified ∨ m.2.phase.shown? = none ∧ m.2.phase.recorded? = none ∧ m.1.Quiet
  finished : ∀ o ∈ docket.finished, o.1.Notified ∨ o.2 ≠ some (.ok true) ∧ o.1.Quiet

private theorem sound_start (store : Store) : Sound { ledger := { store } } where
  claimed := fun _ h => absurd h List.not_mem_nil
  reserved := fun _ h => absurd h List.not_mem_nil
  unheard := fun _ h => absurd h List.not_mem_nil
  finished := fun _ h => absurd h List.not_mem_nil

/-- A step of an attempt from a phase: it is a move, and does no harm as long as the attempt has
asked for no notification. -/
structure Turn (docket : Docket) (course : Course) (old : Phase) (act : Act Ledger Standing) :
    Prop where
  move : Move docket.ledger (act.state docket.ledger) old (act.value docket.ledger).phase
  reserved : ∀ d, old.claimed? = some d → d ∈ course.reserved
  harmless : course.Notified ∨ old.shown? = none ∧ old.recorded? = none ∧ course.Quiet ∧
    act.Enters (¬ ·.Alters) ∧ act.value docket.ledger ≠ .ends (some (.ok true))

namespace Turn

variable {docket : Docket} {course : Course} {old : Phase} {act : Act Ledger Standing}

private theorem mem_reserved (h : docket.Turn course old act) {d : Text}
    (hd : (act.value docket.ledger).phase.claimed? = some d) :
    d ∈ (docket.account course act).reserved := by
  have hm := h.move
  have kept (hd : old.claimed? = some d) : d ∈ (docket.account course act).reserved :=
    List.mem_append_left _ (h.reserved d hd)
  generalize (act.value docket.ledger).phase = q at hm hd
  cases hm with
  | stay _ _ _ => exact kept hd
  | present _ _ => exact kept hd
  | claim e _ he _ hf _ ha =>
    cases he.symm.trans hd
    refine List.mem_append_right _ (List.mem_filter.mpr ⟨?_, by simpa using hf⟩)
    rw [ha.inFlight]
    exact Ledger.mem_claim.mpr (.inr rfl)
  | drop _ _ => cases hd
  | record _ _ hq _ _ _ => rcases hq with rfl | rfl <;> cases hd
  | leave _ _ => cases hd

/-- An attempt that has asked for no notification after a step has altered nothing, and does not
say that one was shown. -/
private theorem unheard (h : docket.Turn course old act) :
    (docket.account course act).Notified ∨
      (act.value docket.ledger).phase.shown? = none ∧
        (act.value docket.ledger).phase.recorded? = none ∧
          (docket.account course act).Quiet ∧
            act.value docket.ledger ≠ .ends (some (.ok true)) := by
  rcases h.harmless with ⟨message, hn⟩ | ⟨hs, hr, hquiet, hacts, hverdict⟩
  · exact .inl ⟨message, List.mem_append_left _ hn⟩
  · have hr' := h.move.recorded?_eq_none hs hr
    have quiet (hqueries : ∀ entry ∈ (act.value docket.ledger).queries course.attempt,
        ¬ entry.Alters) : (docket.account course act).Quiet := by
      intro entry hm
      rcases List.mem_append.mp hm with hm | hm
      · exact hquiet entry hm
      · rcases List.mem_append.mp hm with hm | hm
        · exact hacts docket.ledger entry hm
        · exact hqueries entry hm
    have asked (message : Message)
        (hm : .asked (.notification message) ∈ (act.value docket.ledger).queries course.attempt) :
        (docket.account course act).Notified :=
      ⟨message, List.mem_append_right _ (List.mem_append_right _ hm)⟩
    generalize act.value docket.ledger = standing at quiet asked hr' hverdict
    cases standing with
    | ends verdict => exact .inr ⟨rfl, rfl, quiet nofun, hverdict⟩
    | goes stage =>
      cases stage with
      | resolving => exact .inr ⟨rfl, rfl, quiet (List.forall_mem_singleton.mpr id), hverdict⟩
      | gathering _ _ _ _ _ _ =>
        exact .inr ⟨rfl, rfl, quiet (List.forall_mem_singleton.mpr id), hverdict⟩
      | showing _ rule => exact .inl (asked rule.message List.mem_cons_self)
      | allowing _ => cases hr'
      | reloading _ => cases hr'

private theorem sound_put (h : docket.Turn course old act) (hs : docket.Sound)
    {before after : List (Course × Stage)} (hothers : ∀ m ∈ before ++ after, m ∈ docket.running)
    (hold : ∀ m ∈ docket.running, m ∈ before ++ after ∨ m.2.phase = old) :
    (docket.put before after course act).Sound := by
  have hreserved (d : Text) := h.mem_reserved (d := d)
  have hunheard := h.unheard
  have hclaimed (d : Text) (hd : d ∈ (act.state docket.ledger).inFlight) :
      (∃ m ∈ before ++ after, m.2.phase.claimed? = some d) ∨
        (act.value docket.ledger).phase.claimed? = some d := by
    rcases h.move.mem_inFlight hd with ⟨hd, hne⟩ | ⟨hq, _⟩
    · obtain ⟨m, hm, hc⟩ := hs.claimed d hd
      rcases hold m hm with hm | hp
      · exact .inl ⟨m, hm, hc⟩
      · exact absurd (hp ▸ hc) hne
    · exact .inr hq
  unfold put
  generalize docket.account course act = course' at hreserved hunheard
  generalize act.value docket.ledger = standing at hreserved hunheard hclaimed
  cases standing with
  | goes stage =>
    have hmem {m : Course × Stage} :
        m ∈ before ++ (course', stage) :: after ↔ m = (course', stage) ∨ m ∈ before ++ after := by
      simp only [List.mem_append, List.mem_cons]
      exact or_left_comm
    constructor
    · intro d hd
      rcases hclaimed d hd with ⟨m, hm, hc⟩ | hc
      · exact ⟨m, hmem.mpr (.inr hm), hc⟩
      · exact ⟨_, hmem.mpr (.inl rfl), hc⟩
    · intro m hm d hd
      rcases hmem.mp hm with rfl | hm
      · exact hreserved d hd
      · exact hs.reserved m (hothers m hm) d hd
    · intro m hm
      rcases hmem.mp hm with rfl | hm
      · exact hunheard.imp id fun hu => ⟨hu.1, hu.2.1, hu.2.2.1⟩
      · exact hs.unheard m (hothers m hm)
    · exact hs.finished
  | ends verdict =>
    constructor
    · intro d hd
      rcases hclaimed d hd with hm | hc
      · exact hm
      · cases hc
    · exact fun m hm => hs.reserved m (hothers m hm)
    · exact fun m hm => hs.unheard m (hothers m hm)
    · intro o ho
      rcases List.mem_append.mp ho with ho | ho
      · exact hs.finished o ho
      · rw [List.mem_singleton.mp ho]
        exact hunheard.imp id fun hu => ⟨fun hv => hu.2.2.2 (congrArg Standing.ends hv), hu.2.2.1⟩

end Turn

section Step

variable {docket : Docket} {place : Nat} {course : Course} {stage : Stage}

private theorem Turn.sound_place {act : Act Ledger Standing}
    (h : docket.Turn course stage.phase act)
    (hs : docket.Sound) (hp : docket.running[place]? = some (course, stage)) :
    (docket.put (docket.running.take place) (docket.running.drop (place + 1)) course
      act).Sound := by
  obtain ⟨hl, he⟩ := List.getElem?_eq_some_iff.mp hp
  have hsplit : docket.running =
      docket.running.take place ++ (course, stage) :: docket.running.drop (place + 1) := by
    rw [← he, List.getElem_cons_drop, List.take_append_drop]
  apply h.sound_put hs
  · intro m hm
    rcases List.mem_append.mp hm with hm | hm
    · exact List.mem_of_mem_take hm
    · exact List.mem_of_mem_drop hm
  · intro m hm
    rw [hsplit] at hm
    rcases List.mem_append.mp hm with hm | hm
    · exact .inl (List.mem_append_left _ hm)
    · rcases List.mem_cons.mp hm with rfl | hm
      · exact .inr rfl
      · exact .inl (List.mem_append_right _ hm)

private theorem turn_of_harmless (hs : docket.Sound) (hm : (course, stage) ∈ docket.running)
    {act : Act Ledger Standing}
    (hmove : Move docket.ledger (act.state docket.ledger) stage.phase
      (act.value docket.ledger).phase)
    (hacts : stage.phase.shown? = none → stage.phase.recorded? = none →
      act.Enters (¬ ·.Alters) ∧ act.value docket.ledger ≠ .ends (some (.ok true))) :
    docket.Turn course stage.phase act where
  move := hmove
  reserved := hs.reserved _ hm
  harmless := (hs.unheard _ hm).imp id fun hu =>
    ⟨hu.1, hu.2.1, hu.2.2, hacts hu.1 hu.2.1⟩

private theorem move_ofProgress {act : Act Ledger Progress} {l : Ledger} {p : Phase}
    (h : Move l (act.state l) p (act.value l).phase) :
    Move l ((Standing.ofProgress <$> act).state l) p
      ((Standing.ofProgress <$> act).value l).phase := by
  have hp : (Standing.ofProgress (act.value l)).phase = (act.value l).phase := by
    cases act.value l <;> rfl
  change Move l (act.state l) p (Standing.ofProgress (act.value l)).phase
  rwa [hp]

private theorem harmless_ofProgress {act : Act Ledger Progress} (h : Harmless act) (l : Ledger) :
    (Standing.ofProgress <$> act).Enters (¬ ·.Alters) ∧
      (Standing.ofProgress <$> act).value l ≠ .ends (some (.ok true)) := by
  refine ⟨.bind h.quiet fun _ => .pure _, ?_⟩
  have hv := h.verdict l
  change Standing.ofProgress (act.value l) ≠ _
  intro he
  cases hp : act.value l with
  | waiting stage =>
    rw [hp] at he
    cases he
  | ended verdict =>
    rw [hp] at he hv
    exact hv (congrArg Progress.ended (Option.some.inj (Standing.ends.inj he)))

private theorem quiet_abandon (hs : stage.phase.shown? = none) :
    (abandon stage).Enters (¬ ·.Alters) := by
  cases stage with
  | resolving => exact .pure _
  | gathering _ _ _ _ _ _ => exact .modify _
  | showing _ _ => cases hs
  | allowing _ => exact .modify _
  | reloading _ => exact .modify _

end Step

/-- Every event keeps a docket sound. -/
theorem Sound.step (policy : Policy) {docket : Docket} (h : docket.Sound) (e : Event) :
    (docket.step policy e).Sound := by
  cases e with
  | began attempt fault =>
    have hm := move_ofProgress (move_beginUnder fault policy attempt docket.ledger)
    have hacts := harmless_ofProgress (.beginUnder fault policy attempt) docket.ledger
    have hquiet : Course.Quiet { attempt } := fun _ he => nomatch he
    refine Turn.sound_put ⟨hm, nofun, .inr ⟨rfl, rfl, hquiet, hacts⟩⟩ h ?_ ?_
    · intro m hm
      rwa [List.append_nil] at hm
    · intro m hm
      rw [List.append_nil]
      exact .inl hm
  | replied place reply fault =>
    cases hp : docket.running[place]? with
    | none =>
      simp only [Docket.step, hp]
      exact h
    | some m =>
      obtain ⟨course, stage⟩ := m
      simp only [Docket.step, hp]
      refine (turn_of_harmless h (List.mem_of_getElem? hp) ?_ fun hs hr => ?_).sound_place h hp
      · exact move_ofProgress (move_resumeUnder _ _ _ _ _ _)
      · exact harmless_ofProgress (.resumeUnder hs hr _) _
  | abandoned place =>
    cases hp : docket.running[place]? with
    | none =>
      simp only [Docket.step, hp]
      exact h
    | some m =>
      obtain ⟨course, stage⟩ := m
      simp only [Docket.step, hp]
      refine (turn_of_harmless h (List.mem_of_getElem? hp) ?_ fun hs _ => ?_).sound_place h hp
      · exact move_abandon stage docket.ledger
      · exact ⟨.bind (quiet_abandon hs) fun _ => .pure _, nofun⟩
  | cleared =>
    refine ⟨?_, h.reserved, h.unheard, h.finished⟩
    intro d hd
    apply h.claimed d
    rwa [← Ledger.inFlight_clear]

/-- Every run keeps a docket sound. -/
theorem Sound.run (policy : Policy) {docket : Docket} (h : docket.Sound) (events : List Event) :
    (docket.run policy events).Sound := by
  induction events generalizing docket with
  | nil => exact h
  | cons e rest ih => exact ih (h.step policy e)

/-- Whatever the store holds and whichever of its calls fail, whatever replies come, whichever
conditions fail for any cause, and whenever attempts are broken off and the domains told of are
cleared: a domain is in flight only while an attempt that reserved it goes on, so that none is when
no attempt goes on; and an attempt that is over without having asked for a notification does not say
that one was shown, and has neither written to the store nor exempted a URL nor reloaded a tab. -/
theorem reservations_end_with_attempts (policy : Policy) (store : Store) (events : List Event) :
    let docket := run policy { ledger := { store } } events
    (∀ d ∈ docket.ledger.inFlight,
      ∃ m ∈ docket.running, d ∈ m.1.reserved ∧ m.2.phase.claimed? = some d) ∧
      (docket.running = [] → docket.ledger.inFlight = []) ∧
        ∀ o ∈ docket.finished, ¬ o.1.Notified → o.2 ≠ some (.ok true) ∧ o.1.Quiet := by
  intro docket
  have h : docket.Sound := (sound_start store).run policy events
  refine ⟨?_, ?_, ?_⟩
  · intro d hd
    obtain ⟨m, hm, hc⟩ := h.claimed d hd
    exact ⟨m, hm, h.reserved m hm d hc, hc⟩
  · intro hnone
    apply List.eq_nil_iff_forall_not_mem.mpr
    intro d hd
    obtain ⟨m, hm, _⟩ := h.claimed d hd
    rw [hnone] at hm
    cases hm
  · intro o ho hn
    exact (h.finished o ho).resolve_left hn

end Docket

end BreakageAdvisor
