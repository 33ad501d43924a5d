import BreakageAdvisor.Subscription
import BreakageAdvisor.Proofs.Act
import Mathlib.Data.List.Forall2

/-!
# Releases that use their subscription

What a subscription releases may itself add to the subscription or close it. `Executes` says what
happens then, as one call leads to others, without supposing that a release finds the subscription
closed. Every course with a new subscription has exactly one execution, `Course.run` computes it,
and in it the first closing releases all that was added before, the latest first, while what is
added from then on is released at once.
-/

namespace BreakageAdvisor

namespace Subscription

/-- A call, with all that happened inside it. -/
inductive Event where
  | added (release : Release) (inside : List Event)
  | closed (inside : List Event)
  | released (release : Release) (inside : List Event)

namespace Event

mutual

/-- The marks left during an event. -/
def marks : Event → List Text
  | added _ inside => marksOfAll inside
  | closed inside => marksOfAll inside
  | released r inside => r.mark :: marksOfAll inside

/-- The marks left during some events. -/
def marksOfAll : List Event → List Text
  | [] => []
  | e :: rest => marks e ++ marksOfAll rest

end

end Event

/-- What is being carried out. -/
inductive Command where
  /-- A course is taken. -/
  | go (course : Course)
  | add (release : Release)
  | close
  /-- What the subscription holds is released. -/
  | drain

/-- A command leads from a subscription to another; what happens meanwhile, and what the command
gives. -/
inductive Executes :
    Command → Subscription Release → List Event → Except Failure Unit → Subscription Release → Prop
  | finish {s} : Executes (.go .finish) s [] (.ok ()) s
  | fail {s cause} : Executes (.go (.fail cause)) s [] (.error cause) s
  /-- A course that closes goes on if closing gives no failure. -/
  | closeNext {s s' s'' next events others result} :
      Executes .close s events (.ok ()) s' → Executes (.go next) s' others result s'' →
      Executes (.go (.close next)) s (events ++ others) result s''
  | closeFails {s s' next events cause} :
      Executes .close s events (.error cause) s' →
      Executes (.go (.close next)) s events (.error cause) s'
  | addNext {s s' s'' mark course next events others given result} :
      Executes (.add ⟨mark, course⟩) s events given s' →
      Executes (.go (next given)) s' others result s'' →
      Executes (.go (.add mark course next)) s (events ++ others) result s''
  | addOpen {s r} :
      s.closed = false →
      Executes (.add r) s [.added r []] (.ok ()) { s with held := r :: s.held }
  /-- What is added late is released, and its failure is passed on. -/
  | addClosed {s s' r events result} :
      s.closed = true → Executes (.go r.course) s events result s' →
      Executes (.add r) s [.added r [.released r events]] result s'
  | closeClosed {s} : s.closed = true → Executes .close s [.closed []] (.ok ()) s
  | closeOpen {s s' events result} :
      s.closed = false → Executes .drain { s with closed := true } events result s' →
      Executes .close s [.closed events] result s'
  | drainEmpty {s} : s.held = [] → Executes .drain s [] (.ok ()) s
  /-- The latest that is held is released first. Its failure stops nothing. -/
  | drainNext {s s' s'' r rest events others given result} :
      s.held = r :: rest → Executes (.go r.course) { s with held := rest } events given s' →
      Executes .drain s' others result s'' →
      Executes .drain s (.released r events :: others) result s''

/-- What happens with a subscription that is closed: what is added is released at once, and only
then anything is released; closing does nothing. -/
inductive Late : Event → Prop
  | added {r inside} : (∀ e ∈ inside, Late e) → Late (.added r [.released r inside])
  | closed : Late (.closed [])

/-- A release ran as it does on a closed subscription. -/
def Ran (r : Release) (e : Event) : Prop := ∃ inside, e = .released r inside ∧ ∀ e ∈ inside, Late e

/-- What happens with an open subscription that holds something. Before the first closing everything
is only added. The first closing releases all that, the latest first, and then what was held
before. -/
inductive Orderly (held : List Release) : List Event → Prop
  | unclosed (early : List Release) : Orderly held (early.map (.added · []))
  | closed (early : List Release) {inside after : List Event} :
      List.Forall₂ Ran (early.reverse ++ held) inside → (∀ e ∈ after, Late e) →
      Orderly held (early.map (.added · []) ++ .closed inside :: after)

private theorem Orderly.added {r : Release} {held : List Release} {events : List Event}
    (h : Orderly (r :: held) events) : Orderly held (.added r [] :: events) := by
  cases h with
  | unclosed early => exact .unclosed (r :: early)
  | closed early hran hlate =>
    refine .closed (r :: early) ?_ hlate
    rwa [List.reverse_cons, List.append_assoc, List.singleton_append]

namespace Executes

variable {s s' : Subscription Release} {events : List Event} {result : Except Failure Unit}

/-- A command is carried out in one way only. -/
theorem unique {command : Command} {s₂ : Subscription Release} {events₂ : List Event}
    {result₂ : Except Failure Unit} (h : Executes command s events result s')
    (h₂ : Executes command s events₂ result₂ s₂) :
    events₂ = events ∧ result₂ = result ∧ s₂ = s' := by
  -- The other execution ends in the same rule: its rules are told apart by the command, by whether
  -- the subscription is closed, and by what the inner executions give.
  induction h generalizing events₂ result₂ s₂ with
  | finish =>
    cases h₂
    exact ⟨rfl, rfl, rfl⟩
  | fail =>
    cases h₂
    exact ⟨rfl, rfl, rfl⟩
  | closeNext _ _ ihc ihn =>
    cases h₂ with
    | closeNext hc hn =>
      obtain ⟨rfl, -, rfl⟩ := ihc hc
      obtain ⟨rfl, rfl, rfl⟩ := ihn hn
      exact ⟨rfl, rfl, rfl⟩
    | closeFails hc => cases (ihc hc).2.1
  | closeFails _ ihc =>
    cases h₂ with
    | closeNext hc _ => cases (ihc hc).2.1
    | closeFails hc => exact ihc hc
  | addNext _ _ iha ihn =>
    cases h₂ with
    | addNext ha hn =>
      obtain ⟨rfl, rfl, rfl⟩ := iha ha
      obtain ⟨rfl, rfl, rfl⟩ := ihn hn
      exact ⟨rfl, rfl, rfl⟩
  | addOpen ho =>
    cases h₂ with
    | addOpen _ => exact ⟨rfl, rfl, rfl⟩
    | addClosed hc _ => cases ho.symm.trans hc
  | addClosed hc _ ih =>
    cases h₂ with
    | addOpen ho => cases ho.symm.trans hc
    | addClosed _ hr =>
      obtain ⟨rfl, rfl, rfl⟩ := ih hr
      exact ⟨rfl, rfl, rfl⟩
  | closeClosed hc =>
    cases h₂ with
    | closeClosed _ => exact ⟨rfl, rfl, rfl⟩
    | closeOpen ho _ => cases ho.symm.trans hc
  | closeOpen ho _ ih =>
    cases h₂ with
    | closeClosed hc => cases ho.symm.trans hc
    | closeOpen _ hd =>
      obtain ⟨rfl, rfl, rfl⟩ := ih hd
      exact ⟨rfl, rfl, rfl⟩
  | drainEmpty he =>
    cases h₂ with
    | drainEmpty _ => exact ⟨rfl, rfl, rfl⟩
    | drainNext hh _ _ => cases he.symm.trans hh
  | drainNext hh _ _ ihr ihd =>
    cases h₂ with
    | drainEmpty he => cases he.symm.trans hh
    | drainNext hh₂ hr hd =>
      cases hh.symm.trans hh₂
      obtain ⟨rfl, rfl, rfl⟩ := ihr hr
      obtain ⟨rfl, rfl, rfl⟩ := ihd hd
      exact ⟨rfl, rfl, rfl⟩

private theorem closing_ok {command : Command} (h : Executes command s events result s')
    (hc : command = .close ∨ command = .drain) : result = .ok () := by
  induction h with
  | closeClosed _ => rfl
  | drainEmpty _ => rfl
  | closeOpen _ _ ih => exact ih (.inr rfl)
  | drainNext _ _ _ _ ih => exact ih (.inr rfl)
  | finish | fail | closeNext | closeFails | addNext | addOpen | addClosed =>
    obtain hc | hc := hc <;> cases hc

/-- A course with a closed subscription runs as `Course.runClosed` says, and leaves the
subscription as it is. -/
private theorem exists_of_closed (course : Course) (hc : s.closed = true) : ∃ events result,
    Executes (.go course) s events result s ∧ (∀ e ∈ events, Late e) ∧
    ∀ marks, course.runClosed.value marks = result ∧
      course.runClosed.state marks = marks ++ Event.marksOfAll events := by
  induction course with
  | finish => exact ⟨[], .ok (), .finish, nofun, fun marks => ⟨rfl, (List.append_nil marks).symm⟩⟩
  | fail cause =>
    exact ⟨[], .error cause, .fail, nofun, fun marks => ⟨rfl, (List.append_nil marks).symm⟩⟩
  | close next ih =>
    obtain ⟨events, result, hx, hlate, hrun⟩ := ih
    exact ⟨.closed [] :: events, result, .closeNext (.closeClosed hc) hx,
      List.forall_mem_cons.mpr ⟨.closed, hlate⟩, hrun⟩
  | add mark course next ihc ihn =>
    obtain ⟨inside, given, hx, hlate, hrun⟩ := ihc
    obtain ⟨events, result, hxn, hlaten, hrunn⟩ := ihn given
    refine ⟨_, result, .addNext (.addClosed hc hx) hxn,
      List.forall_mem_cons.mpr ⟨.added hlate, hlaten⟩, ?_⟩
    intro marks
    obtain ⟨hv, hs⟩ := hrun (marks ++ [mark])
    obtain ⟨hvn, hsn⟩ := hrunn (marks ++ [mark] ++ Event.marksOfAll inside)
    simp only [Course.runClosed, Act.value_bind, Act.state_bind, Act.state_modify, hv, hs]
    refine ⟨hvn, hsn.trans ?_⟩
    simp [Event.marksOfAll, Event.marks]

private theorem exists_drain (held : List Release) : ∃ events,
    Executes .drain ⟨held, true⟩ events (.ok ()) ⟨[], true⟩ ∧ List.Forall₂ Ran held events ∧
    ∀ marks, (releaseAll Release.run held).state marks = marks ++ Event.marksOfAll events := by
  induction held with
  | nil => exact ⟨[], .drainEmpty rfl, .nil, fun marks => (List.append_nil marks).symm⟩
  | cons r rest ih =>
    obtain ⟨inside, given, hx, hlate, hrun⟩ :=
      exists_of_closed (s := ⟨rest, true⟩) r.course rfl
    obtain ⟨events, hd, hran, hrest⟩ := ih
    refine ⟨.released r inside :: events, .drainNext rfl hx hd, .cons ⟨inside, rfl, hlate⟩ hran, ?_⟩
    intro marks
    have hr : (r.run).state marks = marks ++ (r.mark :: Event.marksOfAll inside) := by
      refine (hrun (marks ++ [r.mark])).2.trans ?_
      rw [List.append_assoc, List.singleton_append]
    have hall : (releaseAll Release.run (r :: rest)).state marks =
        (releaseAll Release.run rest).state (r.run.state marks) := by
      simp only [releaseAll, Act.state_bind]
      cases r.run.value marks <;> rfl
    rw [hall, hrest, hr, Event.marksOfAll, Event.marks, List.append_assoc]

private theorem run_of_closed (course : Course) (hc : s.closed = true) (marks : List Text) :
    (course.run s).value marks = (s, course.runClosed.value marks) ∧
      (course.run s).state marks = course.runClosed.state marks := by
  induction course generalizing marks with
  | finish => exact ⟨rfl, rfl⟩
  | fail cause => exact ⟨rfl, rfl⟩
  | close next ih =>
    have hclose : (s.close Release.run : Act (List Text) _) = pure s := by rw [close, if_pos hc]
    rw [Course.run, hclose]
    exact ih marks
  | add mark course next _ ihn =>
    have hadd : s.add Release.run ⟨mark, course⟩ =
        (do return (s, ← Release.run ⟨mark, course⟩)) := by
      rw [add, if_pos hc]
    rw [Course.run, hadd]
    exact ihn _ _

private theorem exists_of_open (course : Course) (ho : s.closed = false) : ∃ events result s',
    Executes (.go course) s events result s' ∧ Orderly s.held events ∧
    ∀ marks, (course.run s).value marks = (s', result) ∧
      (course.run s).state marks = marks ++ Event.marksOfAll events := by
  induction course generalizing s with
  | finish =>
    exact ⟨[], .ok (), s, .finish, .unclosed [], fun marks =>
      ⟨rfl, (List.append_nil marks).symm⟩⟩
  | fail cause =>
    exact ⟨[], .error cause, s, .fail, .unclosed [], fun marks =>
      ⟨rfl, (List.append_nil marks).symm⟩⟩
  | close next _ =>
    obtain ⟨inside, hd, hran, hdrain⟩ := exists_drain s.held
    obtain ⟨after, result, hx, hlate, hrun⟩ := exists_of_closed (s := ⟨[], true⟩) next rfl
    refine ⟨.closed inside :: after, result, ⟨[], true⟩, .closeNext (.closeOpen ho hd) hx,
      .closed [] hran hlate, ?_⟩
    intro marks
    have hclose : s.close Release.run =
        (do releaseAll Release.run s.held; return ⟨[], true⟩) := by
      rw [close, if_neg (by simp [ho])]
    obtain ⟨hv, hs⟩ := run_of_closed (s := ⟨[], true⟩) next rfl (marks ++ Event.marksOfAll inside)
    obtain ⟨hrv, hrs⟩ := hrun (marks ++ Event.marksOfAll inside)
    simp only [Course.run, hclose, Act.value_bind, Act.state_bind, Act.value_pure, Act.state_pure,
      hdrain]
    refine ⟨by rw [hv, hrv], ?_⟩
    rw [hs, hrs, Event.marksOfAll, Event.marks, List.append_assoc]
  | add mark course next _ ihn =>
    have hadd : s.add Release.run ⟨mark, course⟩ =
        pure ({ s with held := ⟨mark, course⟩ :: s.held }, .ok ()) := by
      rw [add, if_neg (by simp [ho])]
    obtain ⟨events, result, s', hx, hshape, hrun⟩ :=
      ihn (.ok ()) (s := { s with held := ⟨mark, course⟩ :: s.held }) ho
    refine ⟨.added ⟨mark, course⟩ [] :: events, result, s', .addNext (.addOpen ho) hx,
      hshape.added, ?_⟩
    intro marks
    rw [Course.run, hadd]
    exact hrun marks

end Executes

/-- With a new subscription every course has one execution, whatever the releases do, and the
advisor's subscriptions run it so: closing never fails; the first closing releases all that was
added before it once, the latest first; what is added from then on is released once and at once;
and no later closing releases anything. -/
theorem closing_releases_once (course : Course) :
    (∀ s events result s', Executes .close s events result s' → result = .ok ()) ∧
    ∃ events result s,
      (∀ events' result' s', Executes (.go course) {} events' result' s' ↔
        events' = events ∧ result' = result ∧ s' = s) ∧
      Orderly [] events ∧
      ∀ marks, (course.run {}).value marks = (s, result) ∧
        (course.run {}).state marks = marks ++ Event.marksOfAll events := by
  refine ⟨fun _ _ _ _ h => h.closing_ok (.inl rfl), ?_⟩
  obtain ⟨events, result, s, hx, hshape, hrun⟩ := Executes.exists_of_open (s := {}) course rfl
  refine ⟨events, result, s, ?_, hshape, hrun⟩
  intro events' result' s'
  constructor
  · exact hx.unique
  · rintro ⟨rfl, rfl, rfl⟩
    exact hx

end Subscription

end BreakageAdvisor
