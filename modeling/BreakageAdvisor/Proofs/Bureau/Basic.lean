import BreakageAdvisor.Host
import BreakageAdvisor.Proofs.Advisor

/-!
# Bureaus

A host with all its tasks, where anything may come between two steps. Every query is a point where
a task waits; its reply may be there long before the task goes on. A message is carried out before
the listeners are told of its event, and the handlers of the event begin after that, in any order.
-/

namespace BreakageAdvisor

namespace Host

/-- A handler of the browser's activity keeps the frame, and rebuilds no rules. -/
theorem handler_aside {event : Event} (hactivation : ∀ enabled, event ≠ .activation enabled)
    (hcatalog : ∀ t, event ≠ .catalog t) (setting : Setting) (a : Advisor) :
    ((handler event setting).state a).frame = a.frame ∧
      ((handler event setting).value a).Aside := by
  cases event with
  | activation enabled => exact absurd rfl (hactivation enabled)
  | catalog t => exact absurd rfl (hcatalog t)
  | tabUpdated update =>
    exact ⟨Advisor.untouched_frame.handler _ _ a, Advisor.aside_handled _ _ _⟩
  | tabActivated tab =>
    exact ⟨Advisor.untouched_frame.handler _ _ a, Advisor.aside_handled _ _ _⟩
  | request event =>
    exact ⟨Advisor.untouched_frame.handler _ _ a, Advisor.aside_handled _ _ _⟩

end Host

/-- A task that waits for a reply, which may be there already. -/
structure Bureau.Pending where
  task : Task
  reply? : Option task.query.Reply := none

/-- A host with all its tasks. -/
structure Bureau where
  host : Host
  /-- The events of messages that were carried out, of which the listeners are yet to be told. -/
  due : List Event := []
  /-- The event of each handler that has not begun. -/
  ready : List Event := []
  /-- The tasks that wait for replies. -/
  waiting : List Bureau.Pending := []
  /-- The rebuilds that wait for their numbers to be called. -/
  queued : List (Nat × Rebuild.Purpose) := []

/-- A list around one of its places. -/
theorem exists_around {α : Type} {l : List α} {place : Nat} {a : α} (h : l[place]? = some a) :
    ∃ before after, l = before ++ a :: after ∧ l.eraseIdx place = before ++ after ∧
      ∀ a', l.set place a' = before ++ a' :: after := by
  obtain ⟨hl, rfl⟩ := List.getElem?_eq_some_iff.mp h
  refine ⟨l.take place, l.drop (place + 1), ?_, l.eraseIdx_eq_take_drop_succ place, fun a' => ?_⟩
  · rw [List.getElem_cons_drop, List.take_append_drop]
  · rw [List.set_eq_take_append_cons_drop, if_pos hl]

namespace Bureau

/-- A host whose activator was not started. -/
def opened (host : Host) : Bureau where
  host := { host with advisor := { host.advisor with book := {}, activator := {} } }

/-- What may happen. -/
inductive Step where
  /-- The activator is started. -/
  | started
  /-- The activator is stopped. -/
  | stopped
  /-- A message is carried out. -/
  | received (inbound : Inbound)
  /-- The listeners are told of the oldest event that is due. -/
  | told
  /-- The handler at a place begins. -/
  | began (place : Nat)
  /-- The number of the rebuild at a place is called. -/
  | called (place : Nat)
  /-- A reply comes for the task at a place. -/
  | answered (place : Nat) (reply : (query : Query) → query.Reply)
  /-- The task at a place goes on with its reply. -/
  | resumed (place : Nat)

section Steps

variable (b : Bureau)

/-- The configured catalog of a trigger, as it is stored. -/
def stored (t : Trigger) : Json := (b.host.preferences.catalog t.name).1

/-- The reply to a query. What is read of the catalogs is what there is, unless reading fails. -/
def replyTo (reply : (query : Query) → query.Reply) : (query : Query) → query.Reply
  | .bundled t => b.host.bundled.get t
  | .configured t => (reply (.configured t)).map fun _ => b.stored t
  | query => reply query

/-- A task that has come so far takes its place. -/
def put : Task.Progress → Bureau
  | .ended _ => b
  | .waiting task => { b with waiting := b.waiting ++ [{ task }] }
  | .queued number purpose => { b with queued := b.queued ++ [(number, purpose)] }

/-- A task begins or goes on. -/
def perform (act : Act Advisor Task.Progress) : Bureau :=
  { b with host := (Host.onAdvisor act).state b.host }.put (act.value b.host.advisor)

/-- A message is carried out, and the event that it causes is due. -/
def receive (inbound : Inbound) : Bureau :=
  let taken := Host.onBridge (Bridge.receive inbound)
  let event? := match taken.value b.host with
    | .ok event? => event?
    | .error _ => none
  { b with host := taken.state b.host, due := b.due ++ event?.toList }

/-- The listeners are told of the oldest event that is due. -/
def tell : Bureau :=
  match b.due with
  | [] => b
  | event :: rest =>
    { b with
      due := rest
      ready := b.ready ++ (b.host.listenersOf event).map fun _ => event }

/-- The handler at a place begins. -/
def begin (place : Nat) : Bureau :=
  match b.ready[place]? with
  | none => b
  | some event =>
    { b with ready := b.ready.eraseIdx place }.perform (Host.handler event b.host.setting)

/-- The number of the rebuild at a place is called. -/
def call (place : Nat) : Bureau :=
  match b.queued[place]? with
  | none => b
  | some (number, purpose) =>
    { b with queued := b.queued.eraseIdx place }.perform
      (Advisor.call b.host.setting number purpose)

/-- A reply comes for the task at a place, if it waits for one. -/
def answer (place : Nat) (reply : (query : Query) → query.Reply) : Bureau :=
  match b.waiting[place]? with
  | some ⟨task, none⟩ =>
    { b with waiting := b.waiting.set place ⟨task, some (b.replyTo reply task.query)⟩ }
  | _ => b

/-- The task at a place goes on with its reply, if it has one. -/
def resume (place : Nat) : Bureau :=
  match b.waiting[place]? with
  | some ⟨task, some reply⟩ =>
    { b with waiting := b.waiting.eraseIdx place }.perform
      (Advisor.resume b.host.setting task reply)
  | _ => b

/-- The bureau after a step. -/
def step : Step → Bureau
  | .started => b.perform (Advisor.start b.host.setting)
  | .stopped => { b with host := (Host.onAdvisor Advisor.stop).state b.host }
  | .received inbound => b.receive inbound
  | .told => b.tell
  | .began place => b.begin place
  | .called place => b.call place
  | .answered place reply => b.answer place reply
  | .resumed place => b.resume place

/-- The bureau after steps, one after the other. -/
def run (steps : List Step) : Bureau := steps.foldl step b

/-- A run goes on where its beginning leads. -/
theorem run_append (front back : List Step) : b.run (front ++ back) = (b.run front).run back :=
  List.foldl_append

@[simp] theorem host_put (progress : Task.Progress) : (b.put progress).host = b.host := by
  cases progress <;> rfl

@[simp] theorem due_put (progress : Task.Progress) : (b.put progress).due = b.due := by
  cases progress <;> rfl

@[simp] theorem ready_put (progress : Task.Progress) : (b.put progress).ready = b.ready := by
  cases progress <;> rfl

/-- A task changes only the advisor, and takes its place. -/
@[simp]
theorem host_perform (act : Act Advisor Task.Progress) :
    (b.perform act).host = { b.host with advisor := act.state b.host.advisor } :=
  host_put ..

@[simp] theorem due_perform (act : Act Advisor Task.Progress) : (b.perform act).due = b.due :=
  due_put ..

@[simp]
theorem ready_perform (act : Act Advisor Task.Progress) : (b.perform act).ready = b.ready :=
  ready_put ..

section Places

variable {b} {place : Nat}

/-- Nothing is to be told. -/
theorem step_told_of_nil (h : b.due = []) : b.step .told = b := by
  change b.tell = b
  rw [tell, h]

/-- The listeners are told of the oldest event that is due, and are going to handle it. -/
theorem step_told_of_cons {event : Event} {rest : List Event} (h : b.due = event :: rest) :
    b.step .told =
      { b with
        due := rest
        ready := b.ready ++ (b.host.listenersOf event).map fun _ => event } := by
  change b.tell = _
  rw [tell, h]

/-- A handler that is not there does not begin. -/
theorem step_began_of_none (h : b.ready[place]? = none) : b.step (.began place) = b := by
  change b.begin place = b
  rw [begin, h]

/-- The handler of an event leaves its place and begins. -/
theorem step_began_of_some {event : Event} (h : b.ready[place]? = some event) :
    b.step (.began place) =
      { b with ready := b.ready.eraseIdx place }.perform
        (Host.handler event b.host.setting) := by
  change b.begin place = _
  rw [begin, h]

/-- A rebuild that is not in the queue is not called. -/
theorem step_called_of_none (h : b.queued[place]? = none) : b.step (.called place) = b := by
  change b.call place = b
  rw [call, h]

/-- A rebuild leaves its place in the queue and is called. -/
theorem step_called_of_some {number : Nat} {purpose : Rebuild.Purpose}
    (h : b.queued[place]? = some (number, purpose)) :
    b.step (.called place) =
      { b with queued := b.queued.eraseIdx place }.perform
        (Advisor.call b.host.setting number purpose) := by
  change b.call place = _
  rw [call, h]

/-- A task without a reply does not go on. -/
theorem step_resumed_of_ne (h : ∀ task reply, b.waiting[place]? ≠ some ⟨task, some reply⟩) :
    b.step (.resumed place) = b := by
  change b.resume place = b
  unfold resume
  split
  · next task reply he => exact absurd he (h task reply)
  · rfl

/-- A task with its reply leaves its place and goes on. -/
theorem step_resumed_of_some {task : Task} {reply : task.query.Reply}
    (h : b.waiting[place]? = some ⟨task, some reply⟩) :
    b.step (.resumed place) =
      { b with waiting := b.waiting.eraseIdx place }.perform
        (Advisor.resume b.host.setting task reply) := by
  change b.resume place = _
  rw [resume, h]

variable {replies : (query : Query) → query.Reply}

/-- A reply for which no task waits is passed over. -/
theorem step_answered_of_ne (h : ∀ task, b.waiting[place]? ≠ some ⟨task, none⟩) :
    b.step (.answered place replies) = b := by
  change b.answer place replies = b
  unfold answer
  split
  · next task he => exact absurd he (h task)
  · rfl

/-- A task gets its reply. -/
theorem step_answered_of_some {task : Task} (h : b.waiting[place]? = some ⟨task, none⟩) :
    b.step (.answered place replies) =
      { b with waiting := b.waiting.set place ⟨task, some (b.replyTo replies task.query)⟩ } := by
  change b.answer place replies = _
  rw [answer, h]

end Places

end Steps

/-- What a step may do to the events, and to the host around the advisor. -/
inductive Flow (b : Bureau) (s : Step) (b' : Bureau) : Prop
  /-- A message is carried out. -/
  | received (inbound : Inbound) (hs : s = .received inbound) (hb : b' = b.receive inbound)
  /-- The listeners are told of an event. -/
  | told (event : Event) (rest : List Event) (hs : s = .told) (hd : b.due = event :: rest)
      (hb : b' = { b with
        due := rest
        ready := b.ready ++ (b.host.listenersOf event).map fun _ => event })
  /-- The handler of an event begins. -/
  | began (place : Nat) (event : Event) (hs : s = .began place)
      (hp : b.ready[place]? = some event) (hr : b'.ready = b.ready.eraseIdx place)
      (hd : b'.due = b.due) (hh : ∃ advisor, b'.host = { b.host with advisor })
  /-- Nothing. -/
  | inside (hs : ∀ inbound, s ≠ .received inbound)
      (hp : ∀ place, s = .began place → b.ready[place]? = none) (hr : b'.ready = b.ready)
      (hd : b'.due = b.due) (hh : ∃ advisor, b'.host = { b.host with advisor })

/-- Only a message changes more of the host than the advisor, and events become due, are told and
are handled. -/
theorem flow_step (b : Bureau) (s : Step) : b.Flow s (b.step s) := by
  have hsame (hs : ∀ inbound, s ≠ .received inbound)
      (hp : ∀ place, s = .began place → b.ready[place]? = none) : b.Flow s b :=
    .inside hs hp rfl rfl ⟨b.host.advisor, rfl⟩
  have hperform {rest : Bureau} (act : Act Advisor Task.Progress)
      (hs : ∀ inbound, s ≠ .received inbound) (hp : ∀ place, s ≠ .began place)
      (hr : rest.ready = b.ready) (hd : rest.due = b.due) (hh : rest.host = b.host) :
      b.Flow s (rest.perform act) := by
    refine .inside hs (fun place he => absurd he (hp place)) ?_ ?_
      ⟨act.state b.host.advisor, ?_⟩
    · rw [ready_perform, hr]
    · rw [due_perform, hd]
    · rw [host_perform, hh]
  cases s with
  | started =>
    exact @hperform b _ (fun _ => Step.noConfusion) (fun _ => Step.noConfusion) rfl rfl rfl
  | stopped =>
    exact .inside (fun _ => Step.noConfusion) (fun _ => Step.noConfusion) rfl rfl ⟨_, rfl⟩
  | received inbound => exact .received inbound rfl rfl
  | told =>
    cases hd : b.due with
    | nil =>
      rw [step_told_of_nil hd]
      exact hsame (fun _ => Step.noConfusion) (fun _ => Step.noConfusion)
    | cons event rest => exact .told event rest rfl hd (step_told_of_cons hd)
  | began place =>
    cases hp : b.ready[place]? with
    | none =>
      rw [step_began_of_none hp]
      exact hsame (fun _ => Step.noConfusion) fun place' he => Step.began.inj he ▸ hp
    | some event =>
      rw [step_began_of_some hp]
      exact .began place event rfl hp (ready_perform ..) (due_perform ..) ⟨_, host_perform ..⟩
  | called place =>
    cases hp : b.queued[place]? with
    | none =>
      rw [step_called_of_none hp]
      exact hsame (fun _ => Step.noConfusion) (fun _ => Step.noConfusion)
    | some entry =>
      rw [step_called_of_some hp]
      exact hperform _ (fun _ => Step.noConfusion) (fun _ => Step.noConfusion) rfl rfl rfl
  | answered place reply =>
    by_cases hp : ∃ task, b.waiting[place]? = some ⟨task, none⟩
    · obtain ⟨task, hp⟩ := hp
      rw [step_answered_of_some hp]
      exact .inside (fun _ => Step.noConfusion) (fun _ => Step.noConfusion) rfl rfl
        ⟨b.host.advisor, rfl⟩
    · rw [step_answered_of_ne fun task h => hp ⟨task, h⟩]
      exact hsame (fun _ => Step.noConfusion) (fun _ => Step.noConfusion)
  | resumed place =>
    by_cases hp : ∃ task reply, b.waiting[place]? = some ⟨task, some reply⟩
    · obtain ⟨task, reply, hp⟩ := hp
      rw [step_resumed_of_some hp]
      exact hperform _ (fun _ => Step.noConfusion) (fun _ => Step.noConfusion) rfl rfl rfl
    · rw [step_resumed_of_ne fun task reply h => hp ⟨task, reply, h⟩]
      exact hsame (fun _ => Step.noConfusion) (fun _ => Step.noConfusion)

/-- Only a message changes more of the host than the advisor. -/
theorem host_step (b : Bureau) {s : Step} (hs : ∀ inbound, s ≠ .received inbound) :
    ∃ advisor, (b.step s).host = { b.host with advisor } := by
  cases flow_step b s with
  | received inbound he _ => exact absurd he (hs inbound)
  | told event rest _ _ hb =>
    rw [hb]
    exact ⟨b.host.advisor, rfl⟩
  | began place event _ _ _ _ hh => exact hh
  | inside _ _ _ _ hh => exact hh

/-- What stays the same of a host: the policy, whether it is in test mode, and the bundled
catalogs. -/
def fixed (b : Bureau) : Policy × Bool × PerTrigger (Except Failure Json) :=
  (b.host.policy, b.host.testMode, b.host.bundled)

/-- The policy, the test mode and the bundled catalogs are what they were. -/
theorem fixed_step (b : Bureau) (s : Step) : (b.step s).fixed = b.fixed := by
  by_cases hs : ∃ inbound, s = .received inbound
  · obtain ⟨inbound, rfl⟩ := hs
    rfl
  · obtain ⟨advisor, hadvisor⟩ := host_step b fun inbound he => hs ⟨inbound, he⟩
    rw [fixed, hadvisor]
    rfl

/-- The reply to a read of a configured catalog: what there is, or a failure. -/
def readable (works : Bool) : (query : Query) → query.Reply
  | .configured _ => if works then .ok .null else .error .storeUnavailable
  | _ => .error .tabGone

/-- A rebuild reads the catalog that it waits for, and goes on. -/
def reads (works : Bool) : List Step := [.answered 0 (readable works), .resumed 0]

end Bureau

end BreakageAdvisor
