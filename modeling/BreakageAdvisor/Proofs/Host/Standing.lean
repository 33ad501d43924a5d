import BreakageAdvisor.Proofs.Advisor
import BreakageAdvisor.Proofs.Attempt.Phase
import BreakageAdvisor.Serving

/-!
# What work leaves alone

No task changes which calls to the store fail, and no work of the host ends serving: serving ends
only where the host takes what ends it.
-/

namespace BreakageAdvisor

namespace Advisor

/-- Which calls to the store fail. -/
def faults (advisor : Advisor) : Nat → StoreCall → Bool := advisor.ledger.store.fails

private theorem untouched_faults : Untouched faults where
  begin policy attempt a := (Attempt.move_begin policy attempt a.ledger).fails
  resume policy attempt stage reply a :=
    (Attempt.move_resume policy attempt stage reply a.ledger).fails
  deferred _ _ := rfl

private theorem keeps_onActivator {α : Type} (act : Act Activator α) :
    Act.Keeps faults (onActivator act) := fun _ => rfl

private theorem keeps_onBook {α : Type} (act : Act RuleBook α) : Act.Keeps faults (onBook act) :=
  fun _ => rfl

theorem keeps_rebuilt (setting : Setting) (purpose : Rebuild.Purpose)
    (progress : Rebuild.Progress) : Act.Keeps faults (rebuilt setting purpose progress) := by
  cases progress with
  | queued number => exact .pure _
  | waiting rebuild => exact .pure _
  | ended =>
    cases purpose with
    | rules => exact .pure _
    | start number => exact .bind (keeps_onActivator _) fun _ => .pure _

private theorem keeps_resume (setting : Setting) (task : Task) (reply : task.query.Reply) :
    Act.Keeps faults (resume setting task reply) := by
  cases task with
  | rebuilding rebuild purpose => exact .bind (keeps_onBook _) fun _ => keeps_rebuilt _ _ _
  | _ => exact untouched_faults.resume_of_ne _ _ _ nofun

end Advisor

namespace Bridge

/-- Which calls to the store fail. -/
def faults (bridge : Bridge) : Nat → StoreCall → Bool := bridge.store.fails

private theorem keeps_receive (inbound : Inbound) : Act.Keeps faults (receive inbound) := by
  have hmodify (f : Bridge → Bridge) (hf : ∀ b, (f b).store = b.store) :
      Act.Keeps faults (Act.modify f) := fun b => congrArg Store.fails (hf b)
  cases inbound with
  | reply id result => exact .pure _
  | hello active => exact .bind (hmodify _ fun _ => rfl) fun _ => .bind (.enter _) fun _ => .pure _
  | feature active => exact .bind (hmodify _ fun _ => rfl) fun _ => .pure _
  | tabUpdated update => exact .pure _
  | tabActivated tab => exact .pure _
  | request event => exact .pure _
  | catalog trigger entries =>
    cases entries with
    | none => exact .bind (hmodify _ fun _ => rfl) fun _ => .pure _
    | some entries => exact .bind (hmodify _ fun _ => rfl) fun _ => .pure _
  | unknownCatalog kind => exact .bind (.report _) fun _ => .pure _
  | catalogNotList trigger => exact .bind (.report _) fun _ => .pure _
  | clearNotified =>
    refine .bind (fun bridge => ?_) fun cleared => ?_
    · exact Store.fails_clearNotified bridge.store
    · cases cleared with
      | none => exact .pure _
      | some count => exact .bind (.report _) fun _ => .pure _
  | other type => exact .bind (.report _) fun _ => .pure _

/-- Where the store works no message fails. -/
theorem receive_of_works (inbound : Inbound) {bridge : Bridge} (h : bridge.store.Works) :
    ∃ event, (receive inbound).value bridge = .ok event := by
  cases inbound with
  | clearNotified =>
    have hcleared : (onStore Store.clearNotified).value bridge =
        some bridge.store.notified.length := Store.value_call _ _ _ h
    refine ⟨none, ?_⟩
    rw [receive, Act.value_bind, hcleared]
    rfl
  | catalog trigger entries =>
    cases entries with
    | none => exact ⟨_, rfl⟩
    | some entries => exact ⟨_, rfl⟩
  | _ => exact ⟨_, rfl⟩

end Bridge

namespace Host

/-- How serving has ended, if it has, and which calls to the store fail. -/
def standing (host : Host) : Option (Except Failure Unit) × (Nat → StoreCall → Bool) :=
  (host.served, host.advisor.faults)

private theorem keeps_onAdvisor {α : Type} {act : Act Advisor α}
    (h : Act.Keeps Advisor.faults act) :
    Act.Keeps standing (onAdvisor act) := fun host => congrArg (host.served, ·) (h host.advisor)

private theorem keeps_onCalls {α : Type} (act : Act (Calls Task) α) :
    Act.Keeps standing (onCalls act) :=
  fun _ => rfl

private theorem keeps_sendCall (task : Task) (id : Nat) (deadline : Option Nat) (message : Json)
    (encoded : Except Failure Bytes) :
    Act.Keeps standing (sendCall task id deadline message encoded) := by
  cases encoded with
  | error cause => exact .bind (keeps_onCalls _) fun _ => .pure _
  | ok frame =>
    refine .bind (.enter _) fun _ => .bind (keeps_onCalls _) fun _ => .bind .get fun host => ?_
    dsimp only
    split
    · exact .bind (keeps_onCalls _) fun _ => .bind (keeps_onCalls _) fun _ => .pure _
    · exact .bind (keeps_onCalls _) fun _ => .pure _

private theorem keeps_makeCall (task : Task) (method : Text) (params : Fields) :
    Act.Keeps standing (makeCall task method params) :=
  .bind .get fun _ => .bind (keeps_onCalls _) fun _ => keeps_sendCall _ _ _ _ _

private theorem keeps_ask (task : Task) : Act.Keeps standing (ask task) := by
  unfold ask
  split
  · exact keeps_makeCall _ _ _
  · exact .bind .get fun _ => .bind (.forM _ fun _ => .report _) fun _ => .pure _

/-- A task that waits asks its query, and goes on if the reply is at hand. -/
theorem proceed_waiting (task : Task) :
    proceed (.waiting task) = (do
      match ← ask task with
      | none => return
      | some reply =>
        let setting := (← Act.get).setting
        proceed (← onAdvisor (Advisor.resume setting task reply))) := by
  refine (proceed.eq_def _).trans ?_
  dsimp only
  funext host
  change _ = ((match (ask task host).1.1 with
    | none => (pure () : Act Host Unit)
    | some reply => do
      let setting := (← Act.get).setting
      proceed (← onAdvisor (Advisor.resume setting task reply))) (ask task host).1.2 |>.1, _ ++ _)
  generalize ask task host = asked
  obtain ⟨⟨reply?, after⟩, journal⟩ := asked
  cases reply? with
  | none => exact congrArg (Prod.mk _) (List.append_nil journal).symm
  | some reply => exact congrArg (Prod.mk _) (List.append_assoc ..)

/-- A task that does not wait for a reply is left as it is. -/
theorem proceed_of_ne {progress : Task.Progress} (h : ∀ task, progress ≠ .waiting task) :
    proceed progress = pure () := by
  cases progress with
  | waiting task => exact absurd rfl (h task)
  | ended outcome => exact proceed.eq_def _
  | queued number purpose => exact proceed.eq_def _

/-- Asks the query of a task that waits, and goes on as it is told if the reply is at hand. -/
def proceedWith (next : Task.Progress → Act Host Unit) : Task.Progress → Act Host Unit
  | .waiting task => do
    match ← ask task with
    | none => return
    | some reply =>
      let setting := (← Act.get).setting
      next (← onAdvisor (Advisor.resume setting task reply))
  | _ => return

/-- A task goes on query by query. -/
theorem proceed_eq_proceedWith : proceed = proceedWith proceed := by
  funext progress
  cases progress with
  | waiting task => exact proceed_waiting task
  | ended outcome => exact proceed.eq_def _
  | queued number purpose => exact proceed.eq_def _

private theorem keeps_proceed (progress : Task.Progress) :
    Act.Keeps standing (proceed progress) := by
  induction progress using proceed.induct with
  | case1 task ih =>
    rw [proceed_waiting]
    intro host
    rw [Act.state_bind]
    refine Eq.trans ?_ (keeps_ask task host)
    have hlater := ih host
    change ∀ reply, Act.Keeps standing (proceed ((Advisor.resume _ task reply).value _)) at hlater
    cases (ask task).value host with
    | none => rfl
    | some reply =>
      exact (hlater reply _).trans (keeps_onAdvisor (Advisor.keeps_resume _ task reply) _)
  | case2 progress h =>
    rw [proceed_of_ne h]
    exact .pure _

/-- A task that begins and goes on. -/
theorem keeps_run {begin : Setting → Act Advisor Task.Progress}
    (h : ∀ setting, Act.Keeps Advisor.faults (begin setting)) : Act.Keeps standing (run begin) :=
  .bind .get fun _ => .bind (keeps_onAdvisor (h _)) fun _ => keeps_proceed _

/-- The handler of an event. -/
theorem keeps_handler (event : Event) (setting : Setting) :
    Act.Keeps Advisor.faults (handler event setting) := by
  cases event with
  | tabUpdated update => exact Advisor.untouched_faults.handler _ _
  | tabActivated tab => exact Advisor.untouched_faults.handler _ _
  | request event => exact Advisor.untouched_faults.handler _ _
  | activation enabled => exact .bind (Advisor.keeps_onActivator _) fun _ => .pure _
  | catalog trigger =>
    exact .bind (.report _) fun _ => .bind (Advisor.keeps_onBook _) fun _ =>
      Advisor.keeps_rebuilt _ _ _

private theorem keeps_wake (id : Nat) : Act.Keeps standing (wake id) := by
  refine .bind (keeps_onCalls _) fun ended => ?_
  split
  · exact .pure _
  · next task result =>
    exact .bind .get fun _ => .bind (keeps_onAdvisor (Advisor.keeps_resume _ _ _)) fun _ =>
      keeps_proceed _

private theorem keeps_settle (value : Json) (result : Except Failure Json) :
    Act.Keeps standing (settle value result) := by
  refine .bind .get fun host => ?_
  split
  · exact .pure _
  · exact .bind (keeps_onCalls _) fun _ => keeps_wake _

/-- Time that passes. -/
theorem keeps_advance (milliseconds : Nat) : Act.Keeps standing (advance milliseconds) :=
  .bind (fun _ => rfl) fun _ => .bind .get fun _ =>
    .bind (.forM _ fun _ => keeps_onCalls _) fun _ => .forM _ fun _ => keeps_wake _

private theorem keeps_bridge (inbound : Inbound) :
    Act.Keeps standing (onBridge (Bridge.receive inbound)) :=
  fun host => congrArg (host.served, ·) (Bridge.keeps_receive inbound
    ⟨host.active, host.advisor.ledger.store, host.preferences⟩)

private theorem keeps_refuse (fields : Fields) (cause : Failure) :
    Act.Keeps standing (refuse fields cause) := by
  unfold refuse
  split
  · exact .bind (.report _) fun _ => .pure _
  · exact .pure _

/-- A message that is taken, or the end of the messages. -/
theorem keeps_take (message : Option (Except Failure Fields)) :
    Act.Keeps standing (take message) := by
  unfold take
  split
  · exact .bind (.report _) fun _ => .pure _
  · exact .bind (.report _) fun _ => .pure _
  · split
    · exact keeps_refuse _ _
    · exact .bind (keeps_settle _ _) fun _ => .pure _
    · refine .bind (keeps_bridge _) fun received => ?_
      split
      · exact keeps_refuse _ _
      · exact .pure _
      · exact .pure _

end Host

end BreakageAdvisor
