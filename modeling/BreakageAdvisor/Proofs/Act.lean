import BreakageAdvisor.Journal

/-!
# Laws of acts

What the elementary computations give and leave behind.
-/

namespace BreakageAdvisor

namespace Act

variable {σ τ α β : Type}

/-- What follows a look at the state gets the state. -/
theorem value_get_bind (next : σ → Act σ β) (s : σ) :
    (get >>= next).value s = (next s).value s := rfl

/-- A look at the state changes nothing. -/
theorem state_get_bind (next : σ → Act σ β) (s : σ) :
    (get >>= next).state s = (next s).state s := rfl

@[simp] theorem state_modify (f : σ → σ) (s : σ) : (modify f).state s = f s := rfl

@[simp] theorem state_report (entry : LogEntry) (s : σ) : (report entry).state s = s := rfl

/-- A choice between two acts gives what the act chosen gives. -/
theorem value_ite (p : Prop) [Decidable p] (a b : Act σ α) (s : σ) :
    (if p then a else b).value s = if p then a.value s else b.value s := by
  split <;> rfl

/-- A choice between two acts leaves the state that the act chosen leaves. -/
theorem state_ite (p : Prop) [Decidable p] (a b : Act σ α) (s : σ) :
    (if p then a else b).state s = if p then a.state s else b.state s := by
  split <;> rfl

/-- Acts one after the other are the same however they are grouped. -/
theorem bind_assoc {γ : Type} (act : Act σ α) (next : α → Act σ β) (last : β → Act σ γ) :
    (act >>= next) >>= last = act >>= fun a => next a >>= last := by
  funext s
  exact congrArg (Prod.mk _) (List.append_assoc ..)

/-- What follows an act starts where the act leads, and its journal comes after. -/
theorem bind_apply (act : Act σ α) (next : α → Act σ β) (s : σ) :
    (act >>= next) s = ((next (act.value s) (act.state s)).1,
      act.journal s ++ (next (act.value s) (act.state s)).2) := rfl

/-- What follows an act matters only where the act leads. -/
theorem bind_congr_at {act : Act σ α} {next next' : α → Act σ β} {s : σ}
    (h : next (act.value s) (act.state s) = next' (act.value s) (act.state s)) :
    (act >>= next) s = (act >>= next') s := by
  change ((next (act.value s) (act.state s)).1, _ ++ (next (act.value s) (act.state s)).2) =
    ((next' (act.value s) (act.state s)).1, _ ++ (next' (act.value s) (act.state s)).2)
  rw [h]

/-- What follows an act matters only for what the act gives. -/
theorem bind_congr_value {act : Act σ α} {next next' : α → Act σ β}
    (h : ∀ s, next (act.value s) = next' (act.value s)) : act >>= next = act >>= next' :=
  funext fun s => bind_congr_at (congrFun (h s) _)

/-- What a computation enters in the journal beside reports. -/
def deeds (act : Act σ α) (s : σ) : List Entry :=
  (act.journal s).filter fun
    | .reported _ => false
    | _ => true

@[simp] theorem deeds_bind (act : Act σ α) (next : α → Act σ β) (s : σ) :
    (act >>= next).deeds s = act.deeds s ++ (next (act.value s)).deeds (act.state s) :=
  List.filter_append ..

/-- The second act does from the image of a state what the first does from the state, beside
reports: images of the value and of the state come out. -/
structure Mirrors {α' σ' : Type} (f : α → α') (g : σ → σ') (act : Act σ α) (act' : Act σ' α')
    (s : σ) : Prop where
  value : act'.value (g s) = f (act.value s)
  state : act'.state (g s) = g (act.state s)
  deeds : act'.deeds (g s) = act.deeds s

namespace Mirrors

variable {α' β' σ' : Type} {f : α → α'} {k : β → β'} {g : σ → σ'} {s : σ}

theorem pure (a : α) : Mirrors f g (Pure.pure a) (Pure.pure (f a)) s := ⟨rfl, rfl, rfl⟩

theorem report (entry : LogEntry) : Mirrors id g (Act.report entry) (Act.report entry) s :=
  ⟨rfl, rfl, rfl⟩

theorem enter (entry : Entry) : Mirrors id g (Act.enter entry) (Act.enter entry) s :=
  ⟨rfl, rfl, rfl⟩

theorem refl (act : Act σ α) (s : σ) : Mirrors id id act act s := ⟨rfl, rfl, rfl⟩

theorem bind {act : Act σ α} {act' : Act σ' α'} {next : α → Act σ β} {next' : α' → Act σ' β'}
    (h : Mirrors f g act act' s)
    (hnext : Mirrors k g (next (act.value s)) (next' (f (act.value s))) (act.state s)) :
    Mirrors k g (act >>= next) (act' >>= next') s where
  value := by rw [value_bind, value_bind, h.value, h.state, hnext.value]
  state := by rw [state_bind, state_bind, h.value, h.state, hnext.state]
  deeds := by rw [deeds_bind, deeds_bind, h.value, h.state, h.deeds, hnext.deeds]

end Mirrors

/-- An act keeps what a view shows of the state. -/
def Keeps (view : σ → τ) (act : Act σ α) : Prop := ∀ s, view (act.state s) = view s

namespace Keeps

variable {view : σ → τ}

theorem pure (a : α) : Keeps view (Pure.pure a : Act σ α) := fun _ => rfl

theorem get : Keeps view (Act.get : Act σ σ) := fun _ => rfl

theorem enter (entry : Entry) : Keeps view (Act.enter entry) := fun _ => rfl

theorem report (entry : LogEntry) : Keeps view (Act.report entry) := fun _ => rfl

theorem bind {act : Act σ α} {next : α → Act σ β} (h : Keeps view act)
    (hnext : ∀ a, Keeps view (next a)) : Keeps view (act >>= next) :=
  fun s => (hnext _ _).trans (h s)

/-- Acts on the members of a list keep what each of them keeps. -/
theorem forM (members : List β) {act : β → Act σ PUnit} (h : ∀ b, Keeps view (act b)) :
    Keeps view (members.forM act) := by
  induction members with
  | nil => exact .pure _
  | cons b rest ih => exact .bind (h b) fun _ => ih

end Keeps

/-- Reports change nothing. -/
theorem state_forM_report (reports : List LogEntry) (s : σ) :
    (reports.forM Act.report : Act σ PUnit).state s = s := by
  have hk : Keeps id (reports.forM Act.report : Act σ PUnit) := .forM _ fun entry => .report entry
  exact hk s

/-- An act keeps a property of the state. -/
def Stable (P : σ → Prop) (act : Act σ α) : Prop := ∀ s, P s → P (act.state s)

namespace Stable

variable {P : σ → Prop}

theorem pure (a : α) : Stable P (Pure.pure a : Act σ α) := fun _ hs => hs

theorem get : Stable P (Act.get : Act σ σ) := fun _ hs => hs

theorem report (entry : LogEntry) : Stable P (Act.report entry) := fun _ hs => hs

theorem modify {f : σ → σ} (h : ∀ s, P s → P (f s)) : Stable P (Act.modify f) := h

/-- An act that keeps a view keeps what can be told from it. -/
theorem of_keeps {view : σ → τ} {Q : τ → Prop} {act : Act σ α} (h : Keeps view act) :
    Stable (fun s => Q (view s)) act := by
  intro s hs
  rwa [h s]

theorem bind {act : Act σ α} {next : α → Act σ β} (h : Stable P act)
    (hnext : ∀ a, Stable P (next a)) : Stable P (act >>= next) :=
  fun s hs => hnext _ _ (h s hs)

/-- Acts on the members of a list keep what each of them keeps. -/
theorem forM (members : List β) {act : β → Act σ PUnit} (h : ∀ b, Stable P (act b)) :
    Stable P (members.forM act) := by
  induction members with
  | nil => exact fun _ hs => hs
  | cons b rest ih => exact .bind (h b) fun _ => ih

end Stable

/-- All that an act enters in the journal has a property. -/
def Enters (P : Entry → Prop) (act : Act σ α) : Prop := ∀ s, ∀ entry ∈ act.journal s, P entry

namespace Enters

variable {P : Entry → Prop}

theorem pure (a : α) : Enters P (Pure.pure a : Act σ α) := fun _ _ h => nomatch h

theorem get : Enters P (Act.get : Act σ σ) := fun _ _ h => nomatch h

theorem modify (f : σ → σ) : Enters P (Act.modify f) := fun _ _ h => nomatch h

theorem enter {entry : Entry} (h : P entry) : Enters P (Act.enter entry : Act σ Unit) := by
  intro s e he
  rwa [List.mem_singleton.mp he]

theorem report {entry : LogEntry} (h : P (.reported entry)) :
    Enters P (Act.report entry : Act σ Unit) := enter h

theorem bind {act : Act σ α} {next : α → Act σ β} (h : Enters P act)
    (hnext : ∀ a, Enters P (next a)) : Enters P (act >>= next) := by
  intro s entry he
  rcases List.mem_append.mp he with he | he
  · exact h s entry he
  · exact hnext _ _ entry he

end Enters

end Act

end BreakageAdvisor
