import BreakageAdvisor.Ledger
import BreakageAdvisor.Proofs.Act

/-!
# Claims in the ledger

What each operation of the ledger does to the claims and to the domains told of, whether or not
the store fails. Where the store works, a reservation succeeds only for a domain that was not told
of, and a record is never lost.
-/

namespace BreakageAdvisor

namespace Store

/-- No call to a store fails. -/
def Works (store : Store) : Prop := ∀ n what, store.fails n what = false

/-- A store works if it fails as one that works. -/
theorem Works.of_fails {s t : Store} (h : t.fails = s.fails) (hw : s.Works) : t.Works := by
  intro n what
  rw [h]
  exact hw n what

/-- A list has its new member and those it had. -/
theorem mem_adjoin {members : List Text} {t u : Text} :
    u ∈ adjoin members t ↔ u ∈ members ∨ u = t := by
  unfold adjoin
  split
  · next h =>
    constructor
    · exact Or.inl
    · rintro (hu | rfl)
      · exact hu
      · exact h
  · simp

/-- A member that is new comes last. -/
theorem adjoin_of_not_mem {members : List Text} {t : Text} (h : t ∉ members) :
    adjoin members t = members ++ [t] := by
  simp [adjoin, h]

variable {α : Type} (what : StoreCall) (answer : Store → α) (effect : Store → Store)

private theorem state_call (store : Store) :
    (call what answer effect).state store = { store with calls := store.calls + 1 } ∨
      (call what answer effect).state store =
        effect { store with calls := store.calls + 1 } := by
  unfold call Act.state
  dsimp only
  split
  · exact Or.inl rfl
  · exact Or.inr rfl

/-- A call that does not fail gives the answer. -/
theorem value_call_of_fails {store : Store} (h : store.fails store.calls what = false) :
    (call what answer effect).value store = some (answer store) := by
  simp [call, Act.value, h]

/-- A call to a store that works gives the answer. -/
theorem value_call {store : Store} (h : store.Works) :
    (call what answer effect).value store = some (answer store) :=
  value_call_of_fails what answer effect (h store.calls what)

private theorem state_call_of_works {store : Store} (h : store.Works) :
    (call what answer effect).state store = effect { store with calls := store.calls + 1 } := by
  simp [call, Act.state, h store.calls what]

private theorem stable_call {P : Store → Prop}
    (hc : ∀ store n, P store → P { store with calls := n })
    (he : ∀ store, P store → P (effect store)) : Act.Stable P (call what answer effect) := by
  intro store hp
  rcases state_call what answer effect store with h | h
  · rw [h]
    exact hc store _ hp
  · rw [h]
    exact he _ (hc store _ hp)

/-- Clearing does not change which calls fail. -/
theorem fails_clearNotified (store : Store) :
    (clearNotified.state store).fails = store.fails := by
  unfold clearNotified
  rcases state_call .clearNotified (fun store => store.notified.length)
    (fun store => { store with notified := [] }) store with h | h
  · rw [h]
  · rw [h]

end Store

namespace Ledger

/-- The second ledger has the claims of the first and the domains told of, and its store fails as
the other does. -/
structure Agrees (a b : Ledger) : Prop where
  inFlight : b.inFlight = a.inFlight
  notified : b.store.notified = a.store.notified
  fails : b.store.fails = a.store.fails

namespace Agrees

/-- Every ledger agrees with itself. -/
theorem refl (a : Ledger) : Agrees a a := ⟨rfl, rfl, rfl⟩

/-- Agreement is passed on. -/
theorem trans {a b c : Ledger} (h : Agrees a b) (k : Agrees b c) : Agrees a c :=
  ⟨k.inFlight.trans h.inFlight, k.notified.trans h.notified, k.fails.trans h.fails⟩

/-- Ledgers that agree go on agreeing when a domain is claimed in both. -/
theorem claim {a b : Ledger} (h : Agrees a b) (d : Text) : Agrees (a.claim d) (b.claim d) :=
  ⟨by simp only [Ledger.claim, h.inFlight], h.notified, h.fails⟩

/-- Ledgers that agree go on agreeing when a claim is ended in both. -/
theorem unclaim {a b : Ledger} (h : Agrees a b) (d : Text) : Agrees (a.unclaim d) (b.unclaim d) :=
  ⟨by simp only [Ledger.unclaim, h.inFlight], h.notified, h.fails⟩

end Agrees

/-- A domain that is claimed is added to the claims. -/
@[simp] theorem mem_claim {d e : Text} {l : Ledger} :
    e ∈ (l.claim d).inFlight ↔ e ∈ l.inFlight ∨ e = d := Store.mem_adjoin

/-- A claim that ends leaves all others. -/
@[simp] theorem mem_unclaim {d e : Text} {l : Ledger} :
    e ∈ (l.unclaim d).inFlight ↔ e ∈ l.inFlight ∧ e ≠ d := by
  simp [unclaim]

/-- Ending a claim twice ends it once. -/
theorem unclaim_unclaim (d : Text) (l : Ledger) : (l.unclaim d).unclaim d = l.unclaim d := by
  simp [unclaim]

/-- A claim that was new is undone by its end. -/
theorem unclaim_claim {d : Text} {l : Ledger} (h : d ∉ l.inFlight) :
    (l.claim d).unclaim d = l := by
  have hf : l.inFlight.filter (· != d) = l.inFlight := by
    apply List.filter_eq_self.mpr
    intro e he
    have hne : e ≠ d := fun hed => h (hed ▸ he)
    simp [hne]
  simp [claim, unclaim, Store.adjoin_of_not_mem h, hf]

/-- A domain is claimed and, as far as a working store tells, was not told of. -/
def Holds (l : Ledger) (d : Text) : Prop :=
  d ∈ l.inFlight ∧ (l.store.Works → d ∉ l.store.notified)

namespace Holds

variable {a b : Ledger} {d e : Text}

/-- Ledgers that agree hold the same domains. -/
theorem of_agrees (h : a.Agrees b) (hd : a.Holds d) : b.Holds d := by
  refine ⟨?_, ?_⟩
  · rw [h.inFlight]
    exact hd.1
  · intro hw
    rw [h.notified]
    exact hd.2 (hw.of_fails h.fails.symm)

/-- A domain stays held when a domain is claimed. -/
theorem claim (hd : a.Holds d) : (a.claim e).Holds d := ⟨mem_claim.mpr (.inl hd.1), hd.2⟩

/-- A domain stays held when the claim on another ends. -/
theorem unclaim (hd : a.Holds d) (hne : d ≠ e) : (a.unclaim e).Holds d :=
  ⟨mem_unclaim.mpr ⟨hd.1, hne⟩, hd.2⟩

/-- A domain stays held when another is recorded. -/
theorem of_record (hd : a.Holds d) (hne : d ≠ e) (hi : b.inFlight = (a.unclaim e).inFlight)
    (hf : b.store.fails = a.store.fails)
    (hs : a.store.Works → b.store.notified = Store.adjoin a.store.notified e) : b.Holds d := by
  constructor
  · rw [hi]
    exact (hd.unclaim hne).1
  · intro hw
    have ha : a.store.Works := hw.of_fails hf.symm
    rw [hs ha, Store.mem_adjoin]
    rintro (hm | hm)
    · exact hd.2 ha hm
    · exact hne hm

end Holds

private theorem agrees_call {α : Type} (what : StoreCall) (answer : Store → α)
    (effect : Store → Store) (hn : ∀ store, (effect store).notified = store.notified)
    (hf : ∀ store, (effect store).fails = store.fails) (l : Ledger) :
    Agrees l ((onStore (Store.call what answer effect)).state l) := by
  have hs : ((onStore (Store.call what answer effect)).state l).store =
      (Store.call what answer effect).state l.store := rfl
  refine ⟨rfl, ?_, ?_⟩
  · rw [hs]
    rcases Store.state_call what answer effect l.store with h | h
    · rw [h]
    · rw [h, hn]
  · rw [hs]
    rcases Store.state_call what answer effect l.store with h | h
    · rw [h]
    · rw [h, hf]

/-- Asking whether a domain was told of changes no claim. -/
theorem agrees_isNotified (d : Text) (l : Ledger) : Agrees l ((isNotified d).state l) := by
  have h := agrees_call (.isNotified d) (fun store => store.notified.contains d) id
    (fun _ => rfl) (fun _ => rfl) l
  simp only [isNotified, Act.state_get_bind, Act.state_ite]
  split
  · exact Agrees.refl l
  · rw [Act.state_bind]
    split
    · exact h
    · exact h

/-- Asking whether a breakage is ignored changes no claim. -/
theorem agrees_isIgnored (id : Option Text) (l : Ledger) : Agrees l ((isIgnored id).state l) := by
  unfold isIgnored
  split
  · exact Agrees.refl l
  · exact Agrees.refl l
  · have h := agrees_call .listIgnored (fun store => store.ignored) id
      (fun _ => rfl) (fun _ => rfl) l
    simp only [Act.state_bind]
    split
    · exact h
    · exact h

/-- Ignoring a breakage changes no claim. -/
theorem agrees_ignore (id : Option Text) (l : Ledger) : Agrees l ((ignore id).state l) := by
  unfold ignore
  split
  · exact Agrees.refl l
  · exact Agrees.refl l
  · next id _ =>
    have h := agrees_call (.addIgnored id) (fun _ => ())
      (fun store => { store with ignored := Store.adjoin store.ignored id })
      (fun _ => rfl) (fun _ => rfl) l
    simp only [Act.state_bind, Act.state_ite]
    split
    · exact h
    · exact h

private theorem isNotified_eq_false {d : Text} {l : Ledger} (h : (isNotified d).value l = false) :
    d ∉ l.inFlight ∧ (l.store.Works → d ∉ l.store.notified) := by
  simp only [isNotified, Act.value_get_bind, Act.value_ite] at h
  split at h
  · simp at h
  · next hf =>
    refine ⟨by simpa using hf, ?_⟩
    intro hw
    have hv : (onStore (Store.isNotified d)).value l = some (l.store.notified.contains d) :=
      Store.value_call _ _ _ hw
    rw [Act.value_bind, hv] at h
    simpa using h

/-- A reservation that fails changes no claim. -/
theorem agrees_reserve {d : Text} {l : Ledger} (h : (reserve d).value l = false) :
    Agrees l ((reserve d).state l) := by
  simp only [reserve, Act.value_ite, Act.state_ite, Act.value_bind, Act.state_bind] at h ⊢
  split
  · exact Agrees.refl l
  · split
    · exact agrees_isNotified d l
    · next he hn => simp [he, hn] at h

/-- A reservation that succeeds claims a domain that is not empty, was not claimed, and was not
told of if the store works. -/
theorem reserve_eq_true {d : Text} {l : Ledger} (h : (reserve d).value l = true) :
    d ≠ [] ∧ d ∉ l.inFlight ∧ (l.store.Works → d ∉ l.store.notified) ∧
      Agrees (l.claim d) ((reserve d).state l) := by
  simp only [reserve, Act.value_ite, Act.state_ite, Act.value_bind, Act.state_bind] at h ⊢
  split at h
  · simp at h
  · next he =>
    split at h
    · simp at h
    · next hn =>
      have hv : (isNotified d).value l = false := by simpa using hn
      obtain ⟨hf, hs⟩ := isNotified_eq_false hv
      refine ⟨by simpa using he, hf, hs, ?_⟩
      simp only [he, hv]
      exact (agrees_isNotified d l).claim d

/-- A reservation leaves the store to fail as before. -/
theorem fails_reserve (d : Text) (l : Ledger) :
    ((reserve d).state l).store.fails = l.store.fails := by
  cases h : (reserve d).value l with
  | false => exact (agrees_reserve h).fails
  | true => exact (reserve_eq_true h).2.2.2.fails

/-- A record ends the claim on its domain. -/
theorem inFlight_record (d : Text) (l : Ledger) :
    ((record d).state l).inFlight = (l.unclaim d).inFlight := by
  simp only [record, Act.state_bind, Act.state_ite, release, Act.state_modify]
  split <;> rfl

/-- A record leaves the store to fail as before. -/
theorem fails_record (d : Text) (l : Ledger) :
    ((record d).state l).store.fails = l.store.fails := by
  have h : ((Store.addNotified d).state l.store).fails = l.store.fails := by
    unfold Store.addNotified
    rcases Store.state_call (.addNotified d) (fun _ => ())
      (fun store => { store with notified := Store.adjoin store.notified d }) l.store with h | h
    · rw [h]
    · rw [h]
  simp only [record, Act.state_bind, Act.state_ite, release, Act.state_modify]
  split
  · exact h
  · exact h

/-- A record in a store that works adds its domain. -/
theorem notified_record (d : Text) {l : Ledger} (hw : l.store.Works) :
    ((record d).state l).store.notified = Store.adjoin l.store.notified d := by
  have h : ((Store.addNotified d).state l.store).notified = Store.adjoin l.store.notified d :=
    congrArg Store.notified (Store.state_call_of_works _ _ _ hw)
  simp only [record, Act.state_bind, Act.state_ite, release, Act.state_modify]
  split
  · exact h
  · exact h

/-- Clearing changes no claim. -/
theorem inFlight_clear (l : Ledger) : (clear.state l).inFlight = l.inFlight := by
  simp only [clear, Act.state_bind]
  split <;> rfl

/-- Clearing leaves the store to fail as before. -/
theorem fails_clear (l : Ledger) : (clear.state l).store.fails = l.store.fails := by
  simp only [clear, Act.state_bind]
  split
  · exact Store.fails_clearNotified l.store
  · exact Store.fails_clearNotified l.store

/-- Clearing a store that works leaves no domain told of. -/
theorem notified_clear {l : Ledger} (hw : l.store.Works) :
    (clear.state l).store.notified = [] := by
  have h : (Store.clearNotified.state l.store).notified = [] :=
    congrArg Store.notified (Store.state_call_of_works _ _ _ hw)
  simp only [clear, Act.state_bind]
  split
  · exact h
  · exact h

section Ignored

variable {id : Text}

private theorem stable_onStore {α : Type} (what : StoreCall) (answer : Store → α)
    {effect : Store → Store} (he : ∀ store, id ∈ store.ignored → id ∈ (effect store).ignored) :
    Act.Stable (fun l : Ledger => id ∈ l.store.ignored)
      (onStore (Store.call what answer effect)) :=
  fun l => Store.stable_call what answer effect (P := (id ∈ ·.ignored)) (fun _ _ h => h) he l.store

/-- A reservation leaves the ignored breakages as they are. -/
theorem keeps_ignored_reserve (d : Text) : Act.Keeps (·.store.ignored) (reserve d) := by
  have hcall : Act.Keeps (·.store.ignored) (onStore (Store.isNotified d)) := by
    intro l
    change ((Store.isNotified d).state l.store).ignored = l.store.ignored
    rcases Store.state_call (.isNotified d) (fun store => store.notified.contains d) id l.store
      with h | h
    · rw [Store.isNotified, h]
    · rw [Store.isNotified, h]
      rfl
  unfold reserve
  split
  · exact .pure _
  · refine .bind (.bind .get fun _ => ?_) fun notified => ?_
    · split
      · exact .pure _
      · refine .bind hcall fun found => ?_
        cases found with
        | none => exact .bind (.report _) fun _ => .pure _
        | some _ => exact .pure _
    · split
      · exact .pure _
      · exact .bind (fun _ => rfl) fun _ => .pure _

/-- A reservation leaves ignored breakages ignored. -/
theorem stable_reserve (d : Text) :
    Act.Stable (fun l : Ledger => id ∈ l.store.ignored) (reserve d) :=
  .of_keeps (Q := (id ∈ ·)) (keeps_ignored_reserve d)

/-- A look at the ignored breakages leaves them ignored. -/
theorem stable_isIgnored (breakage : Option Text) :
    Act.Stable (fun l : Ledger => id ∈ l.store.ignored) (isIgnored breakage) := by
  unfold isIgnored
  split
  · exact .pure _
  · exact .pure _
  · refine .bind (stable_onStore _ _ fun _ h => h) fun found => ?_
    cases found with
    | none => exact .bind (.report _) fun _ => .pure _
    | some _ => exact .pure _

/-- A breakage that is ignored leaves the others ignored. -/
theorem stable_ignore (breakage : Option Text) :
    Act.Stable (fun l : Ledger => id ∈ l.store.ignored) (ignore breakage) := by
  unfold ignore
  split
  · exact .pure _
  · exact .pure _
  · refine .bind (stable_onStore _ _ fun _ h => Store.mem_adjoin.mpr (.inl h)) fun found => ?_
    split
    · exact .report _
    · exact .pure _

/-- A record leaves ignored breakages ignored. -/
theorem stable_record (d : Text) :
    Act.Stable (fun l : Ledger => id ∈ l.store.ignored) (record d) := by
  unfold record
  refine .bind (stable_onStore _ _ fun _ h => h) fun found => ?_
  split
  · exact .bind (.report _) fun _ => .modify fun _ h => h
  · exact .modify fun _ h => h

/-- Clearing leaves ignored breakages ignored. -/
theorem stable_clear : Act.Stable (fun l : Ledger => id ∈ l.store.ignored) clear := by
  unfold clear
  refine .bind (stable_onStore _ _ fun _ h => h) fun count => ?_
  cases count with
  | none => exact .pure _
  | some _ => exact .bind (.report _) fun _ => .pure _

/-- A breakage that a working store has among the ignored ones is found to be ignored. -/
theorem value_isIgnored {l : Ledger} (hw : l.store.Works) (hid : id ≠ [])
    (hi : id ∈ l.store.ignored) : (isIgnored (some id)).value l = true := by
  have hv : (onStore Store.listIgnored).value l = some l.store.ignored := Store.value_call _ _ _ hw
  unfold isIgnored
  split
  · rename_i h
    cases h
  · rename_i h
    exact absurd (Option.some.inj h) hid
  · rename_i h
    cases h
    rw [Act.value_bind, hv]
    simpa using hi

end Ignored

end Ledger

end BreakageAdvisor
