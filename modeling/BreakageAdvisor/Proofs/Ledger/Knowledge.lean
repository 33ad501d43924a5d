import BreakageAdvisor.Proofs.Ledger
import Mathlib.Data.Finset.Card
import Mathlib.Data.Finset.Dedup

/-!
# The ledger when calls to the store fail

Any call to the store may fail, one at a time and at any time. What the ledger then does is compared
with bare knowledge: sets of domains and breakages that a failed reading shows empty and a failed
writing leaves as they are. The ledger keeps to its knowledge in every sequence of operations, and
answers as the knowledge does, but for one operation: clearing passes the failure of its call on.
-/

namespace BreakageAdvisor

namespace Store

variable {α : Type} (what : StoreCall) (answer : Store → α) (effect : Store → Store) (store : Store)

private theorem value_call_eq :
    (call what answer effect).value store =
      if store.fails store.calls what then none else some (answer store) := by
  unfold call Act.value
  dsimp only
  split <;> rfl

private theorem state_call_eq :
    (call what answer effect).state store =
      if store.fails store.calls what then { store with calls := store.calls + 1 }
      else effect { store with calls := store.calls + 1 } := by
  unfold call Act.state
  dsimp only
  split <;> rfl

private theorem toFinset_adjoin (members : List Text) (t : Text) :
    (adjoin members t).toFinset = insert t members.toFinset := by
  ext u
  rw [List.mem_toFinset, mem_adjoin, Finset.mem_insert, List.mem_toFinset, or_comm]

private theorem nodup_adjoin {members : List Text} (h : members.Nodup) (t : Text) :
    (adjoin members t).Nodup := by
  unfold adjoin
  split
  · exact h
  · next hm => exact List.concat_eq_append ▸ h.concat hm

end Store

namespace Ledger

/-- An operation of the ledger. -/
inductive Operation where
  | isNotified (domain : Text)
  | reserve (domain : Text)
  | release (domain : Text)
  | record (domain : Text)
  | isIgnored (id : Option Text)
  | ignore (id : Option Text)
  | clear
  deriving DecidableEq

/-- What an operation gives. -/
inductive Answer where
  | flag (holds : Bool)
  | done
  | cleared (count : Nat)
  deriving DecidableEq

/-- Performs an operation. -/
def perform : Operation → Act Ledger (Except Failure Answer)
  | .isNotified domain => do return .ok (.flag (← isNotified domain))
  | .reserve domain => do return .ok (.flag (← reserve domain))
  | .release domain => do
    release domain
    return .ok .done
  | .record domain => do
    record domain
    return .ok .done
  | .isIgnored id => do return .ok (.flag (← isIgnored id))
  | .ignore id => do
    ignore id
    return .ok .done
  | .clear => do return (← clear).map .cleared

/-- Performs operations one after the other. -/
def performAll : List Operation → Act Ledger (List (Except Failure Answer))
  | [] => return []
  | operation :: rest => do return (← perform operation) :: (← performAll rest)

/-- The call to the store that an operation makes, if it makes any. -/
def Operation.call? : Operation → Option StoreCall
  | .isNotified domain => some (.isNotified domain)
  | .reserve domain => some (.isNotified domain)
  | .release _ => none
  | .record domain => some (.addNotified domain)
  | .isIgnored _ => some .listIgnored
  | .ignore id => id.map .addIgnored
  | .clear => some .clearNotified

/-- Whether the next call to the store fails if an operation makes it. -/
def loses (l : Ledger) (operation : Operation) : Bool :=
  operation.call?.any (l.store.fails l.store.calls)

/-- Operations that are performed one after the other, each with whether its call to the store
fails. -/
def faced : List Operation → Ledger → List (Operation × Bool)
  | [], _ => []
  | operation :: rest, l =>
    (operation, l.loses operation) :: faced rest ((perform operation).state l)

/-- What is known of domains and breakages. -/
structure Knowledge where
  claimed : Finset Text
  told : Finset Text
  ignored : Finset Text

namespace Knowledge

variable (k : Knowledge) (lost : Bool)

/-- Whether a domain counts as told of: it is claimed, or is read among those told of. -/
def counts (domain : Text) : Bool := domain ∈ k.claimed || (!lost && domain ∈ k.told)

/-- What is known after an operation. -/
def after : Operation → Knowledge
  | .isNotified _ => k
  | .reserve domain =>
    if domain = [] ∨ k.counts lost domain then k
    else { k with claimed := insert domain k.claimed }
  | .release domain => { k with claimed := k.claimed.erase domain }
  | .record domain =>
    { k with
      claimed := k.claimed.erase domain
      told := if lost then k.told else insert domain k.told }
  | .isIgnored _ => k
  | .ignore none => k
  | .ignore (some id) =>
    if id = [] ∨ lost then k else { k with ignored := insert id k.ignored }
  | .clear => if lost then k else { k with told := ∅ }

/-- What an operation answers. -/
def answer : Operation → Answer
  | .isNotified domain => .flag (k.counts lost domain)
  | .reserve domain => .flag (domain ≠ [] && !k.counts lost domain)
  | .release _ => .done
  | .record _ => .done
  | .isIgnored none => .flag false
  | .isIgnored (some id) => .flag (id ≠ [] && !lost && id ∈ k.ignored)
  | .ignore _ => .done
  | .clear => .cleared (if lost then 0 else k.told.card)

/-- What is known after some operations. -/
def afterAll (k : Knowledge) : List (Operation × Bool) → Knowledge
  | [] => k
  | (operation, lost) :: rest => (k.after lost operation).afterAll rest

/-- What some operations answer. -/
def answers (k : Knowledge) : List (Operation × Bool) → List Answer
  | [] => []
  | (operation, lost) :: rest =>
    k.answer lost operation :: (k.after lost operation).answers rest

end Knowledge

/-- What a ledger and its store know. -/
def knowledge (l : Ledger) : Knowledge :=
  ⟨l.inFlight.toFinset, l.store.notified.toFinset, l.store.ignored.toFinset⟩

section Steps

variable (l : Ledger)

private theorem isNotified_known (domain : Text) :
    (isNotified domain).value l = l.knowledge.counts (l.loses (.isNotified domain)) domain ∧
      ((isNotified domain).state l).knowledge = l.knowledge := by
  simp only [isNotified, Act.value_get_bind, Act.state_get_bind, Act.value_ite, Act.state_ite]
  by_cases hc : domain ∈ l.inFlight
  · simp [hc, Knowledge.counts, knowledge]
  · have hv : (onStore (Store.isNotified domain)).value l =
        if l.loses (.isNotified domain) then none else some (l.store.notified.contains domain) :=
      Store.value_call_eq ..
    have hs : ((onStore (Store.isNotified domain)).state l).knowledge = l.knowledge := by
      rw [onStore, Act.state_onPart, Store.isNotified, Store.state_call_eq]
      split <;> rfl
    simp only [List.contains_iff_mem, hc, if_false, Act.value_bind, Act.state_bind, hv]
    cases l.loses (.isNotified domain) with
    | true => exact ⟨by simp [Knowledge.counts, knowledge, hc], hs⟩
    | false => exact ⟨by simp [Knowledge.counts, knowledge, hc], hs⟩

private theorem knowledge_claim (domain : Text) :
    (l.claim domain).knowledge =
      { l.knowledge with claimed := insert domain l.knowledge.claimed } := by
  simp only [knowledge, claim, Store.toFinset_adjoin]

private theorem knowledge_unclaim (domain : Text) :
    (l.unclaim domain).knowledge =
      { l.knowledge with claimed := l.knowledge.claimed.erase domain } := by
  have hf : (l.inFlight.filter (· != domain)).toFinset = l.inFlight.toFinset.erase domain := by
    ext d
    simp [and_comm]
  simp only [knowledge, unclaim, hf]

private theorem reserve_known (domain : Text) :
    .flag ((reserve domain).value l) =
        l.knowledge.answer (l.loses (.reserve domain)) (.reserve domain) ∧
      ((reserve domain).state l).knowledge =
        l.knowledge.after (l.loses (.reserve domain)) (.reserve domain) := by
  obtain ⟨hv, hs⟩ := isNotified_known l domain
  have hl : l.loses (.reserve domain) = l.loses (.isNotified domain) := rfl
  rw [hl]
  simp only [reserve, Act.value_ite, Act.state_ite, Act.value_bind, Act.state_bind, hv,
    Knowledge.answer, Knowledge.after]
  by_cases he : domain = []
  · simp [he]
  · cases hn : l.knowledge.counts (l.loses (.isNotified domain)) domain with
    | true => simp [he, hs]
    | false => simp [he, knowledge_claim, hs]

private theorem record_known (domain : Text) :
    ((record domain).state l).knowledge =
      l.knowledge.after (l.loses (.record domain)) (.record domain) := by
  have hs : (record domain).state l =
      ((onStore (Store.addNotified domain)).state l).unclaim domain := by
    simp only [record, Act.state_bind, Act.state_ite, release, Act.state_modify]
    split <;> rfl
  rw [hs, knowledge_unclaim, onStore, Act.state_onPart, Store.addNotified, Store.state_call_eq]
  have hl : l.store.fails l.store.calls (.addNotified domain) = l.loses (.record domain) := rfl
  rw [hl]
  cases l.loses (.record domain) with
  | true => rfl
  | false => simp [knowledge, Knowledge.after, Store.toFinset_adjoin]

private theorem isIgnored_known (id : Option Text) :
    .flag ((isIgnored id).value l) =
        l.knowledge.answer (l.loses (.isIgnored id)) (.isIgnored id) ∧
      ((isIgnored id).state l).knowledge = l.knowledge := by
  unfold isIgnored
  split
  · exact ⟨rfl, rfl⟩
  · exact ⟨rfl, rfl⟩
  · next id hne =>
    have hv : (onStore Store.listIgnored).value l =
        if l.loses (.isIgnored (some id)) then none else some l.store.ignored :=
      Store.value_call_eq ..
    have hs : ((onStore Store.listIgnored).state l).knowledge = l.knowledge := by
      rw [onStore, Act.state_onPart, Store.listIgnored, Store.state_call_eq]
      split <;> rfl
    have hid : id ≠ [] := fun h => hne h
    simp only [Act.value_bind, Act.state_bind, hv]
    cases l.loses (.isIgnored (some id)) with
    | true => exact ⟨by simp [Knowledge.answer], hs⟩
    | false => exact ⟨by simp [Knowledge.answer, knowledge, hid], hs⟩

private theorem ignore_known (id : Option Text) :
    ((ignore id).state l).knowledge = l.knowledge.after (l.loses (.ignore id)) (.ignore id) := by
  unfold ignore
  split
  · rfl
  · rfl
  · next id hne =>
    have hid : id ≠ [] := fun h => hne h
    have hl : l.store.fails l.store.calls (.addIgnored id) = l.loses (.ignore (some id)) := rfl
    have hs : ((onStore (Store.addIgnored id)).state l).knowledge =
        l.knowledge.after (l.loses (.ignore (some id))) (.ignore (some id)) := by
      rw [onStore, Act.state_onPart, Store.addIgnored, Store.state_call_eq, hl]
      cases l.loses (.ignore (some id)) with
      | true => simp [knowledge, Knowledge.after]
      | false => simp [knowledge, Knowledge.after, hid, Store.toFinset_adjoin]
    simp only [Act.state_bind, Act.state_ite]
    split
    · exact hs
    · exact hs

/-- Clearing counts and removes what was told of. If its call fails it fails, and changes nothing
that is known. -/
private theorem clear_known (hd : l.store.notified.Nodup) :
    clear.value l = (if l.loses .clear then .error .storeUnavailable
      else .ok l.knowledge.told.card) ∧
    (clear.state l).knowledge = l.knowledge.after (l.loses .clear) .clear := by
  have hl : l.store.fails l.store.calls .clearNotified = l.loses .clear := rfl
  have hv : (onStore Store.clearNotified).value l =
      if l.loses .clear then none else some l.store.notified.length := Store.value_call_eq ..
  have hs : ((onStore Store.clearNotified).state l).knowledge =
      l.knowledge.after (l.loses .clear) .clear := by
    rw [onStore, Act.state_onPart, Store.clearNotified, Store.state_call_eq, hl]
    cases l.loses .clear with
    | true => rfl
    | false => rfl
  have hcard : l.knowledge.told.card = l.store.notified.length := List.toFinset_card_of_nodup hd
  simp only [clear, Act.value_bind, Act.state_bind, hv]
  generalize l.loses .clear = lost at hs ⊢
  cases lost with
  | true => exact ⟨rfl, hs⟩
  | false => exact ⟨by simp [hcard], hs⟩

end Steps

/-- What an operation gives where the knowledge has an answer: the answer, unless a call to clear
was lost. -/
def outcome : Operation × Bool → Answer → Except Failure Answer
  | (.clear, true), _ => .error .storeUnavailable
  | _, answer => .ok answer

private theorem nodup_perform {l : Ledger} (h : l.store.notified.Nodup) (operation : Operation) :
    ((perform operation).state l).store.notified.Nodup := by
  cases operation with
  | isNotified domain => exact (agrees_isNotified domain l).notified ▸ h
  | reserve domain =>
    cases hr : (reserve domain).value l with
    | false => exact (agrees_reserve hr).notified ▸ h
    | true => exact (reserve_eq_true hr).2.2.2.notified ▸ h
  | release domain => exact h
  | record domain =>
    have hs : ((perform (.record domain)).state l).store =
        (Store.addNotified domain).state l.store := by
      simp only [perform, record, Act.state_bind, Act.state_ite, release, Act.state_modify]
      split <;> rfl
    rw [hs, Store.addNotified, Store.state_call_eq]
    split
    · exact h
    · exact Store.nodup_adjoin h domain
  | isIgnored id => exact (agrees_isIgnored id l).notified ▸ h
  | ignore id => exact (agrees_ignore id l).notified ▸ h
  | clear =>
    have hs : ((perform .clear).state l).store = Store.clearNotified.state l.store := by
      simp only [perform, clear, Act.state_bind]
      split <;> rfl
    rw [hs, Store.clearNotified, Store.state_call_eq]
    split
    · exact h
    · exact List.nodup_nil

private theorem perform_known {l : Ledger} (h : l.store.notified.Nodup) (operation : Operation) :
    (perform operation).value l =
        outcome (operation, l.loses operation) (l.knowledge.answer (l.loses operation) operation) ∧
      ((perform operation).state l).knowledge =
        l.knowledge.after (l.loses operation) operation := by
  cases operation with
  | isNotified domain =>
    obtain ⟨hv, hs⟩ := isNotified_known l domain
    exact ⟨congrArg (Except.ok ∘ Answer.flag) hv, hs⟩
  | reserve domain =>
    obtain ⟨hv, hs⟩ := reserve_known l domain
    exact ⟨congrArg Except.ok hv, hs⟩
  | release domain => exact ⟨rfl, knowledge_unclaim l domain⟩
  | record domain => exact ⟨rfl, record_known l domain⟩
  | isIgnored id =>
    obtain ⟨hv, hs⟩ := isIgnored_known l id
    exact ⟨congrArg Except.ok hv, hs.trans (by cases id <;> rfl)⟩
  | ignore id => exact ⟨by cases id <;> rfl, ignore_known l id⟩
  | clear =>
    obtain ⟨hv, hs⟩ := clear_known l h
    refine ⟨?_, hs⟩
    change (clear.value l).map Answer.cleared = _
    rw [hv]
    cases l.loses .clear <;> rfl

private theorem performAll_known {l : Ledger} (h : l.store.notified.Nodup)
    (operations : List Operation) :
    (performAll operations).value l =
        List.zipWith outcome (faced operations l) (l.knowledge.answers (faced operations l)) ∧
      ((performAll operations).state l).knowledge =
        l.knowledge.afterAll (faced operations l) := by
  induction operations generalizing l with
  | nil => exact ⟨rfl, rfl⟩
  | cons operation rest ih =>
    obtain ⟨hv, hs⟩ := perform_known h operation
    -- The rest is performed on the ledger that the first operation left, which knows what is known.
    obtain ⟨hvr, hsr⟩ := ih (nodup_perform h operation)
    rw [hs] at hvr hsr
    exact ⟨congrArg₂ List.cons hv hvr, hsr⟩

private theorem Knowledge.length_answers (k : Knowledge) (events : List (Operation × Bool)) :
    (k.answers events).length = events.length := by
  induction events generalizing k with
  | nil => rfl
  | cons event rest ih => exact congrArg (· + 1) (ih _)

private theorem outcome_eq_ok_iff (event : Operation × Bool) (answer : Answer) :
    outcome event answer = .ok answer ↔ event ≠ (.clear, true) := by
  obtain ⟨operation, lost⟩ := event
  cases operation <;> cases lost <;> simp [outcome]

private theorem zipWith_outcome_eq_iff {events : List (Operation × Bool)} {answers : List Answer}
    (h : answers.length = events.length) :
    List.zipWith outcome events answers = answers.map .ok ↔ (.clear, true) ∉ events := by
  induction events generalizing answers with
  | nil => simp [List.length_eq_zero_iff.mp h]
  | cons event rest ih =>
    cases answers with
    | nil => cases h
    | cons answer others =>
      rw [List.zipWith_cons_cons, List.map_cons, List.cons.injEq, outcome_eq_ok_iff,
        ih (Nat.succ.inj h), List.mem_cons, not_or, ne_comm]

/-- Whichever calls to the store fail, a ledger claims, stores and answers as is known: a lost
reading shows nothing, and a lost writing changes nothing. Only clearing passes a failure on, so all
operations answer as is known if and only if no call to clear is lost. -/
theorem answers_as_known_iff {l : Ledger} (h : l.store.notified.Nodup)
    (operations : List Operation) :
    let events := faced operations l
    ((performAll operations).state l).knowledge = l.knowledge.afterAll events ∧
    (performAll operations).value l =
      List.zipWith outcome events (l.knowledge.answers events) ∧
    ((performAll operations).value l = (l.knowledge.answers events).map .ok ↔
      (.clear, true) ∉ events) := by
  obtain ⟨hv, hs⟩ := performAll_known h operations
  refine ⟨hs, hv, ?_⟩
  rw [hv]
  exact zipWith_outcome_eq_iff (l.knowledge.length_answers _)

/-- A ledger with two domains and a store of which every second call fails, the first included. -/
def unsteady : Ledger :=
  { store := { notified := ["a.com", "b.com"], fails := fun n _ => n % 2 == 0 } }

/-- A domain is read, in vain and then not, reserved because the reading is lost, and recorded; a
breakage that is ignored is lost; the domains are cleared. -/
def mixedFortune : List Operation :=
  [.isNotified (Text.ofString "a.com"), .isNotified (Text.ofString "a.com"),
    .reserve (Text.ofString "a.com"), .record (Text.ofString "a.com"),
    .ignore (some (Text.ofString "x")), .clear]

/-- No clearing is lost, and all operations answer as is known. -/
theorem answers_as_known_iff_unsteady :
    unsteady.store.notified.Nodup ∧
    (performAll mixedFortune).value unsteady =
      [.ok (.flag false), .ok (.flag true), .ok (.flag true), .ok .done, .ok .done,
        .ok (.cleared 2)] := by
  refine ⟨by decide, ?_⟩
  have hanswers : (unsteady.knowledge.answers (faced mixedFortune unsteady)) =
      [.flag false, .flag true, .flag true, .done, .done, .cleared 2] := by decide
  exact ((answers_as_known_iff (by decide) mixedFortune).2.2.mpr (by decide)).trans
    (congrArg (List.map Except.ok) hanswers)

/-- A ledger with a store that cannot be cleared. -/
def uncleared : Ledger :=
  { store := { notified := ["a.com"], fails := fun _ what => what = .clearNotified } }

/-- The failure of a lost clearing leaves the ledger. -/
theorem lostClear_fails :
    ¬ ∀ result ∈ (performAll [.isNotified (Text.ofString "a.com"), .clear]).value uncleared,
      result.isOk = true := by
  decide

end Ledger

end BreakageAdvisor
