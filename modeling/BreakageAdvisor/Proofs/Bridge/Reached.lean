import BreakageAdvisor.Proofs.Bridge.Correlation
import Mathlib.Data.List.Nodup

/-!
# Tables that possible events lead to

A table of calls is reached if possible events lead to it from one without calls. What may be done
to such a table at any moment reaches another one.
-/

namespace BreakageAdvisor

namespace Calls

variable {ω : Type} {calls : Calls ω} {replyPrevails : Bool}

/-- The ids of the calls that have not ended. -/
def ids (calls : Calls ω) : List Nat := calls.live.map (·.id)

/-- The calls bear numbers of their own, up to how many were made. -/
structure Numbered (calls : Calls ω) : Prop where
  nodup : calls.ids.Nodup
  bound : ∀ n ∈ calls.ids, n ≤ calls.made

private theorem ids_change (id : Nat) {f : Call ω → Call ω} (hf : ∀ call, (f call).id = call.id) :
    (calls.change id f).ids = calls.ids := by
  rw [ids, change, List.map_map]
  refine List.map_congr_left fun call _ => ?_
  dsimp only [Function.comp]
  split
  · exact hf call
  · rfl

/-- A change of one call keeps the numbers. -/
theorem Numbered.change (h : Numbered calls) (id : Nat) {f : Call ω → Call ω}
    (hf : ∀ call, (f call).id = call.id) : Numbered (calls.change id f) where
  nodup := by
    rw [ids_change id hf]
    exact h.nodup
  bound := by
    rw [ids_change id hf]
    exact h.bound

/-- A call that is removed takes its number with it. -/
theorem Numbered.drop (h : Numbered calls) (id : Nat) : Numbered (calls.drop id) where
  nodup := h.nodup.sublist (List.filter_sublist.map _)
  bound n hn := h.bound n ((List.filter_sublist.map _).subset hn)

/-- Whatever happens, calls bear numbers of their own. -/
theorem Numbered.step (h : Numbered calls) (e : Event ω) : Numbered (calls.step e) := by
  cases e with
  | made waiter method deadline =>
    have hids : (calls.make waiter method deadline).ids = calls.ids ++ [calls.made + 1] :=
      List.map_append
    refine ⟨?_, fun n hn => ?_⟩
    · rw [Calls.step, hids]
      refine List.nodup_append.mpr ⟨h.nodup, List.nodup_singleton _, ?_⟩
      rintro n hn _ hm rfl
      rw [List.mem_singleton.mp hm] at hn
      exact absurd (h.bound _ hn) (by omega)
    · rw [Calls.step, hids] at hn
      change n ≤ calls.made + 1
      rcases List.mem_append.mp hn with hn | hn
      · exact Nat.le_succ_of_le (h.bound n hn)
      · exact Nat.le_of_eq (List.mem_singleton.mp hn)
  | wrote id outcome =>
    cases outcome with
    | error cause => exact h.drop id
    | ok done => exact h.change (f := Call.wrote) id fun _ => rfl
  | stalled id => exact h.drop id
  | replied message =>
    rw [Calls.step]
    unfold receive reply
    split
    · next value result _ =>
      split
      · exact h
      · next id _ =>
        have hsettled := h.change id (Call.id_settle result)
        exact ⟨hsettled.nodup, hsettled.bound⟩
    · exact h
  | expired id => exact h.change (f := Call.expire) id fun _ => rfl
  | closed =>
    have hids : calls.close.ids = calls.ids := by
      rw [ids, close, List.map_map]
      refine List.map_congr_left fun call _ => ?_
      dsimp only [Function.comp]
      split
      · exact Call.id_settle _ _
      · rfl
    refine ⟨?_, fun n hn => ?_⟩
    · rw [Calls.step, hids]
      exact h.nodup
    · rw [Calls.step, hids] at hn
      exact h.bound n hn
  | woken id =>
    rw [Calls.step]
    unfold collect
    rw [Act.state_get_bind]
    cases calls.ready? id with
    | none => exact h
    | some ready => exact h.drop id

private theorem Numbered.call?_of_mem (h : Numbered calls) {call : Call ω}
    (hc : call ∈ calls.live) :
    calls.call? call.id = some call := by
  have hsome : (calls.call? call.id).isSome := by
    rw [call?, List.find?_isSome]
    exact ⟨call, hc, BEq.rfl⟩
  obtain ⟨found, hf⟩ := Option.isSome_iff_exists.mp hsome
  rw [hf, List.inj_on_of_nodup_map h.nodup (List.mem_of_find?_eq_some hf) hc (calls.id_of_call? hf)]

private theorem Numbered.expire_of_not_possible (h : Numbered calls) {id : Nat}
    (hp : ¬calls.possible (.expired id)) : calls.expire id = calls := by
  have hsame (call : Call ω) (hc : call ∈ calls.live) :
      (if call.id = id then call.expire else call) = call := by
    split
    · next hid =>
      rw [possible, ← hid, h.call?_of_mem hc, Option.any_some, decide_eq_true_eq] at hp
      rw [Call.expire, Clock.ring_of_ne hp]
    · rfl
  have hlive := (List.map_congr_left hsame).trans (List.map_id' calls.live)
  exact congrArg (fun live => { calls with live }) hlive

/-- Possible events lead to the table from one without calls. -/
def Reached (replyPrevails : Bool) (calls : Calls ω) : Prop :=
  ∃ events, (fresh replyPrevails : Calls ω).feasible events ∧
    (fresh replyPrevails).run events = calls

/-- Where no call was made, nothing has to happen. -/
theorem Reached.nil (replyPrevails : Bool) :
    Reached replyPrevails (fresh replyPrevails : Calls ω) :=
  ⟨[], rfl, rfl⟩

/-- Events can happen after others that lead to where they can happen. -/
theorem feasible_append (events later : List (Event ω)) :
    calls.feasible (events ++ later) =
      (calls.feasible events && (calls.run events).feasible later) := by
  induction events generalizing calls with
  | nil => rfl
  | cons first rest ih =>
    rw [List.cons_append, feasible, feasible, ih, Bool.and_assoc]
    rfl

/-- Possible events reach another table. -/
theorem Reached.run (h : Reached replyPrevails calls) {later : List (Event ω)}
    (hf : calls.feasible later) : Reached replyPrevails (calls.run later) := by
  obtain ⟨events, hevents, rfl⟩ := h
  refine ⟨events ++ later, ?_, List.foldl_append⟩
  rw [feasible_append, hevents, hf]
  rfl

/-- One more event reaches another table. -/
theorem Reached.step (h : Reached replyPrevails calls) {e : Event ω} (hp : calls.possible e) :
    Reached replyPrevails (calls.step e) := by
  have hf : calls.feasible [e] := by
    rw [feasible, hp]
    rfl
  exact h.run hf

/-- The calls of a table that is reached bear numbers of their own. -/
theorem Reached.numbered (h : Reached replyPrevails calls) : Numbered calls := by
  obtain ⟨events, -, rfl⟩ := h
  have hrun (start : Calls ω) (hs : Numbered start) : Numbered (start.run events) := by
    induction events generalizing start with
    | nil => exact hs
    | cons e rest ih => exact ih _ (hs.step e)
  exact hrun (fresh replyPrevails) ⟨List.nodup_nil, nofun⟩

/-- A call that is made is found, and its frame was not written yet. -/
theorem Numbered.call?_make (h : Numbered calls) (waiter : ω) (method : Text)
    (deadline : Option Nat) :
    (calls.make waiter method deadline).call? (calls.made + 1) =
      some { id := calls.made + 1, waiter, method, deadline } := by
  have hfresh : calls.call? (calls.made + 1) = none := by
    rw [call?, List.find?_eq_none]
    intro call hc hid
    have := h.bound call.id (List.mem_map_of_mem hc)
    rw [beq_iff_eq] at hid
    omega
  rw [Calls.call?_make, hfresh, Option.none_or, if_pos rfl]

/-- Whether an event is one of the messages, or their end. -/
def Event.isInbound : Event ω → Bool
  | replied _ => true
  | closed => true
  | _ => false

/-- A property of tables that is kept in all possible events that are no messages. -/
structure Lasting (P : Calls ω → Prop) : Prop where
  numbered : ∀ calls, P calls → Numbered calls
  step : ∀ calls e, P calls → calls.possible e → e.isInbound = false → P (calls.step e)

/-- Possible events, whatever they are, reach another table. -/
theorem lasting_reached (replyPrevails : Bool) : Lasting (@Reached ω replyPrevails) where
  numbered _ h := h.numbered
  step _ _ h hp _ := h.step hp

namespace Lasting

variable {P : Calls ω → Prop}

/-- The time of any call may be said to be up at any moment. -/
theorem expire (hP : Lasting P) (h : P calls) (id : Nat) : P (calls.expire id) := by
  by_cases hp : calls.possible (.expired id)
  · exact hP.step calls (.expired id) h hp rfl
  · rwa [(hP.numbered calls h).expire_of_not_possible hp]

/-- Any call may be given its turn at any moment. -/
theorem collect (hP : Lasting P) (h : P calls) (id : Nat) :
    P ((Calls.collect id).state calls) := by
  cases hr : calls.ready? id with
  | none =>
    unfold Calls.collect
    rwa [Act.state_get_bind, hr]
  | some ready =>
    have hp : calls.possible (.woken id) := by
      rw [possible, hr]
      rfl
    exact hP.step calls (.woken id) h hp rfl

end Lasting

end Calls

end BreakageAdvisor
