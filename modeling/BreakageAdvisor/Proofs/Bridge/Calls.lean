import BreakageAdvisor.Bridge.Calls

/-!
# The table of calls, read back

What every operation does to the call of an id. An id names at most one call, and a value is the id
of at most one call.
-/

namespace BreakageAdvisor

namespace Clock

/-- A clock that is started is up only if it was up before. -/
@[simp]
theorem start_eq_up (clock : Clock) : clock.start = up ↔ clock = up := by
  cases clock <;> decide

/-- A clock that has rung is up if it ran. -/
theorem ring_eq_up (clock : Clock) : clock.ring = up ↔ clock = running ∨ clock = up := by
  cases clock <;> decide

/-- A clock that does not run does not ring. -/
theorem ring_of_ne {clock : Clock} (h : clock ≠ running) : clock.ring = clock := by
  cases clock with
  | running => exact absurd rfl h
  | _ => rfl

end Clock

namespace Call

variable {ω : Type} (result : Except Failure Json) (call : Call ω)

/-- Settling changes no id. -/
@[simp]
theorem id_settle : (call.settle result).id = call.id := by
  unfold settle
  split <;> rfl

/-- A call that is settled for the first time gets the result. -/
theorem result_settle_of_none (h : call.result = none) :
    (call.settle result).result = some result := by
  simp [settle, h]

/-- A call that was settled before keeps its result. -/
theorem settle_of_some {r : Except Failure Json} (h : call.result = some r) :
    call.settle result = call := by
  simp [settle, h]

/-- A result does not touch the time of a call. -/
@[simp]
theorem clock_settle : (call.settle result).clock = call.clock := by
  unfold settle
  split <;> rfl

/-- The time of a call is not up because its frame was written. -/
@[simp]
theorem clock_wrote_eq_up : call.wrote.clock = .up ↔ call.clock = .up := by
  unfold wrote
  dsimp only
  split
  · exact call.clock.start_eq_up
  · exact Iff.rfl

/-- A call ends with its result, or because its time is up. -/
theorem ending?_eq_some {prevails : Bool} {r : Except Failure Json}
    (h : call.ending? prevails = some r) :
    call.result = some r ∧ (prevails ∨ call.clock ≠ .up) ∨
      r = .error call.timedOut ∧ call.clock = .up ∧ (prevails → call.result = none) := by
  unfold ending? at h
  split at h
  · next hup =>
    simp only [Bool.and_eq_true, decide_eq_true_eq, Bool.not_eq_true', Bool.and_eq_false_iff] at hup
    refine .inr ⟨(Option.some.inj h).symm, hup.1, fun hp => ?_⟩
    simpa [hp] using hup.2
  · next hup =>
    refine .inl ⟨h, ?_⟩
    simp only [h, Option.isSome_some, Bool.and_true, Bool.and_eq_true, decide_eq_true_eq,
      Bool.not_eq_true', not_and, Bool.not_eq_false] at hup
    by_cases hc : call.clock = .up
    · exact .inl (hup hc)
    · exact .inr hc

end Call

namespace Calls

variable {ω : Type} (calls : Calls ω)

/-- A value is the id of at most one call. -/
theorem isId_inj {value : Json} {m n : Nat} (hm : isId value m) (hn : isId value n) : m = n := by
  cases value with
  | int k =>
    simp only [isId, Json.sameScalar, Json.asInt?, beq_iff_eq] at hm hn
    omega
  | bool b =>
    simp only [isId, Json.sameScalar, Json.asInt?, beq_iff_eq] at hm hn
    omega
  | float x =>
    simp only [isId, Json.sameScalar, Json.asInt?] at hm hn
    cases x with
    | finite s f e =>
      simp only [Binary64.equalsInt, Bool.and_eq_true, beq_iff_eq] at hm hn
      omega
    | _ => cases hm
  | _ => cases hm

/-- The call that is found for an id has it. -/
theorem id_of_call? {n : Nat} {call : Call ω} (h : calls.call? n = some call) : call.id = n := by
  simpa using List.find?_some h

/-- A new call is found under its id, and all others as before. -/
theorem call?_make (waiter : ω) (method : Text) (deadline : Option Nat) (n : Nat) :
    (calls.make waiter method deadline).call? n =
      (calls.call? n).or
        (if n = calls.made + 1
          then some { id := calls.made + 1, waiter, method, deadline } else none) := by
  rw [call?, make, List.find?_append, call?]
  congr 1
  by_cases h : n = calls.made + 1
  · simp [h]
  · simp [h, Ne.symm h]

/-- The calls after one was made are those before, and the new one. -/
theorem call?_or_new_of_make {waiter : ω} {method : Text} {deadline : Option Nat} {n : Nat}
    {call : Call ω} (h : (calls.make waiter method deadline).call? n = some call) :
    calls.call? n = some call ∨
      n = calls.made + 1 ∧ call = { id := calls.made + 1, waiter, method, deadline } := by
  rw [call?_make] at h
  cases ho : calls.call? n with
  | some old =>
    rw [ho, Option.some_or] at h
    exact .inl h
  | none =>
    rw [ho, Option.none_or] at h
    split at h
    · next hn => exact .inr ⟨hn, (Option.some.inj h).symm⟩
    · cases h

/-- A change of one call leaves all others as they are. -/
theorem call?_change (id : Nat) {f : Call ω → Call ω} (hf : ∀ call, (f call).id = call.id)
    (n : Nat) :
    (calls.change id f).call? n = if n = id then (calls.call? n).map f else calls.call? n := by
  have hid (call : Call ω) : (if call.id = id then f call else call).id = call.id := by
    split
    · exact hf call
    · rfl
  rw [call?, change, List.find?_map]
  simp only [Function.comp_def, hid]
  rw [call?]
  cases hc : calls.live.find? (·.id == n) with
  | none => simp
  | some call =>
    have hn : call.id = n := calls.id_of_call? hc
    simp only [Option.map_some, hn]
    split <;> rfl

/-- A frame that was written changes its call. -/
theorem call?_wrote (id n : Nat) :
    (calls.wrote id).call? n =
      if n = id then (calls.call? n).map Call.wrote else calls.call? n :=
  calls.call?_change (f := Call.wrote) id (fun _ => rfl) n

/-- Time that is up changes its call. -/
theorem call?_expire (id n : Nat) :
    (calls.expire id).call? n =
      if n = id then (calls.call? n).map Call.expire else calls.call? n :=
  calls.call?_change (f := Call.expire) id (fun _ => rfl) n

/-- Where the messages have ended every call whose reply is awaited is settled. -/
theorem call?_close (n : Nat) :
    calls.close.call? n = (calls.call? n).map fun call =>
      if n ∈ calls.awaited then call.settle (.error Call.streamClosed) else call := by
  have hid (call : Call ω) :
      (if call.id ∈ calls.awaited then call.settle (.error Call.streamClosed) else call).id =
        call.id := by
    split
    · exact Call.id_settle _ _
    · rfl
  rw [call?, close, List.find?_map]
  simp only [Function.comp_def, hid]
  rw [call?]
  cases hc : calls.live.find? (·.id == n) with
  | none => rfl
  | some call =>
    have hn : call.id = n := calls.id_of_call? hc
    simp only [Option.map_some, hn]

/-- A call that was removed is not found, and all others are as before. -/
theorem call?_drop (id n : Nat) :
    (calls.drop id).call? n = if n = id then none else calls.call? n := by
  rw [call?, drop, List.find?_filter, call?]
  by_cases h : n = id
  · rw [if_pos h, List.find?_eq_none]
    intro call _
    simp [h]
  · rw [if_neg h]
    congr 1
    funext call
    by_cases hc : call.id = n
    · simp [hc, h]
    · simp [hc]

/-- A call that may end was written, and ends as it does when it gets its turn. -/
theorem ready?_eq_some {id : Nat} {call : Call ω} {r : Except Failure Json}
    (h : calls.ready? id = some (call, r)) :
    calls.call? id = some call ∧ call.written ∧ call.ending? calls.replyPrevails = some r := by
  obtain ⟨found, hc, hr⟩ := Option.bind_eq_some_iff.mp h
  split at hr
  · next hw =>
    obtain ⟨r', hr', heq⟩ := Option.map_eq_some_iff.mp hr
    cases heq
    exact ⟨hc, hw, hr'⟩
  · cases hr

end Calls

end BreakageAdvisor
