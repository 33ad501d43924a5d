import BreakageAdvisor.Proofs.Host.Standing

/-!
# Messages that are refused

A message that cannot be read is refused and changes nothing. Serving goes on, unless the message
gives an infinite number for a tab: that failure is not put down to the message.
-/

namespace BreakageAdvisor

namespace Inbound

/-- Whether a message says that an infinite number is the tab that came to the foreground, or that
issued a request. -/
def namesInfiniteTab (message : Fields) : Bool :=
  (typeOf message = "tabActivated" || typeOf message = "request") &&
    match Fields.get? message "tabId" with
    | some (.float (.infinite _)) => true
    | _ => false

private theorem namesInfiniteTab_iff {message : Fields} :
    namesInfiniteTab message ↔
      (typeOf message = "tabActivated" ∨ typeOf message = "request") ∧
        ∃ negative, Fields.get? message "tabId" = some (.float (.infinite negative)) := by
  simp only [namesInfiniteTab, Bool.and_eq_true, Bool.or_eq_true, decide_eq_true_eq]
  refine and_congr_right fun _ => ⟨fun h => ?_, ?_⟩
  · split at h
    · next negative hv => exact ⟨negative, hv⟩
    · cases h
  · rintro ⟨negative, hv⟩
    rw [hv]

private theorem infinite_of_tabIdOf {value : Json} {cause : Failure}
    (h : tabIdOf value = .error cause)
    (hb : cause.blamesMessage = false) : ∃ negative, value = .float (.infinite negative) := by
  unfold tabIdOf Json.toInteger at h
  cases value with
  | float x =>
    cases x with
    | infinite negative => exact ⟨negative, rfl⟩
    | nan =>
      cases h
      cases hb
    | finite negative mantissa exponent => cases h
  | text t =>
    exfalso
    dsimp only at h
    cases hd : Text.groupedDigits? false (Text.splitSign t.stripAroundNumber).2 with
    | none =>
      simp only [hd] at h
      cases h
      cases hb
    | some digits =>
      simp only [hd] at h
      split at h
      · cases h
      · next hr =>
        split at hr
        · cases hr
          cases h
          cases hb
        · cases hr
  | int n => cases h
  | bool b => cases h
  | _ =>
    cases h
    cases hb

private theorem blames_of_replyOf {message : Fields} {cause : Failure}
    (h : replyOf message = .error cause) : cause.blamesMessage := by
  unfold replyOf at h
  dsimp only at h
  split at h
  · cases h
    rfl
  · split at h
    · cases h
    · cases h

private theorem blames_of_tabUpdatedOf {message : Fields} {cause : Failure}
    (h : tabUpdatedOf message = .error cause) : cause.blamesMessage := by
  unfold tabUpdatedOf at h
  cases ht : Tab.ofJson (Fields.getD message "tab") with
  | ok tab =>
    rw [ht] at h
    cases h
  | error fault =>
    rw [ht] at h
    cases h
    unfold Tab.ofJson at ht
    split at ht
    · split at ht
      · cases ht
      · cases ht
        rfl
    · cases ht
      rfl

private theorem ofFields_of_infinite {message : Fields} (h : namesInfiniteTab message) :
    ofFields message = .error (.number .infinityAsInteger) := by
  obtain ⟨htype, negative, htab⟩ := namesInfiniteTab_iff.mp h
  rcases htype with htype | htype
  · have hof : ofFields message = tabActivatedOf message := by
      simp only [ofFields, htype]
      rfl
    rw [hof, tabActivatedOf, htab]
    rfl
  · have hof : ofFields message = requestOf message := by
      simp only [ofFields, htype]
      rfl
    rw [hof, requestOf, htab]
    rfl

private theorem infinite_of_tabActivatedOf {message : Fields} {cause : Failure}
    (h : tabActivatedOf message = .error cause) (hb : cause.blamesMessage = false) :
    ∃ negative, Fields.get? message "tabId" = some (.float (.infinite negative)) := by
  unfold tabActivatedOf at h
  split at h
  · cases h
    cases hb
  · next value hv =>
    cases ht : tabIdOf value with
    | ok tab =>
      rw [ht] at h
      cases h
    | error fault =>
      rw [ht] at h
      cases h
      obtain ⟨negative, rfl⟩ := infinite_of_tabIdOf ht hb
      exact ⟨negative, hv⟩

private theorem infinite_of_requestOf {message : Fields} {cause : Failure}
    (h : requestOf message = .error cause) (hb : cause.blamesMessage = false) :
    ∃ negative, Fields.get? message "tabId" = some (.float (.infinite negative)) := by
  unfold requestOf at h
  cases ht : tabIdOf ((Fields.get? message "tabId").getD (.int (-1))) with
  | ok tab =>
    rw [ht] at h
    cases h
  | error fault =>
    rw [ht] at h
    cases h
    obtain ⟨negative, hv⟩ := infinite_of_tabIdOf ht hb
    cases hg : Fields.get? message "tabId" with
    | none =>
      rw [hg] at hv
      cases hv
    | some value =>
      rw [hg] at hv
      exact ⟨negative, congrArg some hv⟩

private theorem blames_eq_false_iff {message : Fields} {cause : Failure}
    (h : ofFields message = .error cause) :
    cause.blamesMessage = false ↔ namesInfiniteTab message := by
  constructor
  · intro hb
    rw [namesInfiniteTab_iff]
    unfold ofFields at h
    dsimp only at h
    split at h
    · rw [blames_of_replyOf h] at hb
      cases hb
    split at h
    · cases h
    split at h
    · cases h
    split at h
    · rw [blames_of_tabUpdatedOf h] at hb
      cases hb
    split at h
    · next htype => exact ⟨.inl htype, infinite_of_tabActivatedOf h hb⟩
    split at h
    · next htype => exact ⟨.inr htype, infinite_of_requestOf h hb⟩
    split at h
    · cases h
    split at h
    · cases h
    · cases h
  · intro hn
    rw [ofFields_of_infinite hn] at h
    cases h
    rfl

end Inbound

namespace Frame

/-- Whether a body holds no message, or a message that is refused. -/
def isRefused (body : Bytes) : Bool :=
  match decode body with
  | .error _ => true
  | .ok message =>
    match Inbound.ofFields message with
    | .error _ => true
    | .ok _ => false

/-- Whether a body holds a message that names an infinite tab. -/
def namesInfiniteTab (body : Bytes) : Bool :=
  match decode body with
  | .error _ => false
  | .ok message => Inbound.namesInfiniteTab message

/-- A body that names an infinite tab is refused. -/
theorem isRefused_of_infinite {body : Bytes} (h : namesInfiniteTab body) : isRefused body := by
  unfold namesInfiniteTab at h
  unfold isRefused
  cases hd : decode body with
  | error cause => rfl
  | ok message =>
    simp only [hd] at h
    simp only [Inbound.ofFields_of_infinite h]

end Frame

namespace Host

open BreakageAdvisor.Frame

variable {body : Bytes}

/-- A message that is refused causes no event and changes nothing. Nothing is done about it but a
report, unless it names an infinite tab: that ends serving. -/
theorem take_of_refused (h : isRefused body) (host : Host) :
    (take (some (decode body))).state host = host ∧ (take (some (decode body))).deeds host = [] ∧
      (take (some (decode body))).value host =
        if namesInfiniteTab body then .ended (.error (.number .infinityAsInteger)) else .quiet := by
  unfold isRefused at h
  unfold namesInfiniteTab
  cases hd : decode body with
  | error cause => exact ⟨rfl, rfl, rfl⟩
  | ok message =>
    rw [hd] at h
    cases hm : Inbound.ofFields message with
    | ok inbound =>
      simp only [hm] at h
      cases h
    | error cause =>
      simp only [take, hm, refuse]
      have hb := Inbound.blames_eq_false_iff hm
      cases hc : cause.blamesMessage with
      | true =>
        have hn : Inbound.namesInfiniteTab message = false := by
          refine Bool.eq_false_iff.mpr fun hn => ?_
          rw [hb.mpr hn] at hc
          cases hc
        simp only [hn, ite_true, Bool.false_eq_true, ite_false]
        exact ⟨rfl, rfl, rfl⟩
      | false =>
        have hn := hb.mp hc
        rw [Inbound.ofFields_of_infinite hn] at hm
        cases hm
        simp only [hn, ite_true]
        exact ⟨rfl, rfl, rfl⟩

/-- A message that is not refused does not end serving, where the store works. -/
theorem take_of_accepted (h : isRefused body = false) {host : Host}
    (hw : host.advisor.ledger.store.Works) :
    ((take (some (decode body))).state host).standing = host.standing ∧
      ∀ result, (take (some (decode body))).value host ≠ .ended result := by
  refine ⟨keeps_take _ host, ?_⟩
  unfold isRefused at h
  cases hd : decode body with
  | error cause =>
    rw [hd] at h
    cases h
  | ok message =>
    rw [hd] at h
    cases hm : Inbound.ofFields message with
    | error cause =>
      simp only [hm] at h
      cases h
    | ok inbound =>
      simp only [take, hm]
      split
      · next cause hr => cases hr
      · exact nofun
      · next _ _ hr =>
        cases hr
        obtain ⟨event, hv⟩ : ∃ event, (onBridge (Bridge.receive inbound)).value host = .ok event :=
          Bridge.receive_of_works inbound hw
        rw [Act.value_bind, hv]
        cases event with
        | none => exact nofun
        | some event => exact nofun

end Host

end BreakageAdvisor
