import BreakageAdvisor.Proofs.Bridge.Refusal
import BreakageAdvisor.Proofs.Frame

/-!
# Refused frames leave no trace

Frames with any bodies are taken off a stream while handlers begin and time passes in any order. The
host serves to the end of the stream, unless a frame names an infinite tab. What it then does and
what becomes of it is the same as without the frames that are refused.
-/

namespace BreakageAdvisor

/-- What happens while a host serves. -/
inductive Turn where
  /-- The next frame of the stream is taken. This is its body. -/
  | framed (body : Bytes)
  /-- The handler at a place among those that have not begun begins. -/
  | began (place : Nat)
  /-- Time passes, in milliseconds. -/
  | passed (milliseconds : Nat)

namespace Turn

/-- The bytes that a turn takes off the stream. -/
def bytes : Turn → Bytes
  | framed body => Frame.ofBody body
  | _ => []

/-- Whether a turn takes a frame that is refused. -/
def isRefused : Turn → Bool
  | framed body => Frame.isRefused body
  | _ => false

/-- Whether a turn takes a frame that names an infinite tab. -/
def namesInfiniteTab : Turn → Bool
  | framed body => Frame.namesInfiniteTab body
  | _ => false

/-- A turn takes a frame of a valid length, if it takes any. -/
def Valid : Turn → Prop
  | framed body => Frame.Valid body
  | _ => True

instance (t : Turn) : Decidable t.Valid := by
  cases t with
  | framed body => exact inferInstanceAs (Decidable (Frame.Valid body))
  | began place => exact inferInstanceAs (Decidable True)
  | passed milliseconds => exact inferInstanceAs (Decidable True)

end Turn

namespace Desk

/-- A turn at the desk, where the message that is taken is at hand. -/
def turn : Turn → Act Desk (Option Event)
  | .framed body => heed (some (Frame.decode body))
  | .began place => do
    begin place
    return none
  | .passed milliseconds => do
    onHost (Host.advance milliseconds)
    return none

/-- Turns at the desk, one after the other, and the events that are fired in them. -/
def run : List Turn → Act Desk (List Event)
  | [] => return []
  | t :: rest => do
    let event ← turn t
    return event.toList ++ (← run rest)

/-- How serving has ended, if it has, and which calls to the store fail. -/
def standing (desk : Desk) : Option (Except Failure Unit) × (Nat → StoreCall → Bool) :=
  desk.host.standing

section Heeding

variable {message : Option (Except Failure Fields)} {desk : Desk}

private theorem heed_of_quiet (h : (Host.take message).value desk.host = .quiet) :
    (heed message).value desk = none ∧
      (heed message).state desk = { desk with host := (Host.take message).state desk.host } ∧
      (heed message).deeds desk = (Host.take message).deeds desk.host := by
  have hh : (onHost (Host.take message)).value desk = .quiet := h
  have hv : (hear message).value desk = .quiet := by
    rw [hear, Act.value_bind, hh]
    rfl
  have hs : (hear message).state desk =
      { desk with host := (Host.take message).state desk.host } := by
    rw [hear, Act.state_bind, hh]
    rfl
  have hd : (hear message).deeds desk = (Host.take message).deeds desk.host := by
    rw [hear, Act.deeds_bind, hh]
    exact List.append_nil _
  rw [heed, Act.value_bind, Act.state_bind, Act.deeds_bind, hv, hs, hd]
  exact ⟨rfl, rfl, List.append_nil _⟩

/-- A message that ends serving. -/
theorem served_heed {result : Except Failure Unit}
    (h : (Host.take message).value desk.host = .ended result) :
    ((heed message).state desk).host.served = some result := by
  have hh : (onHost (Host.take message)).value desk = .ended result := h
  have hv : (hear message).value desk = .ended result := by
    rw [hear, Act.value_bind, hh]
    rfl
  rw [heed, Act.state_bind, hv]
  rfl

private theorem standing_heed
    (hs : ((Host.take message).state desk.host).standing = desk.host.standing)
    (h : ∀ result, (Host.take message).value desk.host ≠ .ended result) :
    ((heed message).state desk).standing = desk.standing := by
  have hhear : ((hear message).state desk).standing = desk.standing ∧
      ∀ result, (hear message).value desk ≠ .ended result := by
    rw [hear, Act.state_bind, Act.value_bind]
    change ∀ result, (onHost (Host.take message)).value desk ≠ .ended result at h
    cases hv : (onHost (Host.take message)).value desk with
    | quiet => exact ⟨hs, nofun⟩
    | fired event => exact ⟨hs, nofun⟩
    | ended result => exact absurd hv (h result)
  rw [heed, Act.state_bind]
  cases hv : (hear message).value desk with
  | quiet => exact hhear.1
  | fired event => exact hhear.1
  | ended result => exact absurd hv (hhear.2 result)

private theorem heed_of_refused {body : Bytes} (h : Frame.isRefused body)
    (hn : Frame.namesInfiniteTab body = false) (desk : Desk) :
    (heed (some (Frame.decode body))).value desk = none ∧
      (heed (some (Frame.decode body))).state desk = desk ∧
      (heed (some (Frame.decode body))).deeds desk = [] := by
  obtain ⟨hs, hd, hv⟩ := Host.take_of_refused h desk.host
  rw [if_neg (Bool.eq_false_iff.mp hn)] at hv
  obtain ⟨hvalue, hstate, hdeeds⟩ := heed_of_quiet hv
  rw [hs] at hstate
  rw [hd] at hdeeds
  exact ⟨hvalue, hstate, hdeeds⟩

end Heeding

private theorem keeps_onHost {α : Type} {act : Act Host α} (h : Act.Keeps Host.standing act) :
    Act.Keeps standing (onHost act) := fun desk => h desk.host

private theorem keeps_begin (place : Nat) : Act.Keeps standing (begin place) := by
  refine .bind .get fun desk => ?_
  split
  · exact .pure _
  · exact .bind (fun _ => rfl) fun _ => keeps_onHost (Host.keeps_run (Host.keeps_handler _))

private theorem standing_turn {t : Turn} (hn : t.namesInfiniteTab = false) {desk : Desk}
    (hw : desk.host.advisor.ledger.store.Works) :
    ((turn t).state desk).standing = desk.standing := by
  cases t with
  | framed body =>
    cases hr : Frame.isRefused body with
    | false =>
      obtain ⟨hs, he⟩ := Host.take_of_accepted hr hw
      exact standing_heed hs he
    | true =>
      exact congrArg standing (heed_of_refused hr hn desk).2.1
  | began place => exact (keeps_begin place) desk
  | passed milliseconds => exact keeps_onHost (Host.keeps_advance milliseconds) desk

private theorem served_turn_of_infinite {t : Turn} (h : t.namesInfiniteTab) (desk : Desk) :
    ((turn t).state desk).host.served = some (.error (.number .infinityAsInteger)) := by
  cases t with
  | framed body =>
    have hn : Frame.namesInfiniteTab body := h
    obtain ⟨-, -, hv⟩ := Host.take_of_refused (Frame.isRefused_of_infinite hn) desk.host
    rw [if_pos hn] at hv
    exact served_heed hv
  | began place => cases h
  | passed milliseconds => cases h

private theorem turn_of_refused {t : Turn} (h : t.isRefused) (hn : t.namesInfiniteTab = false)
    (desk : Desk) :
    (turn t).value desk = none ∧ (turn t).state desk = desk ∧ (turn t).deeds desk = [] := by
  cases t with
  | framed body => exact heed_of_refused h hn desk
  | began place => cases h
  | passed milliseconds => cases h

private theorem run_filter {turns : List Turn} (hn : ∀ t ∈ turns, t.namesInfiniteTab = false)
    (desk : Desk) :
    (run turns).value desk = (run (turns.filter (!·.isRefused))).value desk ∧
      (run turns).state desk = (run (turns.filter (!·.isRefused))).state desk ∧
      (run turns).deeds desk = (run (turns.filter (!·.isRefused))).deeds desk := by
  induction turns generalizing desk with
  | nil => exact ⟨rfl, rfl, rfl⟩
  | cons t rest ih =>
    have hrest := ih fun t' ht' => hn t' (List.mem_cons_of_mem t ht')
    cases hr : t.isRefused with
    | true =>
      obtain ⟨hv, hs, hd⟩ := turn_of_refused hr (hn t List.mem_cons_self) desk
      rw [List.filter_cons_of_neg (by simp [hr]), run, Act.value_bind, Act.state_bind,
        Act.deeds_bind, hv, hs, hd]
      obtain ⟨hv, hs, hd⟩ := hrest desk
      refine ⟨?_, hs, ?_⟩
      · exact hv
      · rw [List.nil_append, Act.deeds_bind]
        exact (List.append_nil _).trans hd
    | false =>
      rw [List.filter_cons_of_pos (by simp [hr]), run, run]
      obtain ⟨hv, hs, hd⟩ := hrest ((turn t).state desk)
      simp only [Act.value_bind, Act.state_bind, Act.deeds_bind, hv, hs, hd, and_self]

end Desk

namespace Serving

/-- A turn, and the event that is fired in it. -/
def turn : Turn → Act Serving (Option Event)
  | .framed _ => take
  | .began place => do
    onDesk (Desk.begin place)
    return none
  | .passed milliseconds => do
    onDesk (Desk.onHost (Host.advance milliseconds))
    return none

/-- Turns, one after the other, and the events that are fired in them. -/
def run : List Turn → Act Serving (List Event)
  | [] => return []
  | t :: rest => do
    let event ← turn t
    return event.toList ++ (← run rest)

/-- Turns up to the end of the stream, and the events that are fired in them. -/
def attend (turns : List Turn) : Act Serving (List Event) := do
  let events ← run turns
  let _ ← take
  return events

/-- No call to the store fails. -/
def Works (serving : Serving) : Prop := serving.desk.host.advisor.ledger.store.Works

section Turns

variable {serving : Serving} {t : Turn} {turns : List Turn} {tail : Bytes}

/-- Nothing is taken once the host has served. -/
theorem take_of_served (h : serving.served.isSome) : take serving = ((none, serving), []) := by
  unfold take
  change (if serving.served.isSome then _ else _ : Act Serving (Option Event)) serving = _
  rw [if_pos h]
  rfl

/-- Before the host has served the next message is heeded at the desk. -/
theorem take_of_serving (h : serving.served = none) :
    take.value serving =
        (Desk.heed (Frame.read.value serving.stream)).value serving.desk ∧
      take.state serving =
        ⟨(Desk.heed (Frame.read.value serving.stream)).state serving.desk,
          Frame.read.state serving.stream⟩ ∧
      take.deeds serving = Frame.read.deeds serving.stream ++
        (Desk.heed (Frame.read.value serving.stream)).deeds serving.desk := by
  have htake : take serving = (do
      let message ← onStream Frame.read
      onDesk (Desk.heed message)) serving := by
    unfold take
    change (if serving.served.isSome then _ else _ : Act Serving (Option Event)) serving = _
    rw [if_neg (by rw [h]; exact nofun)]
  simp only [Act.value, Act.state, Act.deeds, Act.journal, htake]
  exact ⟨rfl, rfl, List.filter_append ..⟩

private theorem turn_eq (h : serving.served = none) (hv : t.Valid)
    (hrest : serving.stream.rest = t.bytes ++ tail) :
    (turn t).value serving = (Desk.turn t).value serving.desk ∧
      ((turn t).state serving).desk = (Desk.turn t).state serving.desk ∧
      ((turn t).state serving).stream.rest = tail ∧
      (turn t).deeds serving = (Desk.turn t).deeds serving.desk := by
  cases t with
  | framed body =>
    obtain ⟨hread, htail, hjournal⟩ := Frame.read_of_ofBody hv hrest
    obtain ⟨hvalue, hstate, hdeeds⟩ := take_of_serving h
    have hnone : Frame.read.deeds serving.stream = [] := congrArg (List.filter _) hjournal
    rw [hread] at hvalue hstate hdeeds
    rw [turn, hvalue, hstate, hdeeds, hnone]
    exact ⟨rfl, rfl, htail, rfl⟩
  | began place => exact ⟨rfl, rfl, hrest, rfl⟩
  | passed milliseconds => exact ⟨rfl, rfl, hrest, rfl⟩

/-- Turns that name no infinite tab do what they do at the desk, and take their bytes off the
stream. -/
theorem run_eq (hserving : serving.served = none)
    (hw : serving.desk.host.advisor.ledger.store.Works) (hv : ∀ t ∈ turns, t.Valid)
    (hn : ∀ t ∈ turns, t.namesInfiniteTab = false)
    (hrest : serving.stream.rest = turns.flatMap Turn.bytes ++ tail) :
    (run turns).value serving = (Desk.run turns).value serving.desk ∧
      ((run turns).state serving).desk = (Desk.run turns).state serving.desk ∧
      ((run turns).state serving).stream.rest = tail ∧
      (run turns).deeds serving = (Desk.run turns).deeds serving.desk ∧
      ((run turns).state serving).served = none := by
  induction turns generalizing serving with
  | nil => exact ⟨rfl, rfl, hrest, rfl, hserving⟩
  | cons t rest ih =>
    rw [List.flatMap_cons, List.append_assoc] at hrest
    obtain ⟨htv, hrv⟩ := List.forall_mem_cons.mp hv
    obtain ⟨htn, hrn⟩ := List.forall_mem_cons.mp hn
    obtain ⟨hvalue, hdesk, htail, hdeeds⟩ := turn_eq hserving htv hrest
    have hstanding := Desk.standing_turn htn hw
    rw [← hdesk] at hstanding
    have hserved : ((turn t).state serving).served = none :=
      (congrArg Prod.fst hstanding).trans hserving
    have hworks : ((turn t).state serving).desk.host.advisor.ledger.store.Works :=
      hw.of_fails (congrArg Prod.snd hstanding)
    obtain ⟨hvalue', hdesk', htail', hdeeds', hserved'⟩ := ih hserved hworks hrv hrn htail
    rw [hdesk] at hvalue' hdesk' hdeeds'
    simp only [run, Desk.run, Act.value_bind, Act.state_bind, Act.deeds_bind, hvalue, hdeeds,
      hvalue', hdeeds']
    exact ⟨rfl, hdesk', htail', rfl, hserved'⟩

private theorem served_turn_of_served (h : serving.served.isSome) (t : Turn) :
    ((turn t).state serving).served = serving.served := by
  cases t with
  | framed body => rw [turn, Act.state, take_of_served h]
  | began place => exact congrArg Prod.fst (Desk.keeps_begin place serving.desk)
  | passed milliseconds =>
    exact congrArg Prod.fst (Desk.keeps_onHost (Host.keeps_advance milliseconds) serving.desk)

private theorem served_run_of_served (h : serving.served.isSome) (turns : List Turn) :
    ((run turns).state serving).served = serving.served := by
  induction turns generalizing serving with
  | nil => rfl
  | cons t rest ih =>
    have ht := served_turn_of_served h t
    have hsome : ((turn t).state serving).served.isSome := by rwa [ht]
    exact (ih hsome).trans ht

private theorem served_run_of_infinite (hserving : serving.served = none)
    (hw : serving.desk.host.advisor.ledger.store.Works) (hv : ∀ t ∈ turns, t.Valid)
    (hn : ∃ t ∈ turns, t.namesInfiniteTab)
    (hrest : serving.stream.rest = turns.flatMap Turn.bytes ++ tail) :
    ((run turns).state serving).served = some (.error (.number .infinityAsInteger)) := by
  induction turns generalizing serving with
  | nil =>
    obtain ⟨t, ht, _⟩ := hn
    cases ht
  | cons t rest ih =>
    rw [List.flatMap_cons, List.append_assoc] at hrest
    obtain ⟨htv, hrv⟩ := List.forall_mem_cons.mp hv
    obtain ⟨-, hdesk, htail, -⟩ := turn_eq hserving htv hrest
    change ((run rest).state ((turn t).state serving)).served = _
    cases htn : t.namesInfiniteTab with
    | true =>
      have hended := Desk.served_turn_of_infinite htn serving.desk
      rw [← hdesk] at hended
      exact (served_run_of_served (Option.isSome_of_eq_some hended) rest).trans hended
    | false =>
      have hstanding := Desk.standing_turn htn hw
      rw [← hdesk] at hstanding
      obtain ⟨t', ht', htn'⟩ := hn
      rcases List.mem_cons.mp ht' with rfl | ht'
      · rw [htn] at htn'
        cases htn'
      · exact ih ((congrArg Prod.fst hstanding).trans hserving)
          (hw.of_fails (congrArg Prod.snd hstanding)) hrv ⟨t', ht', htn'⟩ htail

private theorem take_of_nil (h : serving.served = none) (hrest : serving.stream.rest = []) :
    (take.state serving).desk = (Desk.heed none).state serving.desk ∧
      (take.state serving).served = some (.ok ()) ∧ (take.state serving).stream.rest = [] ∧
      take.deeds serving = (Desk.heed none).deeds serving.desk := by
  obtain ⟨hread, htail, hjournal⟩ := Frame.read_of_nil hrest
  obtain ⟨-, hstate, hdeeds⟩ := take_of_serving h
  have hnone : Frame.read.deeds serving.stream = [] := congrArg (List.filter _) hjournal
  rw [hread] at hstate hdeeds
  rw [hstate, hdeeds, hnone]
  exact ⟨rfl, Desk.served_heed rfl, htail, rfl⟩

private theorem attend_eq (hserving : serving.served = none)
    (hw : serving.desk.host.advisor.ledger.store.Works) (hv : ∀ t ∈ turns, t.Valid)
    (hn : ∀ t ∈ turns, t.namesInfiniteTab = false)
    (hrest : serving.stream.rest = turns.flatMap Turn.bytes) :
    (attend turns).value serving = (Desk.run turns).value serving.desk ∧
      ((attend turns).state serving).desk =
        (Desk.heed none).state ((Desk.run turns).state serving.desk) ∧
      (attend turns).deeds serving = (Desk.run turns).deeds serving.desk ++
        (Desk.heed none).deeds ((Desk.run turns).state serving.desk) ∧
      ((attend turns).state serving).served = some (.ok ()) ∧
      ((attend turns).state serving).stream.rest = [] := by
  rw [← List.append_nil (turns.flatMap Turn.bytes)] at hrest
  obtain ⟨hvalue, hdesk, hnil, hdeeds, hserved⟩ := run_eq hserving hw hv hn hrest
  obtain ⟨hdesk', hserved', hnil', hdeeds'⟩ := take_of_nil hserved hnil
  rw [hdesk] at hdesk' hdeeds'
  refine ⟨hvalue, hdesk', ?_, hserved', hnil'⟩
  rw [attend, Act.deeds_bind, Act.deeds_bind, hdeeds, hdeeds']
  exact congrArg _ (List.append_nil _)

/-- Serving ends with a failure when a frame names an infinite tab, and the end of the stream is not
taken. -/
private theorem served_attend_of_infinite (hserving : serving.served = none)
    (hw : serving.desk.host.advisor.ledger.store.Works) (hv : ∀ t ∈ turns, t.Valid)
    (hn : ∃ t ∈ turns, t.namesInfiniteTab)
    (hrest : serving.stream.rest = turns.flatMap Turn.bytes) :
    ((attend turns).state serving).served = some (.error (.number .infinityAsInteger)) := by
  rw [← List.append_nil (turns.flatMap Turn.bytes)] at hrest
  have hended := served_run_of_infinite hserving hw hv hn hrest
  have htake := take_of_served (Option.isSome_of_eq_some hended)
  rw [attend, Act.state_bind, Act.state_bind]
  exact (congrArg (fun taken => taken.1.2.served) htake).trans hended

end Turns

/-- Where the store works, the host serves frames with any bodies to the end of the stream exactly
if none of them names an infinite tab. A frame that is refused fires no event and changes nothing,
and in a stream that is served to its end, it makes no difference: without all such frames the same
events are fired, the same is done beside reports, and the host and the handlers that have not begun
are the same in the end. -/
theorem served_attend_iff (turns : List Turn) (hv : ∀ t ∈ turns, t.Valid) (serving : Serving)
    (hserving : serving.served = none) (hw : serving.desk.host.advisor.ledger.store.Works)
    (hrest : serving.stream.rest = turns.flatMap Turn.bytes) :
    (((attend turns).state serving).served = some (.ok ()) ↔
        ∀ t ∈ turns, t.namesInfiniteTab = false) ∧
      (∀ body, Frame.isRefused body → ∀ host,
        (Host.take (some (Frame.decode body))).state host = host ∧
          (Host.take (some (Frame.decode body))).deeds host = [] ∧
          ∀ event, (Host.take (some (Frame.decode body))).value host ≠ .fired event) ∧
      ((∀ t ∈ turns, t.namesInfiniteTab = false) →
        ((attend turns).state serving).stream.rest = [] ∧
          ∀ stream, stream.rest = (turns.filter (!·.isRefused)).flatMap Turn.bytes →
            let without := (attend (turns.filter (!·.isRefused)))
            (attend turns).value serving = without.value { serving with stream } ∧
              (attend turns).deeds serving = without.deeds { serving with stream } ∧
              ((attend turns).state serving).desk =
                (without.state { serving with stream }).desk) := by
  refine ⟨⟨fun hok => ?_, fun hn => ?_⟩, fun body hr host => ?_, fun hn => ?_⟩
  · apply Classical.byContradiction
    intro hsome
    obtain ⟨t, ht⟩ := Classical.not_forall.mp hsome
    obtain ⟨hmem, htn⟩ := Classical.not_imp.mp ht
    have hended := served_attend_of_infinite hserving hw hv
      ⟨t, hmem, Bool.of_not_eq_false htn⟩ hrest
    rw [hended] at hok
    cases hok
  · exact (attend_eq hserving hw hv hn hrest).2.2.2.1
  · obtain ⟨hs, hd, hv⟩ := Host.take_of_refused hr host
    refine ⟨hs, hd, fun event => ?_⟩
    rw [hv]
    split
    · exact nofun
    · exact nofun
  · obtain ⟨hvalue, hdesk, hdeeds, -, hnil⟩ := attend_eq hserving hw hv hn hrest
    refine ⟨hnil, fun stream hstream => ?_⟩
    have hmem (t : Turn) (ht : t ∈ turns.filter (!·.isRefused)) : t ∈ turns :=
      (List.mem_filter.mp ht).1
    obtain ⟨hvalue', hdesk', hdeeds', -, -⟩ := @attend_eq { serving with stream } _
      hserving hw (fun t ht => hv t (hmem t ht)) (fun t ht => hn t (hmem t ht)) hstream
    obtain ⟨hrv, hrs, hrd⟩ := Desk.run_filter hn serving.desk
    refine ⟨?_, ?_, ?_⟩
    · rw [hvalue, hvalue', hrv]
    · rw [hdeeds, hdeeds', hrd, hrs]
    · rw [hdesk, hdesk', hrs]

/-- The body of the frame of a message. -/
def bodyOf (message : Fields) : Bytes :=
  match ((Json.object message).write .compact).encode with
  | .ok body => body
  | .error _ => []

/-- A host before a stream from which every turn takes its frame, at most three bytes in a read. -/
def before (turns : List Turn) : Serving where
  desk := { host := {} }
  stream := { rest := turns.flatMap Turn.bytes, portion := fun _ => some 3 }

/-- An introduction and a request, between frames that are refused: a body that is no text of a
message, a tab that is no number, and a reply whose id cannot be one. -/
def noise : List Turn := [
  .framed (bodyOf [("type", .text "hello"), ("featureActive", .bool true)]),
  .framed [0x7B],
  .began 0,
  .framed (bodyOf [("type", .text "tabActivated"), ("tabId", .float .nan)]),
  .passed 10,
  .framed (bodyOf [("type", .text "rpcResult"), ("id", .list [])]),
  .framed (bodyOf [("type", .text "request"), ("tabId", .int 1), ("url", .text "https://a.com/")]),
  .began 0]

/-- Noise is served to its end. -/
theorem served_attend_iff_noise :
    (∀ t ∈ noise, t.Valid) ∧ (before noise).served = none ∧
      (before noise).desk.host.advisor.ledger.store.Works ∧
      (before noise).stream.rest = noise.flatMap Turn.bytes ∧
      (noise.filter (·.isRefused)).length = 3 ∧
      ((attend noise).state (before noise)).served = some (.ok ()) := by
  have hv : ∀ t ∈ noise, t.Valid := by decide +kernel
  have hn : ∀ t ∈ noise, t.namesInfiniteTab = false := by decide +kernel
  have hw : (before noise).desk.host.advisor.ledger.store.Works := fun _ _ => rfl
  have hiff := (served_attend_iff noise hv (before noise) rfl hw rfl).1
  exact ⟨hv, rfl, hw, rfl, by decide +kernel, hiff.mpr hn⟩

/-- An infinite tab, and an introduction after it. -/
def infiniteTab : List Turn := [
  .framed (bodyOf [("type", .text "tabActivated"), ("tabId", .float (.infinite false))]),
  .framed (bodyOf [("type", .text "hello"), ("featureActive", .bool true)])]

/-- An infinite tab ends serving with a failure: what comes after it stays on the stream. -/
theorem served_attend_infiniteTab :
    (∀ t ∈ infiniteTab, t.Valid) ∧
      ((attend infiniteTab).state (before infiniteTab)).served =
        some (.error (.number .infinityAsInteger)) ∧
      ((attend infiniteTab).state (before infiniteTab)).stream.rest ≠ [] := by
  have hv : ∀ t ∈ infiniteTab, t.Valid := by decide +kernel
  have hn : ∃ t ∈ infiniteTab, t.namesInfiniteTab := ⟨_, List.mem_cons_self, by decide +kernel⟩
  exact ⟨hv, served_attend_of_infinite rfl (fun _ _ => rfl) hv hn rfl, by decide +kernel⟩

end Serving

end BreakageAdvisor
