import BreakageAdvisor.Proofs.Frame

/-!
# The frames of a stream

Bytes begin with some frames, and what follows the last of them is no frame: it breaks off, or it
begins with an invalid size. That divides any bytes in one way only. A reader gets the frames one by
one and takes no byte of the next one, in whatever portions the bytes arrive and whatever the bodies
hold, bytes that look like a size included.
-/

namespace BreakageAdvisor

namespace Frame

private theorem sizeBytes_sizeOf {header : Bytes} (h : header.length = 4) :
    sizeBytes (sizeOf header) = header := by
  match header with
  | [a, b, c, d] =>
    have ha := a.toNat_lt
    have hb := b.toNat_lt
    have hc := c.toNat_lt
    have hd := d.toNat_lt
    simp only [sizeOf, sizeBytes, List.foldr_cons, List.foldr_nil, List.cons.injEq, and_true,
      ← UInt8.toNat_inj, UInt8.toNat_ofNat']
    omega

private theorem length_ofBody (body : Bytes) : (ofBody body).length = 4 + body.length := by
  rw [ofBody, List.length_append]
  rfl

/-- No frame stands at the front of these bytes: they break off in the size or in the body, or the
size is invalid. -/
def Stuck (bytes : Bytes) : Prop :=
  bytes.length < 4 ∨ sizeOf (bytes.take 4) = 0 ∨ maxSize < sizeOf (bytes.take 4) ∨
    bytes.length < 4 + sizeOf (bytes.take 4)

instance (bytes : Bytes) : Decidable (Stuck bytes) := inferInstanceAs (Decidable (_ ∨ _))

private theorem exists_ofBody_of_not_stuck {bytes : Bytes} (h : ¬ Stuck bytes) :
    ∃ body rest, Valid body ∧ bytes = ofBody body ++ rest := by
  simp only [Stuck, not_or, Nat.not_lt] at h
  obtain ⟨hheader, hzero, hmax, hbody⟩ := h
  let size := sizeOf (bytes.take 4)
  have hlen : ((bytes.drop 4).take size).length = size := by
    rw [List.length_take, List.length_drop]
    omega
  refine ⟨(bytes.drop 4).take size, (bytes.drop 4).drop size,
    ⟨?_, Nat.le_trans (Nat.le_of_eq hlen) hmax⟩, ?_⟩
  · intro hnil
    rw [hnil] at hlen
    exact hzero hlen.symm
  · have hfour : (bytes.take 4).length = 4 := List.length_take_of_le hheader
    rw [ofBody, hlen, sizeBytes_sizeOf hfour, List.append_assoc, List.take_append_drop,
      List.take_append_drop]

private theorem not_stuck_ofBody {body : Bytes} (hv : Valid body) (rest : Bytes) :
    ¬ Stuck (ofBody body ++ rest) := by
  have hmax : maxSize < 0x100000000 := by decide
  have hpositive : 0 < body.length := List.length_pos_iff.mpr hv.1
  have hvalid : body.length ≤ maxSize := hv.2
  have hsize : sizeOf ((ofBody body ++ rest).take 4) = body.length := by
    rw [ofBody, List.append_assoc]
    exact sizeOf_sizeBytes (by omega)
  simp only [Stuck, hsize, List.length_append, length_ofBody]
  omega

private theorem ofBody_append_inj {body body' rest rest' : Bytes} (hv : Valid body)
    (hv' : Valid body')
    (h : ofBody body ++ rest = ofBody body' ++ rest') : body = body' ∧ rest = rest' := by
  have hmax : maxSize < 0x100000000 := by decide
  simp only [ofBody, List.append_assoc] at h
  obtain ⟨hsize, hrest⟩ := List.append_inj h rfl
  have hlength := congrArg sizeOf hsize
  rw [sizeOf_sizeBytes (Nat.lt_of_le_of_lt hv.2 hmax),
    sizeOf_sizeBytes (Nat.lt_of_le_of_lt hv'.2 hmax)] at hlength
  exact List.append_inj hrest hlength

/-- Bytes are the frames of some bodies and a rest without a frame. -/
structure Segments (bytes : Bytes) (bodies : List Bytes) (rest : Bytes) : Prop where
  bytes_eq : bytes = bodies.flatMap ofBody ++ rest
  valid : ∀ body ∈ bodies, Valid body
  stuck : Stuck rest

private theorem segments_nil_iff {bytes rest : Bytes} :
    Segments bytes [] rest ↔ bytes = rest ∧ Stuck rest := by
  constructor
  · intro h
    exact ⟨h.bytes_eq, h.stuck⟩
  · rintro ⟨rfl, h⟩
    exact ⟨rfl, by simp, h⟩

private theorem segments_cons_iff {bytes body rest : Bytes} {bodies : List Bytes} :
    Segments bytes (body :: bodies) rest ↔
      Valid body ∧ ∃ after, bytes = ofBody body ++ after ∧ Segments after bodies rest := by
  constructor
  · intro h
    obtain ⟨hv, hvalid⟩ := List.forall_mem_cons.mp h.valid
    exact ⟨hv, _, by rw [h.bytes_eq, List.flatMap_cons, List.append_assoc], rfl, hvalid, h.stuck⟩
  · rintro ⟨hv, after, rfl, h⟩
    refine ⟨?_, List.forall_mem_cons.mpr ⟨hv, h.valid⟩, h.stuck⟩
    rw [h.bytes_eq, List.flatMap_cons, List.append_assoc]

private theorem exists_segments (bytes : Bytes) : ∃ bodies rest, Segments bytes bodies rest := by
  by_cases h : Stuck bytes
  · exact ⟨[], bytes, segments_nil_iff.mpr ⟨rfl, h⟩⟩
  · obtain ⟨body, after, hv, hbytes⟩ := exists_ofBody_of_not_stuck h
    have hshorter : after.length < bytes.length := by
      rw [hbytes, List.length_append, length_ofBody]
      omega
    obtain ⟨bodies, rest, hs⟩ := exists_segments after
    exact ⟨body :: bodies, rest, segments_cons_iff.mpr ⟨hv, after, hbytes, hs⟩⟩
termination_by bytes.length

/-- Bytes are divided into frames and a rest in one way. -/
theorem Segments.unique {bytes rest rest' : Bytes} {bodies bodies' : List Bytes}
    (h : Segments bytes bodies rest) (h' : Segments bytes bodies' rest') :
    bodies' = bodies ∧ rest' = rest := by
  induction bodies generalizing bytes bodies' with
  | nil =>
    obtain ⟨rfl, hstuck⟩ := segments_nil_iff.mp h
    cases bodies' with
    | nil => exact ⟨rfl, (segments_nil_iff.mp h').1.symm⟩
    | cons body' bodies' =>
      obtain ⟨hv, after, rfl, -⟩ := segments_cons_iff.mp h'
      exact absurd hstuck (not_stuck_ofBody hv after)
  | cons body bodies ih =>
    obtain ⟨hv, after, rfl, hs⟩ := segments_cons_iff.mp h
    cases bodies' with
    | nil =>
      obtain ⟨rfl, hstuck⟩ := segments_nil_iff.mp h'
      exact absurd hstuck (not_stuck_ofBody hv after)
    | cons body' bodies' =>
      obtain ⟨hv', after', hbytes, hs'⟩ := segments_cons_iff.mp h'
      obtain ⟨rfl, rfl⟩ := ofBody_append_inj hv hv' hbytes
      obtain ⟨rfl, rfl⟩ := ih hs hs'
      exact ⟨rfl, rfl⟩

private theorem read_of_stuck {stream : ByteStream} (h : Stuck stream.rest) :
    read.value stream = none := by
  cases hheader : (stream.take 4).1 with
  | none => simp only [Act.value, read, hheader]
  | some header =>
    have happ := (stream.take_append 4).2 header hheader
    have hfour : header.length = 4 := stream.length_take 4 hheader
    have htake : stream.rest.take 4 = header := by rw [← happ, List.take_left' hfour]
    have hlen := congrArg List.length happ
    rw [List.length_append] at hlen
    rw [Stuck, htake] at h
    by_cases hsize : sizeOf header = 0 ∨ maxSize < sizeOf header
    · simp only [Act.value, read, hheader, if_pos hsize]
    · have hbody : ((stream.take 4).2.take (sizeOf header)).1 = none :=
        ByteStream.take_of_lt (by omega)
      simp only [Act.value, read, hheader, if_neg hsize, hbody, Option.map_none]

/-- What a body gives: the object that it writes in UTF-8, or an error that says what it is
instead. -/
inductive Outcome (body : Bytes) : Except Failure Fields → Prop
  | object {text : Text} {fields : Fields} (ht : Text.decode body = .ok text)
      (hj : Json.read text = .ok (.object fields)) : Outcome body (.ok fields)
  | other {text : Text} {value : Json} (ht : Text.decode body = .ok text)
      (hj : Json.read text = .ok value) (hv : ∀ fields, value ≠ .object fields) :
      Outcome body (.error (.frameNotObject value.kind))
  | undecodable (h : ∀ text, Text.decode body = .ok text → ∀ value, Json.read text ≠ .ok value) :
      Outcome body (.error (.undecodableFrame body.length))

private theorem outcome_iff {body : Bytes} {result : Except Failure Fields} :
    Outcome body result ↔ decode body = result := by
  constructor
  · intro h
    cases h with
    | object ht hj => simp only [decode, ht, hj]
    | other ht hj hv => simp only [decode, ht, hj]
    | undecodable h =>
      cases ht : Text.decode body with
      | error cause => simp only [decode, ht]
      | ok text =>
        cases hj : Json.read text with
        | error cause => simp only [decode, ht, hj]
        | ok value => exact absurd hj (h text ht value)
  · rintro rfl
    cases ht : Text.decode body with
    | error cause =>
      simp only [decode, ht]
      exact .undecodable fun text ht' => nomatch ht.symm.trans ht'
    | ok text =>
      cases hj : Json.read text with
      | error cause =>
        simp only [decode, ht, hj]
        refine .undecodable fun text' ht' value hj' => ?_
        obtain rfl := Except.ok.inj (ht.symm.trans ht')
        exact nomatch hj.symm.trans hj'
      | ok value =>
        cases value with
        | object fields =>
          simp only [decode, ht, hj]
          exact .object ht hj
        | _ =>
          simp only [decode, ht, hj]
          exact .other ht hj nofun

/-- The size of some frames together. -/
def sizeOfFrames : List Bytes → Nat
  | [] => 0
  | body :: bodies => 4 + body.length + sizeOfFrames bodies

/-- A reader gets every frame of a stream, and nothing behind the last one. Each read takes off one
frame and no more. -/
theorem readAll_of_segments {stream : ByteStream} {bodies : List Bytes} {rest : Bytes}
    (h : Segments stream.rest bodies rest) :
    (readAll stream).map (·.1) = bodies.map (fun body => some (decode body)) ++ [none] ∧
      ∀ n < bodies.length, (readAll stream)[n]?.map (·.2.1.rest) =
        some (stream.rest.drop (sizeOfFrames (bodies.take (n + 1)))) := by
  induction bodies generalizing stream with
  | nil =>
    obtain ⟨hrest, hstuck⟩ := segments_nil_iff.mp h
    have hread : ¬ (read.value stream).isSome := by
      rw [read_of_stuck (hrest ▸ hstuck)]
      exact Bool.false_ne_true
    rw [readAll, dif_neg hread]
    exact ⟨rfl, nofun⟩
  | cons body bodies ih =>
    obtain ⟨hv, after, hbytes, hs⟩ := segments_cons_iff.mp h
    obtain ⟨hvalue, hafter, -⟩ := read_of_ofBody hv hbytes
    obtain ⟨houtcomes, htaken⟩ := @ih (read.state stream) (hafter ▸ hs)
    rw [readAll, dif_pos (by rw [hvalue, Option.isSome_some])]
    constructor
    · rw [List.map_cons, houtcomes, hvalue, List.map_cons, List.cons_append]
    · intro n hn
      have hdrop : stream.rest.drop (4 + body.length) = after := by
        rw [hbytes, ← length_ofBody, List.drop_left]
      cases n with
      | zero => simp [sizeOfFrames, hafter, hdrop]
      | succ n =>
        have hn' := htaken n (Nat.lt_of_succ_lt_succ hn)
        rw [List.getElem?_cons_succ, hn', hafter, ← hdrop, List.drop_drop]
        rfl

/-- Any bytes are divided into frames and a rest, in one way. Whatever portions a stream delivers
them in, a reader gets one outcome for each frame in their order, which its body alone decides, and
has then taken the bytes of that frame and of those before it. Behind the last frame it gets
nothing. -/
theorem readAll_segments (bytes : Bytes) :
    ∃ bodies rest,
      (∀ bodies' rest', Segments bytes bodies' rest' ↔ bodies' = bodies ∧ rest' = rest) ∧
      (∀ body ∈ bodies, Outcome body (decode body)) ∧
      ∀ reads portion,
        (readAll ⟨bytes, reads, portion⟩).map (·.1) =
          bodies.map (fun body => some (decode body)) ++ [none] ∧
        ∀ n < bodies.length, (readAll ⟨bytes, reads, portion⟩)[n]?.map (·.2.1.rest) =
          some (bytes.drop (sizeOfFrames (bodies.take (n + 1)))) := by
  obtain ⟨bodies, rest, h⟩ := exists_segments bytes
  refine ⟨bodies, rest, fun bodies' rest' => ⟨h.unique, ?_⟩, fun body _ => outcome_iff.mpr rfl, ?_⟩
  · rintro ⟨rfl, rfl⟩
    exact h
  · intro reads portion
    exact @readAll_of_segments ⟨bytes, reads, portion⟩ bodies rest h

end Frame

end BreakageAdvisor
