import BreakageAdvisor.Proofs.Frame.Segments
import BreakageAdvisor.Proofs.Json.Encodable

/-!
# Messages are read back

A reader gets the messages that were written, in their order and with their fields in order. A
message that cannot be encoded is refused before a byte of it is written, so the frames in front of
it and behind it stand as if it had not been tried.
-/

namespace BreakageAdvisor

namespace Frame

/-- A message can be encoded exactly if no text in it holds a surrogate and no integer in it is too
long. -/
private theorem isOk_encode_iff {message : Json} :
    (encode message).isOk = true ↔ message.Everywhere Json.Encodable := by
  rw [Json.everywhere_encodable, ← Json.isScalar_write_iff, ← Json.hasHugeInteger_eq_false_iff,
    encode]
  cases message.hasHugeInteger with
  | true => simp [Except.isOk, Except.toBool]
  | false =>
    by_cases h : (message.write .compact).isScalar = true
    · rw [Text.encode_of_isScalar h]
      exact iff_of_true rfl ⟨h, rfl⟩
    · obtain ⟨error, herror⟩ := Text.encode_of_not_isScalar h
      rw [herror]
      exact iff_of_false Bool.false_ne_true fun hok => h hok.1

private theorem exists_encode_eq_ok {message : Json} (h : message.Everywhere Json.Encodable) :
    ∃ body, (message.write .compact).encode = .ok body ∧ encode message = .ok (ofBody body) := by
  obtain ⟨hscalar, hshort⟩ := Json.everywhere_encodable.mp h
  have hbody := Text.encode_of_isScalar (Json.isScalar_write_iff.mpr hscalar)
  refine ⟨_, hbody, ?_⟩
  rw [encode, Json.hasHugeInteger_eq_false_iff.mpr hshort, hbody]
  rfl

private theorem exists_encode_eq_error {message : Json} (h : ¬ message.Everywhere Json.Encodable) :
    ∃ failure, encode message = .error failure := by
  rw [← isOk_encode_iff] at h
  cases hencode : encode message with
  | ok frame =>
    rw [hencode] at h
    exact absurd rfl h
  | error failure => exact ⟨failure, rfl⟩

/-- A message that is read back: it has no text with a surrogate, no integer of too many digits, no
key given twice and no floating-point number, however deep, and its frame is not too large. -/
structure Sendable (message : Fields) : Prop where
  plain : (Json.object message).Everywhere (Json.Plain fun t => t.isScalar = true)
  small : ∀ body, ((Json.object message).write .compact).encode = .ok body → body.length ≤ maxSize

/-- A message whose length is known to be small enough has a frame that is. -/
theorem Sendable.of_length {message : Fields} {size : Nat}
    (hplain : (Json.object message).Everywhere (Json.Plain fun t => t.isScalar = true))
    (h : ((Json.object message).write .compact).encode.map List.length = .ok size)
    (hsize : size ≤ maxSize) : Sendable message := by
  refine ⟨hplain, fun body hbody => ?_⟩
  rw [hbody] at h
  exact Nat.le_trans (Nat.le_of_eq (Except.ok.inj h)) hsize

private theorem Sendable.encodable {message : Fields} (h : Sendable message) :
    (Json.object message).Everywhere Json.Encodable := by
  refine h.plain.imp fun value hplain => ?_
  cases value with
  | int n => exact ⟨trivial, hplain⟩
  | text t => exact ⟨hplain, trivial⟩
  | object fields => exact ⟨hplain.2, trivial⟩
  | _ => exact ⟨trivial, trivial⟩

/-- A message that is read back has a frame, whose body gives the message. -/
theorem Sendable.exists_body {message : Fields} (h : Sendable message) :
    ∃ body, encode (.object message) = .ok (ofBody body) ∧ Valid body ∧
      decode body = .ok message := by
  obtain ⟨body, hbody, hencode⟩ := exists_encode_eq_ok h.encodable
  have hread := Json.read_write Json.Form.readable_compact
    (fun t ht => Text.unpaired_of_isScalar ht) h.plain
  have hdecode : decode body = .ok message := by
    simp only [decode, Text.decode_encode hbody, hread]
  refine ⟨body, hencode, ⟨?_, h.small body hbody⟩, hdecode⟩
  rintro rfl
  cases hdecode

private theorem write_of_ok {message : Json} {frame : Bytes} (h : encode message = .ok frame)
    (written : Bytes) : write message written = ((.ok (), written ++ frame), []) := by
  rw [write, h]

private theorem write_of_error {message : Json} {failure : Failure}
    (h : encode message = .error failure)
    (written : Bytes) : write message written = ((.error failure, written), []) := by
  rw [write, h]

private theorem state_writeAll_cons (message : Json) (messages : List Json) (written : Bytes) :
    (writeAll (message :: messages)).state written =
      (writeAll messages).state ((write message).state written) := rfl

private theorem exists_bodies_writeAll {messages : List Fields}
    (h : ∀ message ∈ messages,
      Sendable message ∨ ¬ (Json.object message).Everywhere Json.Encodable) :
    ∃ bodies : List Bytes,
      (∀ written, (writeAll (messages.map .object)).state written =
        written ++ bodies.flatMap ofBody) ∧
      (∀ body ∈ bodies, Valid body) ∧
      bodies.map decode =
        (messages.filter fun message => (encode (.object message)).isOk).map .ok := by
  induction messages with
  | nil => exact ⟨[], fun written => (List.append_nil written).symm, nofun, rfl⟩
  | cons message messages ih =>
    obtain ⟨hmessage, hmessages⟩ := List.forall_mem_cons.mp h
    obtain ⟨bodies, hstate, hvalid, hdecode⟩ := ih hmessages
    obtain hsendable | hrefused := hmessage
    · obtain ⟨body, hencode, hbody, hmessage⟩ := hsendable.exists_body
      refine ⟨body :: bodies, fun written => ?_, List.forall_mem_cons.mpr ⟨hbody, hvalid⟩, ?_⟩
      · have hwrite := congrArg (·.1.2) (write_of_ok hencode written)
        rw [List.map_cons, state_writeAll_cons, hstate, List.flatMap_cons, ← List.append_assoc]
        exact congrArg (· ++ bodies.flatMap ofBody) hwrite
      · rw [List.map_cons, hmessage, hdecode, List.filter_cons, hencode]
        rfl
    · obtain ⟨failure, hencode⟩ := exists_encode_eq_error hrefused
      refine ⟨bodies, fun written => ?_, hvalid, ?_⟩
      · have hwrite := congrArg (·.1.2) (write_of_error hencode written)
        rw [List.map_cons, state_writeAll_cons, hstate]
        exact congrArg (· ++ bodies.flatMap ofBody) hwrite
      · rw [hdecode, List.filter_cons, hencode]
        rfl

/-- Messages that were written one after the other are read back in that order, in whatever portions
the bytes arrive, and behind them there is nothing. Among them may be some that cannot be encoded:
each of those is refused and adds no byte. -/
theorem readAll_writeAll {messages : List Fields}
    (h : ∀ message ∈ messages,
      Sendable message ∨ ¬ (Json.object message).Everywhere Json.Encodable) :
    (∀ message ∈ messages, ∀ written,
      (Sendable message → ∃ frame,
        write (.object message) written = ((.ok (), written ++ frame), [])) ∧
      (¬ Sendable message → ∃ failure,
        write (.object message) written = ((.error failure, written), []))) ∧
    (∀ message ∈ messages, (encode (.object message)).isOk = true ↔ Sendable message) ∧
    ∀ reads portion,
      (readAll ⟨(writeAll (messages.map .object)).state [], reads, portion⟩).map (·.1) =
        (messages.filter fun message => (encode (.object message)).isOk).map
          (fun message => some (.ok message)) ++ [none] := by
  refine ⟨fun message hm written => ⟨fun hsendable => ?_, fun hrefused => ?_⟩,
    fun message hm => ⟨fun hok => ?_, fun hsendable => ?_⟩, fun reads portion => ?_⟩
  · obtain ⟨body, hencode, -, -⟩ := hsendable.exists_body
    exact ⟨_, write_of_ok hencode written⟩
  · obtain ⟨failure, hencode⟩ := exists_encode_eq_error ((h message hm).resolve_left hrefused)
    exact ⟨failure, write_of_error hencode written⟩
  · exact (h message hm).resolve_right fun hrefused => hrefused (isOk_encode_iff.mp hok)
  · exact isOk_encode_iff.mpr hsendable.encodable
  · obtain ⟨bodies, hstate, hvalid, hdecode⟩ := exists_bodies_writeAll h
    have hsegments : Segments ((writeAll (messages.map .object)).state []) bodies [] := by
      refine ⟨?_, hvalid, .inl (by decide)⟩
      rw [hstate, List.append_nil, List.nil_append]
    obtain ⟨hread, -⟩ := @readAll_of_segments
      ⟨(writeAll (messages.map .object)).state [], reads, portion⟩ bodies [] hsegments
    have houtcomes : bodies.map (fun body => some (decode body)) = (bodies.map decode).map some :=
      List.map_map.symm
    rw [hread, houtcomes, hdecode, List.map_map]
    rfl

/-- A message with code points that are escaped, one that cannot be encoded, and one with a code
point of four bytes. -/
def assorted : List Fields :=
  [[("a", .list [.int (-70), .text "\"\n"]), ("b", .null)], [("a", .text [0xD800])],
    [("a", .text [0x1F600])]]

/-- The first and the last of them are read back. -/
theorem readAll_writeAll_assorted :
    (readAll ⟨(writeAll (assorted.map .object)).state [], 0, fun _ => some 1⟩).map (·.1) =
      [some (.ok [("a", .list [.int (-70), .text "\"\n"]), ("b", .null)]),
        some (.ok [("a", .text [0x1F600])]), none] := by
  have h : ∀ message ∈ assorted,
      Sendable message ∨ ¬ (Json.object message).Everywhere Json.Encodable := by
    simp only [assorted, List.forall_mem_cons]
    refine ⟨.inl (.of_length ?_ rfl (by decide)), .inr ?_, .inl (.of_length ?_ rfl (by decide)),
      nofun⟩
    · simp [Json.Plain, -Prod.forall]
      decide
    · intro hencodable
      have hscalar := (Json.everywhere_encodable.mp hencodable).1
      revert hscalar
      simp [Json.Scalar, -Prod.forall]
      decide
    · simp [Json.Plain, -Prod.forall]
      decide
  obtain ⟨-, -, hread⟩ := readAll_writeAll h
  exact (hread 0 fun _ => some 1).trans rfl

end Frame

end BreakageAdvisor
