import BreakageAdvisor.Frame

/-!
# Frames are read back

A frame that stands next on a stream is read as the message in its body, however the stream delivers
its bytes, and what follows the frame stays on the stream.
-/

namespace BreakageAdvisor

namespace ByteStream

private theorem readSome_ne_nil {wanted : Nat} (h : wanted ≠ 0) {stream : ByteStream}
    (hlen : wanted ≤ stream.rest.length) : (stream.readSome wanted).1 ≠ [] := by
  have hsize : stream.nextSize wanted ≠ 0 := by
    unfold nextSize
    split <;> omega
  intro hnil
  rcases List.take_eq_nil_iff.mp hnil with h0 | h0
  · exact hsize h0
  · rw [h0] at hlen
    exact h (Nat.le_zero.mp hlen)

private theorem isSome_take {wanted : Nat} {stream : ByteStream}
    (hlen : wanted ≤ stream.rest.length) :
    (stream.take wanted).1.isSome := by
  fun_induction take wanted stream with
  | case1 stream => rfl
  | case2 wanted stream hw hg => exact absurd hg (readSome_ne_nil hw hlen)
  | case3 wanted stream hw byte given hg others last hl ih =>
    have happ := congrArg List.length (readSome_append wanted stream)
    rw [hg] at happ
    simp only [List.length_append, List.length_cons] at happ
    rw [hl] at ih
    rw [Option.isSome_map]
    exact ih (by omega)

private theorem take_of_rest {stream : ByteStream} {bytes tail : Bytes}
    (h : stream.rest = bytes ++ tail) :
    (stream.take bytes.length).1 = some bytes ∧
      (stream.take bytes.length).2.rest = tail := by
  have hsome : (stream.take bytes.length).1.isSome :=
    isSome_take (by rw [h, List.length_append]; omega)
  obtain ⟨taken, ht⟩ := Option.isSome_iff_exists.mp hsome
  have happ := (stream.take_append bytes.length).2 taken ht
  have hlen := stream.length_take bytes.length ht
  rw [h] at happ
  obtain ⟨rfl, hr⟩ := List.append_inj happ hlen
  exact ⟨ht, hr⟩

/-- A stream with too few bytes gives nothing. -/
theorem take_of_lt {wanted : Nat} {stream : ByteStream} (h : stream.rest.length < wanted) :
    (stream.take wanted).1 = none := by
  cases ht : (stream.take wanted).1 with
  | none => rfl
  | some taken =>
    have happ := congrArg List.length ((stream.take_append wanted).2 taken ht)
    have hlen := stream.length_take wanted ht
    rw [List.length_append] at happ
    omega

end ByteStream

namespace Frame

/-- The bytes of a size give the size. -/
theorem sizeOf_sizeBytes {size : Nat} (h : size < 0x100000000) :
    sizeOf (sizeBytes size) = size := by
  simp only [sizeOf, sizeBytes, List.foldr_cons, List.foldr_nil, UInt8.toNat_ofNat']
  omega

/-- A body that a frame can have. -/
def Valid (body : Bytes) : Prop := body ≠ [] ∧ body.length ≤ maxSize

instance (body : Bytes) : Decidable (Valid body) := inferInstanceAs (Decidable (_ ∧ _))

/-- The frame that stands next on a stream is read, and what follows it stays. -/
theorem read_of_ofBody {stream : ByteStream} {body tail : Bytes} (hv : Valid body)
    (h : stream.rest = ofBody body ++ tail) :
    read.value stream = some (decode body) ∧ (read.state stream).rest = tail ∧
      read.journal stream = [] := by
  have hmax : body.length < 0x100000000 := Nat.lt_of_le_of_lt hv.2 (by decide)
  rw [ofBody, List.append_assoc] at h
  obtain ⟨hheader, hrest⟩ := ByteStream.take_of_rest h
  obtain ⟨hbody, htail⟩ := ByteStream.take_of_rest hrest
  change (stream.take 4).1 = _ at hheader
  change ((stream.take 4).2.take body.length).1 = _ at hbody
  change ((stream.take 4).2.take body.length).2.rest = _ at htail
  have hsize : ¬ (body.length = 0 ∨ maxSize < body.length) := by
    have h0 : body.length ≠ 0 := fun h0 => hv.1 (List.length_eq_zero_iff.mp h0)
    have := hv.2
    omega
  have hread : read stream =
      ((((stream.take 4).2.take body.length).1.map decode, ((stream.take 4).2.take body.length).2),
        []) := by
    simp only [read, hheader, sizeOf_sizeBytes hmax, if_neg hsize]
  rw [Act.value, Act.state, Act.journal, hread, hbody]
  exact ⟨rfl, htail, rfl⟩

/-- There is no frame at the end of a stream. -/
theorem read_of_nil {stream : ByteStream} (h : stream.rest = []) :
    read.value stream = none ∧ (read.state stream).rest = [] ∧ read.journal stream = [] := by
  have hheader : (stream.take 4).1 = none := ByteStream.take_of_lt (by simp [h])
  have hlen := (stream.take_append 4).1
  rw [h] at hlen
  have hread : read stream = ((none, (stream.take 4).2), []) := by simp only [read, hheader]
  rw [Act.value, Act.state, Act.journal, hread]
  exact ⟨rfl, List.length_eq_zero_iff.mp (Nat.le_zero.mp hlen), rfl⟩

end Frame

end BreakageAdvisor
