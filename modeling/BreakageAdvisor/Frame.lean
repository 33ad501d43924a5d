import BreakageAdvisor.Journal
import BreakageAdvisor.Json.Reader
import BreakageAdvisor.Json.Writer

/-!
# Frames

The browser and the host exchange frames: a JSON object in UTF-8, behind its size in four bytes,
least byte first. A stream may deliver its bytes in portions of any size. A frame whose body is no
object is taken off the stream like any other, so the frames behind it stay readable.
-/

namespace BreakageAdvisor

/-- A stream of bytes. -/
structure ByteStream where
  rest : Bytes
  /-- How many reads were made. -/
  reads : Nat := 0
  /-- The most bytes that each read delivers, by its number; a read delivers at least one byte while
  any remain. -/
  portion : Nat → Option Nat := fun _ => none

namespace ByteStream

/-- The size of the next portion when so many bytes are asked for. -/
def nextSize (stream : ByteStream) (wanted : Nat) : Nat :=
  match stream.portion stream.reads with
  | some most => max 1 (min most wanted)
  | none => wanted

/-- One read: what it delivers, and the stream after it. -/
def readSome (wanted : Nat) (stream : ByteStream) : Bytes × ByteStream :=
  (stream.rest.take (stream.nextSize wanted),
    { stream with
      rest := stream.rest.drop (stream.nextSize wanted)
      reads := stream.reads + 1 })

/-- A read takes off the stream what it delivers. -/
theorem readSome_append (wanted : Nat) (stream : ByteStream) :
    (stream.readSome wanted).1 ++ (stream.readSome wanted).2.rest = stream.rest := by
  simp [readSome]

/-- Reads a number of bytes, in as many portions as it takes. A stream that ends before gives
nothing and is at its end. -/
def take (wanted : Nat) (stream : ByteStream) : Option Bytes × ByteStream :=
  if wanted = 0 then (some [], stream)
  else
    match _h : (stream.readSome wanted).1 with
    | [] => (none, (stream.readSome wanted).2)
    | byte :: given =>
      let (others, last) := take (wanted - (given.length + 1)) (stream.readSome wanted).2
      (others.map ((byte :: given) ++ ·), last)
termination_by wanted

/-- What is taken comes off the front of the stream; a stream that gives nothing only gets
shorter. -/
theorem take_append (wanted : Nat) (stream : ByteStream) :
    (stream.take wanted).2.rest.length ≤ stream.rest.length ∧
      ∀ bytes, (stream.take wanted).1 = some bytes →
        bytes ++ (stream.take wanted).2.rest = stream.rest := by
  fun_induction take wanted stream with
  | case1 stream => simp
  | case2 wanted stream h hg =>
    have := readSome_append wanted stream
    rw [hg] at this
    simp [← this]
  | case3 wanted stream h byte given hg others last hl ih =>
    have happ := readSome_append wanted stream
    rw [hl] at ih
    rw [hg] at happ
    constructor
    · have hle := ih.1
      have hlen := congrArg List.length happ
      simp only [List.length_append] at hlen
      exact Nat.le_trans hle (by omega)
    · intro bytes hb
      simp only [Option.map_eq_some_iff] at hb
      obtain ⟨tail, ht, rfl⟩ := hb
      rw [List.append_assoc, ih.2 tail ht, happ]

private theorem length_readSome_le {wanted : Nat} (h : wanted ≠ 0) (stream : ByteStream) :
    (stream.readSome wanted).1.length ≤ wanted := by
  have : stream.nextSize wanted ≤ wanted := by
    unfold nextSize
    split <;> omega
  simp only [readSome, List.length_take]
  omega

/-- What is taken has the size asked for. -/
theorem length_take (wanted : Nat) (stream : ByteStream) {bytes : Bytes}
    (h : (stream.take wanted).1 = some bytes) : bytes.length = wanted := by
  fun_induction take wanted stream generalizing bytes with
  | case1 stream => simp_all
  | case2 wanted stream hw hg => simp at h
  | case3 wanted stream hw byte given hg others last hl ih =>
    have hle := length_readSome_le hw stream
    rw [hl] at ih
    simp only [Option.map_eq_some_iff] at h
    obtain ⟨tail, ht, rfl⟩ := h
    have := ih ht
    rw [hg] at hle
    simp only [List.length_append, List.length_cons] at hle ⊢
    omega

end ByteStream

namespace Frame

/-- The greatest size of a frame. -/
def maxSize : Nat := 8000000

/-- The bytes of a size, least first. -/
def sizeBytes (size : Nat) : Bytes :=
  [UInt8.ofNat size, UInt8.ofNat (size / 0x100), UInt8.ofNat (size / 0x10000),
    UInt8.ofNat (size / 0x1000000)]

/-- The size that bytes give, least first. -/
def sizeOf (bytes : Bytes) : Nat := bytes.foldr (fun byte size => byte.toNat + 0x100 * size) 0

/-- The frame of a body. -/
def ofBody (body : Bytes) : Bytes := sizeBytes body.length ++ body

/-- The message in the body of a frame. -/
def decode (body : Bytes) : Except Failure Fields :=
  match Text.decode body with
  | .error _ => .error (.undecodableFrame body.length)
  | .ok text =>
    match Json.read text with
    | .error _ => .error (.undecodableFrame body.length)
    | .ok (.object fields) => .ok fields
    | .ok value => .error (.frameNotObject value.kind)

/-- Reads one frame. There is none at the end of the stream, within a frame that the stream breaks
off, and behind an invalid size. -/
def read : Act ByteStream (Option (Except Failure Fields)) := fun stream =>
  let header := stream.take 4
  match header.1 with
  | none => ((none, header.2), [])
  | some bytes =>
    let size := sizeOf bytes
    if size = 0 ∨ maxSize < size then
      ((none, header.2), [.reported (.invalidFrameLength size)])
    else
      let body := header.2.take size
      ((body.1.map decode, body.2), [])

private theorem length_read (stream : ByteStream) (h : (read.value stream).isSome) :
    (read.state stream).rest.length < stream.rest.length := by
  unfold Act.value read at h
  unfold Act.state read
  cases hb : (stream.take 4).1 with
  | none => simp [hb] at h
  | some bytes =>
    have happ := congrArg List.length ((stream.take_append 4).2 bytes hb)
    have hlen := stream.length_take 4 hb
    have hle := ((stream.take 4).2.take_append (sizeOf bytes)).1
    simp only [List.length_append] at happ
    simp only [hb]
    split
    · simp only
      omega
    · simp only
      omega

/-- Reads frames until there is none: for each read what it gave, the stream after it, and its
journal. -/
def readAll (stream : ByteStream) :
    List (Option (Except Failure Fields) × ByteStream × List Entry) :=
  if _h : (read.value stream).isSome then
    (read.value stream, read.state stream, read.journal stream) :: readAll (read.state stream)
  else [(none, read.state stream, read.journal stream)]
termination_by stream.rest.length
decreasing_by exact length_read stream _h

/-- The frame of a message. -/
def encode (message : Json) : Except Failure Bytes :=
  if message.hasHugeInteger then .error (.number .hugeInteger)
  else
    match (message.write .compact).encode with
    | .ok body => .ok (ofBody body)
    | .error error => .error (.encoding error)

/-- Writes the frame of a message behind what was written. A message that cannot be encoded adds
nothing. -/
def write (message : Json) : Act Bytes (Except Failure Unit) := fun written =>
  match encode message with
  | .ok frame => ((.ok (), written ++ frame), [])
  | .error failure => ((.error failure, written), [])

/-- Writes messages one after the other: what each of them gave. -/
def writeAll : List Json → Act Bytes (List (Except Failure Unit))
  | [] => pure []
  | message :: messages => do
    let result ← write message
    return result :: (← writeAll messages)

end Frame

end BreakageAdvisor
