import ArtifactPromotion.Core.Wire

/-! The reader over memory: a pointer, a size and an offset, the last two in 64-bit words. Every
byte it loads goes through one access, which has no answer outside the reader's region. -/

namespace ArtifactPromotion

/-- A reader as the source keeps it. Its region starts at `data` in the allocation. -/
structure RawReader where
  data : Nat
  size : UInt64
  offset : UInt64 := 0

/-- What is done with a reader over an allocation. A failure leaves the reader where it was moved
to; `none` is an access outside its region. -/
abbrev Access := ReaderT ByteBuffer (ExceptT Status (StateT RawReader Option))

theorem firstDigest_sized (bytes : ByteBuffer) :
    ((bytes ++ List.replicate 32 0).take 32).length = 32 := by
  simp

def Digest.fromRaw (bytes : ByteBuffer) : Digest :=
  ⟨(bytes ++ List.replicate 32 0).take 32, firstDigest_sized bytes⟩

namespace RawReader

def ofBuffer (buffer : ByteBuffer) : RawReader := { data := 0, size := buffer.length.toUInt64 }

def remaining (raw : RawReader) : UInt64 := raw.size - raw.offset

def available (raw : RawReader) (size : Nat) : Bool := size ≤ raw.remaining.toNat

def fail {α : Type} (code : ErrorCode) (message : String) : Access α :=
  throw (.of code (ArtifactPromotion.text message))

def bytesAt (position size : Nat) : Access ByteBuffer := fun memory raw =>
  if position + size ≤ raw.size.toNat ∧ raw.data + raw.size.toNat ≤ memory.length then
    some (.ok ((memory.drop (raw.data + position)).take size), raw)
  else none

def requireAvailable (size : Nat) (message : String) : Access RawReader := do
  let raw ← get
  if raw.available size then return raw else fail .protocolTruncated message

def advance (size : Nat) : Access Unit :=
  modify fun raw => { raw with offset := raw.offset + size.toUInt64 }

def take {α : Type} (size : Nat) (message : String) (load : ByteBuffer → α) : Access α := do
  let raw ← requireAvailable size message
  let bytes ← bytesAt raw.offset.toNat size
  advance size
  return load bytes

def u8 : Access UInt8 := take 1 "input ended while reading a byte" fun bytes => loadByte bytes 0

def u16 : Access UInt16 := take 2 "input ended while reading a 16-bit value" loadU16

def u32 : Access UInt32 := take 4 "input ended while reading a 32-bit value" loadU32

def u64 : Access UInt64 := take 8 "input ended while reading a 64-bit value" loadU64

def boolean : Access Bool := do
  let value ← u8
  if value > 1 then fail .protocolMalformed "boolean field holds a value other than 0 or 1"
  else return value == 1

def raw (size : Nat) : Access ByteBuffer := take size "input ended while reading a byte region" id

def skip (size : Nat) : Access Unit := do
  let _ ← requireAvailable size "input ended while skipping a byte region"
  advance size

def text (limit : Nat) : Access Text := do
  let declared ← u32
  let length := declared.toNat
  if length > limit then
    fail .protocolOversized "declared text length exceeds the configured bound"
  else take length "input ended while reading text" id

def identity {tag : IdentityTag} : Access (Identity tag) := do
  let high ← u64
  let low ← u64
  return ⟨high, low⟩

def counter {tag : CounterTag} : Access (Counter tag) := do
  let value ← u64
  return ⟨value⟩

def digest : Access Digest := take 32 "input ended while reading a digest" Digest.fromRaw

def blob (limit : Nat) : Access ByteBuffer := do
  let declared ← u32
  let length := declared.toNat
  if length > limit then
    fail .protocolOversized "declared blob length exceeds the configured bound"
  else raw length

def subRegion (limit : Nat) : Access RawReader := do
  let declared ← u32
  let length := declared.toNat
  if length > limit then
    fail .protocolOversized "declared section length exceeds the configured bound"
  else
    let outer ← requireAvailable length "input ended while reading a section"
    advance length
    return { data := outer.data + outer.offset.toNat, size := declared.toUInt64 }

def count (limit : Nat) : Access Nat := do
  let declared ← u32
  if declared.toNat > limit then
    fail .protocolOversized "declared element count exceeds the configured bound"
  else return declared.toNat

def finished : Access Bool := do
  let raw ← get
  return raw.offset == raw.size

def requireFinished : Access Unit := do
  let done ← finished
  if !done then fail .protocolMalformed "input contains trailing bytes" else return ()

structure Sound (memory : ByteBuffer) (raw : RawReader) : Prop where
  allocated : raw.data + raw.size.toNat ≤ memory.length
  inside : raw.offset ≤ raw.size

structure Follows (raw after : RawReader) : Prop where
  data : after.data = raw.data
  size : after.size = raw.size
  forward : raw.offset ≤ after.offset
  inside : after.offset ≤ raw.size

def toReader (memory : ByteBuffer) (raw : RawReader) : Reader :=
  { data := (memory.drop raw.data).take raw.size.toNat, offset := raw.offset.toNat }

theorem Follows.sound {memory : ByteBuffer} {raw after : RawReader} (follows : raw.Follows after)
    (sound : raw.Sound memory) : after.Sound memory := by
  constructor
  · rw [follows.data, follows.size]
    exact sound.allocated
  · rw [follows.size]
    exact follows.inside

theorem Sound.follows {memory : ByteBuffer} {raw : RawReader} (sound : raw.Sound memory) :
    raw.Follows raw :=
  ⟨rfl, rfl, UInt64.le_refl _, sound.inside⟩

theorem Follows.trans {raw middle after : RawReader} (first : raw.Follows middle)
    (second : middle.Follows after) : raw.Follows after := by
  constructor
  · rw [second.data, first.data]
  · rw [second.size, first.size]
  · exact UInt64.le_trans first.forward second.forward
  · rw [← first.size]
    exact second.inside

theorem ofBuffer_sound (buffer : ByteBuffer) : (ofBuffer buffer).Sound buffer := by
  constructor
  · change 0 + buffer.length.toUInt64.toNat ≤ buffer.length
    rw [Nat.zero_add]
    exact Nat.mod_le _ _
  · exact UInt64.zero_le

theorem ofBuffer_size {buffer : ByteBuffer} (small : buffer.length < 2 ^ 64) :
    (ofBuffer buffer).size.toNat = buffer.length :=
  Nat.mod_eq_of_lt small

theorem ofBuffer_toReader {buffer : ByteBuffer} (small : buffer.length < 2 ^ 64) :
    (ofBuffer buffer).toReader buffer = { data := buffer } := by
  simp only [toReader, ofBuffer_size small]
  simp [ofBuffer]

theorem Sound.remaining {memory : ByteBuffer} {raw : RawReader} (sound : raw.Sound memory) :
    raw.remaining.toNat = raw.size.toNat - raw.offset.toNat :=
  UInt64.toNat_sub_of_le _ _ sound.inside

/-- Without the invariant it does, and the load falls outside the region. -/
example : u8 [1, 2] { data := 0, size := 1, offset := 2 } = none := rfl

theorem Sound.region_length {memory : ByteBuffer} {raw : RawReader} (sound : raw.Sound memory) :
    (raw.toReader memory).data.length = raw.size.toNat := by
  have allocated := sound.allocated
  simp only [toReader, List.length_take, List.length_drop]
  omega

theorem Sound.available {memory : ByteBuffer} {raw : RawReader} (sound : raw.Sound memory)
    (size : Nat) : (raw.toReader memory).available size = raw.available size := by
  simp only [Reader.available, Reader.remaining, sound.region_length, RawReader.available,
    sound.remaining]
  rfl

theorem Sound.finished {memory : ByteBuffer} {raw : RawReader} (sound : raw.Sound memory) :
    (raw.toReader memory).finished = (raw.offset == raw.size) := by
  rw [Reader.finished, sound.region_length, Bool.eq_iff_iff, beq_iff_eq, beq_iff_eq]
  exact UInt64.toNat_inj

/-- The access runs to an end inside the region, and answers what the decoder answers there. The
region holds at least `room` bytes. -/
def Mirrors {α : Type} (room : Nat) (access : Access α) (decode : Decode α) : Prop :=
  ∀ memory raw, raw.Sound memory → room ≤ raw.size.toNat →
    ∃ outcome after, access memory raw = some (outcome, after) ∧ raw.Follows after ∧
      decode (raw.toReader memory) = outcome.map fun value => (value, after.toReader memory)

variable {α β : Type} {room : Nat}

theorem bind_ok {first : Access α} {next : α → Access β} {memory : ByteBuffer}
    {raw middle : RawReader} {value : α} (answered : first memory raw = some (.ok value, middle)) :
    (first >>= next) memory raw = next value memory middle := by
  change Option.bind (first memory raw) _ = _
  rw [answered]
  rfl

theorem bind_error {first : Access α} {next : α → Access β} {memory : ByteBuffer}
    {raw middle : RawReader} {status : Status}
    (failed : first memory raw = some (.error status, middle)) :
    (first >>= next) memory raw = some (.error status, middle) := by
  change Option.bind (first memory raw) _ = _
  rw [failed]
  rfl

theorem mirrors_pure (value : α) :
    Mirrors room (pure value : Access α) (pure value : Decode α) :=
  fun _ raw sound _ => ⟨.ok value, raw, rfl, sound.follows, rfl⟩

theorem mirrors_throw (status : Status) :
    Mirrors room (throw status : Access α) (fun _ => .error status) :=
  fun _ raw sound _ => ⟨.error status, raw, rfl, sound.follows, rfl⟩

theorem mirrors_bind {first : Access α} {decode : Decode α} {next : α → Access β}
    {decodeNext : α → Decode β} (mirrors : Mirrors room first decode)
    (continued : ∀ value reader rest, decode reader = .ok (value, rest) →
      Mirrors room (next value) (decodeNext value)) :
    Mirrors room (first >>= next) (decode >>= decodeNext) := by
  intro memory raw sound roomy
  obtain ⟨outcome, middle, ran, follows, decoded⟩ := mirrors memory raw sound roomy
  have whole : (decode >>= decodeNext) (raw.toReader memory) =
      decode (raw.toReader memory) >>= fun reply => decodeNext reply.1 reply.2 := rfl
  cases outcome with
  | error status =>
      refine ⟨.error status, middle, bind_error ran, follows, ?_⟩
      rw [whole, decoded]
      rfl
  | ok value =>
      have roomyToo : room ≤ middle.size.toNat := by
        rw [follows.size]
        exact roomy
      obtain ⟨outcome, after, ranOn, goesOn, decodedOn⟩ :=
        continued value _ _ decoded memory middle (follows.sound sound) roomyToo
      refine ⟨outcome, after, ?_, follows.trans goesOn, ?_⟩
      · rw [bind_ok ran]
        exact ranOn
      · rw [whole, decoded]
        exact decodedOn

theorem mirrors_ite {condition : Prop} [Decidable condition] {first second : Access α}
    {decodeFirst decodeSecond : Decode α} (holds : Mirrors room first decodeFirst)
    (fails : Mirrors room second decodeSecond) :
    Mirrors room (if condition then first else second)
      (if condition then decodeFirst else decodeSecond) := by
  by_cases decided : condition
  · rw [if_pos decided, if_pos decided]
    exact holds
  · rw [if_neg decided, if_neg decided]
    exact fails

theorem requireAvailable_eq (size : Nat) (message : String) (memory : ByteBuffer)
    (raw : RawReader) : requireAvailable size message memory raw =
      some (if raw.available size then .ok raw
        else .error (.of .protocolTruncated (ArtifactPromotion.text message)), raw) := by
  change (ite _ _ _ : Access RawReader) memory raw = _
  by_cases enough : raw.available size = true
  · rw [if_pos enough, if_pos enough]
    rfl
  · rw [if_neg enough, if_neg enough]
    rfl

theorem Sound.advanced {memory : ByteBuffer} {raw : RawReader} (sound : raw.Sound memory)
    {size : Nat} (enough : raw.available size = true) :
    (raw.offset + size.toUInt64).toNat = raw.offset.toNat + size ∧
      raw.offset.toNat + size ≤ raw.size.toNat := by
  have left : size ≤ raw.remaining.toNat := of_decide_eq_true enough
  rw [sound.remaining] at left
  have inside : raw.offset.toNat ≤ raw.size.toNat := sound.inside
  have bound := raw.size.toNat_lt
  have exact : size.toUInt64.toNat = size := Nat.mod_eq_of_lt (by omega)
  refine ⟨?_, by omega⟩
  rw [UInt64.toNat_add, exact]
  exact Nat.mod_eq_of_lt (by omega)

theorem Sound.advanced_follows {memory : ByteBuffer} {raw : RawReader} (sound : raw.Sound memory)
    {size : Nat} (enough : raw.available size = true) :
    raw.Follows { raw with offset := raw.offset + size.toUInt64 } := by
  obtain ⟨moved, inside⟩ := sound.advanced enough
  refine ⟨rfl, rfl, ?_, ?_⟩
  · rw [UInt64.le_iff_toNat_le, moved]
    exact Nat.le_add_right _ _
  · rw [UInt64.le_iff_toNat_le, moved]
    exact inside

theorem Sound.region_take {memory : ByteBuffer} {raw : RawReader} {position size : Nat}
    (inside : position + size ≤ raw.size.toNat) :
    ((raw.toReader memory).data.drop position).take size =
      (memory.drop (raw.data + position)).take size := by
  simp only [toReader, List.drop_take, List.drop_drop, List.take_take]
  congr 1
  omega

theorem Sound.bytesAt {memory : ByteBuffer} {raw : RawReader} (sound : raw.Sound memory)
    {position size : Nat} (inside : position + size ≤ raw.size.toNat) :
    RawReader.bytesAt position size memory raw =
      some (.ok ((memory.drop (raw.data + position)).take size), raw) :=
  if_pos ⟨inside, sound.allocated⟩

theorem take_refused {size : Nat} {message : String} {load : ByteBuffer → α}
    {memory : ByteBuffer} {raw : RawReader} (short : ¬raw.available size = true) :
    take size message load memory raw =
      some (.error (.of .protocolTruncated (ArtifactPromotion.text message)), raw) := by
  have tested := requireAvailable_eq size message memory raw
  rw [if_neg short] at tested
  exact bind_error tested

theorem Sound.take_answers {memory : ByteBuffer} {raw : RawReader} (sound : raw.Sound memory)
    {size : Nat} {message : String} {load : ByteBuffer → α} (enough : raw.available size = true) :
    RawReader.take size message load memory raw =
      some (.ok (load ((memory.drop (raw.data + raw.offset.toNat)).take size)),
        { raw with offset := raw.offset + size.toUInt64 }) := by
  have tested := requireAvailable_eq size message memory raw
  rw [if_pos enough] at tested
  rw [RawReader.take, bind_ok tested, bind_ok (sound.bytesAt (sound.advanced enough).2)]
  rfl

theorem mirrors_take {size : Nat} {message : String} {load loadCursor : ByteBuffer → α}
    (loads_next : ∀ cursor, size ≤ cursor.length → load (cursor.take size) = loadCursor cursor) :
    Mirrors room (take size message load) (Reader.consume size message loadCursor) := by
  intro memory raw sound _
  by_cases enough : raw.available size = true
  · obtain ⟨moved, inside⟩ := sound.advanced enough
    refine ⟨_, _, sound.take_answers enough, sound.advanced_follows enough, ?_⟩
    have long : size ≤ (raw.toReader memory).cursor.length := by
      rw [Reader.cursor, List.length_drop, sound.region_length]
      change size ≤ raw.size.toNat - raw.offset.toNat
      omega
    have loaded := loads_next _ long
    rw [Reader.cursor] at loaded
    rw [Reader.consume, sound.available, if_pos enough, Reader.cursor, ← loaded,
      ← Sound.region_take inside]
    simp only [toReader, moved]
    rfl
  · refine ⟨_, raw, take_refused enough, sound.follows, ?_⟩
    rw [Reader.consume, sound.available, if_neg enough]
    rfl

theorem mirrors_skip (size : Nat) : Mirrors room (skip size)
    (Reader.consume size "input ended while skipping a byte region" fun _ => ()) := by
  intro memory raw sound _
  have tested := requireAvailable_eq size "input ended while skipping a byte region" memory raw
  by_cases enough : raw.available size = true
  · rw [if_pos enough] at tested
    obtain ⟨moved, inside⟩ := sound.advanced enough
    refine ⟨.ok (), _, ?_, sound.advanced_follows enough, ?_⟩
    · rw [skip, bind_ok tested]
      rfl
    · rw [Reader.consume, sound.available, if_pos enough]
      simp only [toReader, moved]
      rfl
  · rw [if_neg enough] at tested
    refine ⟨_, raw, bind_error tested, sound.follows, ?_⟩
    rw [Reader.consume, sound.available, if_neg enough]
    rfl

end RawReader

end ArtifactPromotion
