import ArtifactPromotion.Core.ReaderCalls
import ArtifactPromotion.Persist.Codec

/-! What the reader's primitive steps make of the writer's bytes. -/

namespace ArtifactPromotion

open Decoding

namespace Reader

def view : View Reader UInt8 := ⟨cursor, fun reader => reader.offset ≤ reader.data.length⟩

theorem consume_yields {α : Type} {size : Nat} {message : String} {load : ByteBuffer → α}
    {bytes : ByteBuffer} {value : α} (sized : bytes.length = size)
    (loads : ∀ rest, load (bytes ++ rest) = value) :
    Yields view (consume size message load) bytes value := by
  intro reader rest sound unread
  have unread : reader.data.drop reader.offset = bytes ++ rest := unread
  have sound : reader.offset ≤ reader.data.length := sound
  have left : reader.data.length - reader.offset = size + rest.length := by
    have lengths := congrArg List.length unread
    rw [List.length_drop, List.length_append] at lengths
    omega
  have enough : reader.available size = true := by
    simp [available, remaining, left]
  refine ⟨{ reader with offset := reader.offset + size }, ?_, ?_, ?_⟩
  · simp only [consume, enough, if_true, cursor, unread, loads]
  · change reader.offset + size ≤ reader.data.length
    omega
  · change reader.data.drop (reader.offset + size) = rest
    rw [← List.drop_drop, unread, List.drop_left' sized]

theorem u8_yields (value : UInt8) : Yields view u8 (Writer.u8 value) value :=
  consume_yields rfl fun _ => rfl

theorem u16_yields (value : UInt16) : Yields view u16 (Writer.u16 value) value :=
  consume_yields (storeU16_length value) (loadU16_storeU16 value)

theorem u32_yields (value : UInt32) : Yields view u32 (Writer.u32 value) value :=
  consume_yields (storeU32_length value) (loadU32_storeU32 value)

theorem u64_yields (value : UInt64) : Yields view u64 (Writer.u64 value) value :=
  consume_yields (storeU64_length value) (loadU64_storeU64 value)

theorem identity_yields {tag : IdentityTag} (value : Identity tag) :
    Yields view identity (Writer.identity value) value :=
  yields_bind (u64_yields value.high) (yields_last (u64_yields value.low) (yields_pure _))

theorem counter_yields {tag : CounterTag} (value : Counter tag) :
    Yields view counter (Writer.counter value) value :=
  yields_last (u64_yields value.value) (yields_pure _)

theorem digest_yields (value : Digest) : Yields view digest (Writer.digest value) value := by
  refine consume_yields value.sized ?_
  intro rest
  apply Digest.eq_of_bytes
  change ((value.bytes ++ rest) ++ List.replicate 32 0).take 32 = value.bytes
  rw [List.append_assoc, List.take_left' value.sized]

theorem raw_yields {size : Nat} {bytes : ByteBuffer} (sized : bytes.length = size) :
    Yields view (raw size) bytes bytes :=
  consume_yields sized fun _ => List.take_left' sized

theorem boolean_yields (value : Bool) : Yields view boolean (Writer.boolean value) value := by
  refine yields_last (u8_yields (if value then 1 else 0)) ?_
  cases value <;> exact yields_pure _

theorem toUInt32_toNat {size : Nat} (small : size < 2 ^ 32) : size.toUInt32.toNat = size := by
  simp only [Nat.toUInt32, UInt32.toNat_ofNat']
  exact Nat.mod_eq_of_lt small

theorem text_yields (value : Text) {limit : Nat} (small : limit < 2 ^ 32) :
    Yields view (text limit) (Writer.text value limit) (value.take limit) := by
  have cut : (if value.length < limit then value.length else limit) = min value.length limit := by
    split <;> omega
  have size : (min value.length limit).toUInt32.toNat = min value.length limit :=
    toUInt32_toNat (by omega)
  have taken : value.take (min value.length limit) = value.take limit := by
    rw [Nat.min_comm, ← List.take_take, List.take_length]
  unfold Writer.text
  dsimp only
  rw [cut]
  refine yields_bind (u32_yields _) ?_
  rw [size]
  rw [if_neg (by omega)]
  refine consume_yields (by rw [List.length_take]; omega) ?_
  intro rest
  rw [List.take_left' (by rw [List.length_take]; omega), taken]

theorem text_yields_whole {value : Text} {written limit : Nat} (fits : value.length ≤ written)
    (accepted : value.length ≤ limit) (small : value.length < 2 ^ 32) :
    Yields view (text limit) (Writer.text value written) value := by
  have size : (if value.length < written then value.length else written) = value.length := by
    split <;> omega
  unfold Writer.text
  dsimp only
  rw [size, List.take_length]
  refine yields_bind (u32_yields _) ?_
  rw [toUInt32_toNat small, if_neg (by omega)]
  exact consume_yields rfl fun rest => List.take_left' rfl

theorem fail_error {α : Type} (code : ErrorCode) (message : Text) (reader : Reader) :
    ∃ status, (fail code message : Decode α) reader = .error status := ⟨_, rfl⟩

/-- Lengths and counts are written in 32 bits; what is longer than that never fits a snapshot. -/
def kLengthBound : Nat := 2 ^ 32

theorem count_reads {size limit : Nat} (small : size < kLengthBound) :
    Reads view kLengthBound (count limit) (Writer.u32 size.toUInt32) (size ≤ limit) size := by
  have whole : Reads view kLengthBound (count limit) (Writer.u32 size.toUInt32)
      (¬size.toUInt32.toNat > limit ∧ True) size.toUInt32.toNat :=
    .last_step (u32_yields _) (.reject (fail_error _ _) fun _ => .pure _)
  rw [toUInt32_toNat small] at whole
  exact whole.congr (by rw [and_true, not_lt])

theorem elements_reads {α : Type} {bound : Nat} {read : Decode α} {write : α → ByteBuffer}
    {acceptable : α → Prop} {restored : α → α} (values : List α)
    (each : ∀ value, Reads view bound read (write value) (acceptable value) (restored value)) :
    Reads view bound (elements read values.length) (values.flatMap write)
      (∀ value ∈ values, acceptable value) (values.map restored) := by
  induction values with
  | nil => exact (Reads.pure _).congr (by simp)
  | cons first rest ih =>
      have whole : Reads view bound (elements read (first :: rest).length)
          ((first :: rest).flatMap write)
          (acceptable first ∧ (∀ value ∈ rest, acceptable value) ∧ True)
          ((first :: rest).map restored) :=
        .bind (each first) fun _ => .last ih fun _ => .pure _
      exact whole.congr (by simp)

theorem consume_recovers {α : Type} {size : Nat} {message : String} {load : ByteBuffer → α}
    {write : α → ByteBuffer}
    (restores : ∀ data, size ≤ data.length → write (load data) = data.take size) :
    Recovers view (consume size message load) write := by
  intro reader value next sound read
  obtain ⟨enough, rfl, rfl⟩ := consume_eq_ok read
  have sound : reader.offset ≤ reader.data.length := sound
  have enough : size ≤ reader.data.length - reader.offset := of_decide_eq_true enough
  constructor
  · change reader.offset + size ≤ reader.data.length
    omega
  · change reader.data.drop reader.offset = _ ++ reader.data.drop (reader.offset + size)
    rw [restores _ (by rw [cursor, List.length_drop]; exact enough), ← List.drop_drop]
    exact (List.take_append_drop size _).symm

theorem u16_recovers : Recovers view u16 Writer.u16 := consume_recovers fun _ => storeU16_loadU16

theorem u32_recovers : Recovers view u32 Writer.u32 := consume_recovers fun _ => storeU32_loadU32

theorem u64_recovers : Recovers view u64 Writer.u64 := consume_recovers fun _ => storeU64_loadU64

theorem raw_recovers (size : Nat) : Recovers view (raw size) id :=
  consume_recovers fun _ _ => rfl

theorem raw_length {size : Nat} {reader next : Reader} {value : ByteBuffer}
    (read : raw size reader = .ok (value, next)) : value.length = size := by
  obtain ⟨enough, rfl, _⟩ := consume_eq_ok read
  have enough : size ≤ reader.data.length - reader.offset := of_decide_eq_true enough
  rw [List.length_take, cursor, List.length_drop]
  omega

theorem identity_recovers {tag : IdentityTag} :
    Recovers view (@identity tag) Writer.identity := by
  intro reader value final sound read
  obtain ⟨high, middle, highRead, read⟩ := bind_answers.mp read
  obtain ⟨low, last, lowRead, read⟩ := bind_answers.mp read
  obtain ⟨rfl, rfl⟩ := pure_answers.mp read
  obtain ⟨middleSound, highUnread⟩ := u64_recovers _ _ _ sound highRead
  obtain ⟨lastSound, lowUnread⟩ := u64_recovers _ _ _ middleSound lowRead
  refine ⟨lastSound, ?_⟩
  rw [highUnread, lowUnread, Writer.identity, List.append_assoc]

theorem counter_recovers {tag : CounterTag} :
    Recovers view (@counter tag) Writer.counter := by
  intro reader value final sound read
  obtain ⟨raw, middle, rawRead, read⟩ := bind_answers.mp read
  obtain ⟨rfl, rfl⟩ := pure_answers.mp read
  exact u64_recovers _ _ _ sound rawRead

end Reader

namespace Codec

open Reader

theorem readEnum_reads {α : Type} {known : Nat → Bool} {ofByte : UInt8 → α} {code : ErrorCode}
    {message : String} {raw : UInt8} {value : α} {bound : Nat} (restores : ofByte raw = value) :
    Reads view bound (readEnum known ofByte code message) (Writer.u8 raw) (known raw.toNat = true)
      value := by
  subst restores
  refine .last_step (u8_yields raw) ?_
  by_cases isKnown : known raw.toNat = true
  · rw [if_pos isKnown]
    exact (Reads.pure _).congr (by simp [isKnown])
  · rw [if_neg isKnown]
    exact (Reads.failed _ (fail_error _ _)).congr (by simp [isKnown])

theorem length_le_flatMap {α : Type} (values : List α) {write : α → ByteBuffer}
    (nonempty : ∀ value, write value ≠ []) : values.length ≤ (values.flatMap write).length := by
  induction values with
  | nil => simp
  | cons first rest ih =>
      have positive := List.length_pos_of_ne_nil (nonempty first)
      simp only [List.length_cons, List.flatMap_cons, List.length_append]
      omega

theorem readList_reads {α : Type} {read : Decode α} {write : α → ByteBuffer}
    {acceptable : α → Prop} {restored : α → α} {limit : Nat} {values : List α}
    (nonempty : ∀ value, write value ≠ [])
    (each : ∀ value, Reads view kLengthBound read (write value) (acceptable value)
      (restored value)) :
    Reads view kLengthBound (readList limit read) (Writer.list values write)
      (values.length ≤ limit ∧ ∀ value ∈ values, acceptable value) (values.map restored) := by
  have whole (small : values.length < kLengthBound) : Reads view kLengthBound (readList limit read)
      (Writer.list values write) (values.length ≤ limit ∧ ∀ value ∈ values, acceptable value)
      (values.map restored) :=
    .bind (count_reads small) fun _ => elements_reads values each
  have counted := length_le_flatMap values nonempty
  have fits (small : (Writer.list values write).length < kLengthBound) :
      values.length < kLengthBound := by
    simp only [Writer.list, List.length_append] at small
    omega
  exact ⟨fun small => (whole (fits small)).yields small,
    fun small => (whole (fits small)).refuses small⟩

end Codec

end ArtifactPromotion
