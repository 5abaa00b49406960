import ArtifactPromotion.Core.Sha256
import ArtifactPromotion.Library.BlockHashing
import ArtifactPromotion.Library.SecureHashStandard

/-! The incremental hasher computes SHA-256: however a message is cut into updates, the digest is
the one that the standard defines, and the hasher is ready for the next message. -/

namespace ArtifactPromotion

open SecureHashStandard (bitsOfNat bitsOfWord bitsOfBytes wordOfBits Hash K W roundConstants)
open BlockHashing

def Sha256Words.hash (words : Sha256Words) : Hash :=
  ⟨words.a, words.b, words.c, words.d, words.e, words.f, words.g, words.h⟩

theorem kRoundConstants_eq : kRoundConstants = roundConstants := by decide +kernel

theorem initial_hash : Sha256Words.initial.hash = SecureHashStandard.H0 := by
  have roots : Sha256Words.initial = ⟨SecureHashStandard.H0.a, SecureHashStandard.H0.b,
      SecureHashStandard.H0.c, SecureHashStandard.H0.d, SecureHashStandard.H0.e,
      SecureHashStandard.H0.f, SecureHashStandard.H0.g, SecureHashStandard.H0.h⟩ := by
    decide +kernel
  rw [roots]
  rfl

namespace Sha256

theorem wordBytes_bits (word : UInt32) : bitsOfBytes (wordBytes word) = bitsOfWord word := by
  have split := SecureHashStandard.bitsOfNat_byte 24 word.toNat
  rw [SecureHashStandard.bitsOfNat_byte 16, SecureHashStandard.bitsOfNat_byte 8] at split
  rw [bitsOfWord, split]
  simp only [wordBytes, storeU32, bitsOfBytes, List.reverse_cons, List.reverse_nil, List.nil_append,
    List.cons_append, List.flatMap_cons, List.flatMap_nil, List.append_nil, UInt32.toNat_toUInt8,
    UInt32.toNat_shiftRight, UInt32.reduceToNat, Nat.reduceMod]
  rw [SecureHashStandard.bitsOfNat_mod 8 word.toNat]

theorem bigEndian_bits (value : UInt64) :
    bitsOfBytes (bigEndian value) = bitsOfNat 64 value.toNat := by
  have split := SecureHashStandard.bitsOfNat_byte 56 value.toNat
  rw [SecureHashStandard.bitsOfNat_byte 48, SecureHashStandard.bitsOfNat_byte 40,
    SecureHashStandard.bitsOfNat_byte 32, SecureHashStandard.bitsOfNat_byte 24,
    SecureHashStandard.bitsOfNat_byte 16, SecureHashStandard.bitsOfNat_byte 8] at split
  rw [split]
  simp only [bigEndian, storeU64, bitsOfBytes, List.reverse_cons, List.reverse_nil, List.nil_append,
    List.cons_append, List.flatMap_cons, List.flatMap_nil, List.append_nil, UInt64.toNat_toUInt8,
    UInt64.toNat_shiftRight, UInt64.reduceToNat, Nat.reduceMod]
  rw [SecureHashStandard.bitsOfNat_mod 8 value.toNat]

end Sha256

theorem loadByte_drop (data : ByteBuffer) (start index : Nat) :
    loadByte (data.drop start) index = loadByte data (start + index) := by
  simp [loadByte, List.getD_eq_getElem?_getD]

theorem or_reversed (first second third fourth : UInt32) :
    first ||| second ||| third ||| fourth = fourth ||| third ||| second ||| first := by
  ac_rfl

theorem blockWord_bytes {block : ByteBuffer} {index : Nat} (enough : index * 4 + 4 ≤ block.length) :
    Sha256.wordBytes (blockWord block index) = (block.drop (index * 4)).take 4 := by
  have length : ((block.drop (index * 4)).take 4).reverse.length = 4 := by
    rw [List.length_reverse, List.length_take, List.length_drop]
    omega
  have loaded : blockWord block index = loadU32 ((block.drop (index * 4)).take 4).reverse := by
    have start := loadByte_drop block (index * 4) 0
    rw [Nat.add_zero] at start
    rw [blockWord, ← start, ← loadByte_drop, ← loadByte_drop, ← loadByte_drop]
    rw [List.length_reverse, List.length_take] at length
    match block.drop (index * 4), length with
    | first :: second :: third :: fourth :: rest, _ =>
        exact or_reversed (first.toUInt32 <<< 24) (second.toUInt32 <<< 16) (third.toUInt32 <<< 8)
          fourth.toUInt32
  rw [Sha256.wordBytes, loaded, storeU32_loadU32 length.ge, List.take_of_length_le length.le,
    List.reverse_reverse]

theorem blockWord_eq {block : ByteBuffer} {index : Nat} (enough : index * 4 + 4 ≤ block.length) :
    blockWord block index = SecureHashStandard.blockWord (bitsOfBytes block) index := by
  have place : index * 32 = index * 4 * 8 := by omega
  have size : (32 : Nat) = 4 * 8 := rfl
  rw [SecureHashStandard.blockWord, place, SecureHashStandard.bitsOfBytes_drop, size,
    SecureHashStandard.bitsOfBytes_take, ← blockWord_bytes enough, Sha256.wordBytes_bits,
    SecureHashStandard.wordOfBits_bitsOfWord]

theorem extendSchedule_eq {block : ByteBuffer} (count : Nat) {known : Nat} (started : 16 ≤ known) :
    extendSchedule count ((List.range known).map (W (bitsOfBytes block))) =
      (List.range (known + count)).map (W (bitsOfBytes block)) := by
  induction count generalizing known with
  | zero => rfl
  | succ count ih =>
      have earlier {index : Nat} (inside : index < known) :
          ((List.range known).map (W (bitsOfBytes block))).getD index 0 =
            W (bitsOfBytes block) index := by
        simp [List.getD_eq_getElem?_getD, inside]
      have next : W (bitsOfBytes block) known =
          W (bitsOfBytes block) (known - 16) +
            SecureHashStandard.smallSigma0 (W (bitsOfBytes block) (known - 15)) +
            W (bitsOfBytes block) (known - 7) +
            SecureHashStandard.smallSigma1 (W (bitsOfBytes block) (known - 2)) := by
        rw [W, if_neg (by omega)]
        ac_rfl
      rw [extendSchedule, List.length_map, List.length_range, earlier (by omega), earlier (by omega),
        earlier (by omega), earlier (by omega)]
      have step := ih (Nat.le_succ_of_le started)
      rw [List.range_succ, List.map_append, List.map_singleton, next, Nat.succ_add_eq_add_succ] at step
      exact step

theorem messageSchedule_eq {block : ByteBuffer} (sized : block.length = 64) :
    messageSchedule block = (List.range 64).map (W (bitsOfBytes block)) := by
  have first : (List.range 16).map (blockWord block) = (List.range 16).map (W (bitsOfBytes block)) := by
    apply List.map_congr_left
    intro index inside
    rw [List.mem_range] at inside
    rw [W, if_pos inside, blockWord_eq (by omega)]
  rw [messageSchedule, first, extendSchedule_eq 48 (Nat.le_refl 16)]

theorem sha256Round_hash (words : Sha256Words) (constant scheduled : UInt32) :
    (sha256Round words constant scheduled).hash =
      SecureHashStandard.round constant scheduled words.hash := rfl

theorem sha256Rounds_append {constants schedule : List UInt32} (words : Sha256Words)
    (paired : constants.length = schedule.length) (constant scheduled : UInt32) :
    sha256Rounds words (constants ++ [constant]) (schedule ++ [scheduled]) =
      sha256Round (sha256Rounds words constants schedule) constant scheduled := by
  induction constants generalizing schedule words with
  | nil =>
      cases schedule with
      | nil => rfl
      | cons first rest => cases paired
  | cons first rest ih =>
      cases schedule with
      | nil => cases paired
      | cons word words => exact ih _ (Nat.succ.inj paired)

theorem sha256Rounds_hash (block : ByteBuffer) (words : Sha256Words) (count : Nat) :
    (sha256Rounds words ((List.range count).map K)
        ((List.range count).map (W (bitsOfBytes block)))).hash =
      SecureHashStandard.rounds (bitsOfBytes block) words.hash count := by
  induction count with
  | zero => rfl
  | succ count ih =>
      rw [List.range_succ, List.map_append, List.map_append, List.map_singleton,
        List.map_singleton, sha256Rounds_append _ (by simp), sha256Round_hash, ih,
        SecureHashStandard.rounds]

theorem roundConstants_range : roundConstants = (List.range 64).map K := by
  have length : roundConstants.length = 64 := by decide +kernel
  apply List.ext_getElem
  · rw [length, List.length_map, List.length_range]
  · intro index inside _
    simp [K, List.getD_eq_getElem?_getD, inside]

theorem compress_hash {block : ByteBuffer} (sized : block.length = 64) (words : Sha256Words) :
    (compress words block).hash = SecureHashStandard.compress words.hash (bitsOfBytes block) := by
  have rounds := sha256Rounds_hash block words 64
  rw [← roundConstants_range, ← kRoundConstants_eq, ← messageSchedule_eq sized] at rounds
  rw [SecureHashStandard.compress, ← rounds]
  simp only [compress, Sha256Words.add, Sha256Words.hash, SecureHashStandard.Hash.add, UInt32.add_comm]

/-- The chaining words over the blocks of a byte string are the standard's hash values. -/
theorem chain_hash {data : ByteBuffer} (count : Nat) (enough : count * 64 ≤ data.length) :
    (chain 64 compress count .initial data).hash =
      SecureHashStandard.hashAfter (bitsOfBytes data) count := by
  induction count with
  | zero => exact initial_hash
  | succ count ih =>
      have sized : ((data.drop (count * 64)).take 64).length = 64 := by
        rw [List.length_take, List.length_drop]
        omega
      have place : count * 512 = count * 64 * 8 := by omega
      have size : (512 : Nat) = 64 * 8 := rfl
      rw [chain_succ, compress_hash sized, ih (by omega), SecureHashStandard.hashAfter,
        SecureHashStandard.block, place, SecureHashStandard.bitsOfBytes_drop, size,
        SecureHashStandard.bitsOfBytes_take]

namespace Sha256

theorem compressBlocks_absorbs {fuel : Nat} {data : ByteBuffer} (words : Sha256Words)
    (enough : data.length < (fuel + 1) * 64) :
    compressBlocks fuel words data = absorb 64 compress words data := by
  induction fuel generalizing words data with
  | zero => rw [compressBlocks, absorb_short (by omega)]
  | succ fuel ih =>
      rw [compressBlocks]
      by_cases short : data.length < 64
      · rw [if_pos short, absorb_short short]
      · have rest : (data.drop 64).length < (fuel + 1) * 64 := by
          rw [List.length_drop]
          omega
        rw [if_neg short, ih _ rest, ← absorb_block (by decide) (Nat.le_of_not_lt short)]

theorem update_absorbs (hasher : Sha256) (data : ByteBuffer) (short : hasher.buffer.length < 64) :
    ((hasher.update data).state, (hasher.update data).buffer) =
      absorb 64 compress hasher.state (hasher.buffer ++ data) := by
  have drains (words : Sha256Words) (rest : ByteBuffer) :
      compressBlocks rest.length words rest = absorb 64 compress words rest :=
    compressBlocks_absorbs words (by omega)
  unfold update
  by_cases none : data.isEmpty = true
  · rw [if_pos none, List.isEmpty_iff.mp none, List.append_nil, absorb_short short]
  rw [if_neg none]
  dsimp only
  by_cases blank : hasher.buffer.isEmpty = true
  · have empty := List.isEmpty_iff.mp blank
    simp [empty, drains]
  · rw [if_neg blank, drains]
    have held : 0 < hasher.buffer.length := List.length_pos_iff.mpr fun empty =>
      blank (List.isEmpty_iff.mpr empty)
    by_cases fills : 64 - hasher.buffer.length ≤ data.length
    · have filled : (hasher.buffer ++ data.take (64 - hasher.buffer.length)).length = 64 := by
        rw [List.length_append, List.length_take]
        omega
      have block : (hasher.buffer ++ data).take 64 =
          hasher.buffer ++ data.take (64 - hasher.buffer.length) := by
        rw [List.take_append, List.take_of_length_le short.le]
      have rest : (hasher.buffer ++ data).drop 64 = data.drop (64 - hasher.buffer.length) := by
        rw [List.drop_append, List.drop_eq_nil_of_le short.le, List.nil_append]
      have full : 64 ≤ (hasher.buffer ++ data).length := by
        rw [List.length_append]
        omega
      rw [if_pos filled, absorb_block (by decide) full, block, rest]
      rfl
    · have taken : data.take (64 - hasher.buffer.length) = data :=
        List.take_of_length_le (Nat.le_of_not_le fills)
      have unfilled : (hasher.buffer ++ data).length < 64 := by
        rw [List.length_append]
        omega
      rw [taken, if_neg unfilled.ne, List.drop_eq_nil_of_le (Nat.le_of_not_le fills),
        absorb_short (by decide), absorb_short unfilled]
      simp

theorem update_buffered :
    Buffered 64 compress Sha256.state Sha256.buffer update :=
  ⟨update_absorbs⟩

theorem update_bitCount (hasher : Sha256) (data : ByteBuffer) :
    (hasher.update data).bitCount = hasher.bitCount + data.length.toUInt64 * 8 := by
  unfold update
  by_cases none : data.isEmpty = true
  · rw [if_pos none, List.isEmpty_iff.mp none]
    simp
  · rw [if_neg none]

theorem updates_bitCount (pieces : List ByteBuffer) (hasher : Sha256) :
    (pieces.foldl update hasher).bitCount =
      hasher.bitCount + pieces.flatten.length.toUInt64 * 8 := by
  induction pieces generalizing hasher with
  | nil => simp
  | cons piece pieces ih =>
      have sum : (piece.length + pieces.flatten.length).toUInt64 =
          piece.length.toUInt64 + pieces.flatten.length.toUInt64 := UInt64.ofNat_add _ _
      rw [List.foldl_cons, ih, update_bitCount, List.flatten_cons, List.length_append, sum,
        UInt64.add_assoc, ← UInt64.add_mul]

def reset (hasher : Sha256) : Sha256 :=
  { hasher with state := .initial, bitCount := 0, buffer := [] }

def finishReset (hasher : Sha256) : Digest × Sha256 :=
  let used := hasher.buffer.length
  let padLength := if used < 56 then 56 - used else 120 - used
  let padding : ByteBuffer := 0x80 :: List.replicate 71 0
  let padded := hasher.update (padding.take padLength)
  let final := padded.update (bigEndian hasher.bitCount)
  let words := final.state
  (⟨outputBytes words, outputBytes_length words⟩, final.reset)

theorem finishReset_finish (hasher : Sha256) : hasher.finishReset.1 = hasher.finish := rfl

theorem outputBytes_bits (words : Sha256Words) : bitsOfBytes (outputBytes words) = words.hash.bits := by
  simp only [outputBytes, SecureHashStandard.bitsOfBytes_append, wordBytes_bits]
  rfl

def marker (length : Nat) : ByteBuffer :=
  let used := length % 64
  0x80 :: List.replicate ((if used < 56 then 56 - used else 120 - used) - 1) 0

theorem marker_eq (length : Nat) :
    (0x80 :: List.replicate 71 0 : ByteBuffer).take
      (if length % 64 < 56 then 56 - length % 64 else 120 - length % 64) = marker length := by
  have length : ∃ zeros ≤ 71, (if length % 64 < 56 then 56 - length % 64 else 120 - length % 64) =
      zeros + 1 := by
    split
    · exact ⟨55 - length % 64, by omega, by omega⟩
    · exact ⟨119 - length % 64, by omega, by omega⟩
  obtain ⟨zeros, fits, padLength⟩ := length
  rw [marker, padLength, List.take_succ_cons, List.take_replicate, Nat.min_eq_left fits,
    Nat.add_sub_cancel]

theorem marker_bits (length : Nat) :
    bitsOfBytes (marker length) =
      [true] ++ List.replicate (SecureHashStandard.zeroBits (length * 8)) false := by
  have first : bitsOfNat 8 (0x80 : UInt8).toNat = [true] ++ List.replicate 7 false := by decide
  have zeros : 7 + ((if length % 64 < 56 then 56 - length % 64 else 120 - length % 64) - 1) * 8 =
      SecureHashStandard.zeroBits (length * 8) := by
    rw [SecureHashStandard.zeroBits]
    split <;> omega
  rw [marker, SecureHashStandard.bitsOfBytes_cons, SecureHashStandard.bitsOfBytes_zeros, first,
    List.append_assoc, List.replicate_append_replicate, zeros]

theorem padded_bits {message : ByteBuffer} (small : message.length < 2 ^ 61) :
    bitsOfBytes (message ++ marker message.length ++ bigEndian (message.length.toUInt64 * 8)) =
      SecureHashStandard.pad (bitsOfBytes message) := by
  have count : (message.length.toUInt64 * 8).toNat = message.length * 8 := by
    simp only [UInt64.toNat_mul, Nat.toUInt64, UInt64.toNat_ofNat', UInt64.reduceToNat]
    omega
  rw [SecureHashStandard.bitsOfBytes_append, SecureHashStandard.bitsOfBytes_append, marker_bits,
    bigEndian_bits, count, SecureHashStandard.pad, SecureHashStandard.bitsOfBytes_length,
    List.append_assoc, List.append_assoc, List.append_assoc, List.append_assoc]

theorem padded_whole (message : ByteBuffer) (count : UInt64) :
    64 ∣ (message ++ marker message.length ++ bigEndian count).length := by
  have eight : (bigEndian count).length = 8 := by simp [bigEndian]
  have size : (message ++ marker message.length ++ bigEndian count).length =
      message.length + (marker message.length).length + 8 := by
    rw [List.length_append, List.length_append, eight]
  rw [size, marker, List.length_cons, List.length_replicate]
  apply Nat.dvd_of_mod_eq_zero
  split <;> omega

theorem finish_state (pieces : List ByteBuffer) :
    ∃ padded, padded = pieces.flatten ++ marker pieces.flatten.length ++
        bigEndian (pieces.flatten.length.toUInt64 * 8) ∧
      (pieces.foldl update {}).finish.bytes =
        outputBytes (chain 64 compress (padded.length / 64) .initial padded) := by
  have blank : ({} : Sha256).buffer.length < 64 := by decide
  have held : (pieces.foldl update {}).buffer =
      (absorb 64 compress .initial pieces.flatten).2 :=
    congrArg Prod.snd (update_buffered.pieces (by decide) pieces blank)
  have used : (pieces.foldl update {}).buffer.length = pieces.flatten.length % 64 := by
    rw [held, absorb_rest]
  have count : (pieces.foldl update {}).bitCount = pieces.flatten.length.toUInt64 * 8 := by
    rw [updates_bitCount, UInt64.zero_add]
  let last := [marker pieces.flatten.length, bigEndian (pieces.flatten.length.toUInt64 * 8)]
  have final : (pieces.foldl update {}).finish.bytes =
      outputBytes ((pieces ++ last).foldl update {}).state := by
    rw [finish]
    dsimp only
    rw [used, marker_eq, count, List.foldl_append]
    rfl
  have padded : (pieces ++ last).flatten = pieces.flatten ++ marker pieces.flatten.length ++
      bigEndian (pieces.flatten.length.toUInt64 * 8) := by
    simp [last]
  have absorbed : ((pieces ++ last).foldl update {}).state =
      (absorb 64 compress .initial (pieces ++ last).flatten).1 :=
    congrArg Prod.fst (update_buffered.pieces (by decide) (pieces ++ last) blank)
  refine ⟨_, rfl, ?_⟩
  rw [final, absorbed, padded, absorb_whole (padded_whole _ _)]

theorem finish_standard (pieces : List ByteBuffer) (small : pieces.flatten.length < 2 ^ 61) :
    SecureHashStandard.sha256 (bitsOfBytes pieces.flatten) =
      some (bitsOfBytes (pieces.foldl update {}).finish.bytes) := by
  obtain ⟨padded, made, digest⟩ := finish_state pieces
  have bits := padded_bits small
  rw [← made] at bits
  have bounded : (bitsOfBytes pieces.flatten).length < 2 ^ 64 := by
    rw [SecureHashStandard.bitsOfBytes_length]
    omega
  have blocks : (bitsOfBytes padded).length / 512 = padded.length / 64 := by
    rw [SecureHashStandard.bitsOfBytes_length]
    omega
  rw [SecureHashStandard.sha256, if_pos bounded, ← bits, blocks, digest, outputBytes_bits,
    chain_hash _ (Nat.div_mul_le_self _ _)]

/-- However a message is cut into updates, the digest is the one of the standard, and the object is
left as it was constructed. -/
theorem incremental_sha256 (pieces : List ByteBuffer) (small : pieces.flatten.length < 2 ^ 61) :
    SecureHashStandard.sha256 (bitsOfBytes pieces.flatten) =
        some (bitsOfBytes (pieces.foldl update {}).finishReset.1.bytes) ∧
      (pieces.foldl update {}).finishReset.2 = {} := by
  constructor
  · rw [finishReset_finish]
    exact finish_standard pieces small
  · rfl

theorem incremental_sha256_abc :
    SecureHashStandard.sha256 (bitsOfBytes [text "a", [], text "bc"].flatten) =
        some (bitsOfBytes ([text "a", [], text "bc"].foldl update {}).finishReset.1.bytes) ∧
      ([text "a", [], text "bc"].foldl update {}).finishReset.2 = {} :=
  incremental_sha256 [text "a", [], text "bc"] (by decide)

end Sha256

theorem sha256_standard {data : ByteBuffer} (small : data.length < 2 ^ 61) :
    SecureHashStandard.sha256 (bitsOfBytes data) = some (bitsOfBytes (sha256 data).bytes) := by
  have whole := Sha256.finish_standard [data]
  rw [List.flatten_singleton] at whole
  exact whole small

end ArtifactPromotion
