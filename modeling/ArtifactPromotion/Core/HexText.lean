import ArtifactPromotion.Core.Sha256

/-! Reading hexadecimal text: byte strings, identities and digests have one spelling each. -/

namespace ArtifactPromotion

/-- The value of one lower-case hexadecimal character; `none` is the `-1` of the source. -/
def hexValue (c : UInt8) : Option UInt8 :=
  if 48 ≤ c ∧ c ≤ 57 then some (c - 48)
  else if 97 ≤ c ∧ c ≤ 102 then some ((c - 97) + 10)
  else none

def hexPairs : Text → Option ByteBuffer
  | first :: second :: rest => do
      let high ← hexValue first
      let low ← hexValue second
      let bytes ← hexPairs rest
      return ((high <<< 4) ||| low) :: bytes
  | _ => some []

def fromHex (text : Text) : Option ByteBuffer :=
  if text.length % 2 ≠ 0 then none else hexPairs text

def parseHalf (value : UInt64) : Text → Option UInt64
  | [] => some value
  | c :: rest => do
      let digit ← hexValue c
      parseHalf ((value <<< 4) ||| digit.toUInt64) rest

def parseHex128 (text : Text) : Option (UInt64 × UInt64) :=
  if text.length ≠ 32 then none
  else do
    let high ← parseHalf 0 (text.take 16)
    let low ← parseHalf 0 (text.drop 16)
    return (high, low)

def Identity.parse {tag : IdentityTag} (text : Text) : Option (Identity tag) := do
  let (high, low) ← parseHex128 text
  if high = 0 ∧ low = 0 then none else some ⟨high, low⟩

def Digest.parse (text : Text) : Option Digest :=
  if text.length ≠ 64 then none
  else do
    let raw ← fromHex text
    if sized : raw.length = 32 then
      let digest : Digest := ⟨raw, sized⟩
      if digest.valid then some digest else none
    else none

/-! ### Single characters and single bytes -/

theorem forall_byte {holds : UInt8 → Prop} (checked : ∀ raw : Fin 256, holds (UInt8.ofNat raw))
    (raw : UInt8) : holds raw := by
  have found := checked ⟨raw.toNat, raw.toNat_lt⟩
  rwa [show UInt8.ofNat raw.toNat = raw from UInt8.ofNat_toNat] at found

theorem hexValue_hexDigit_high (byte : UInt8) :
    hexValue (hexDigit (byte >>> 4)) = some (byte >>> 4) := by
  revert byte
  apply forall_byte
  decide +kernel

theorem hexValue_hexDigit_low (byte : UInt8) :
    hexValue (hexDigit (byte &&& 0x0F)) = some (byte &&& 0x0F) := by
  revert byte
  apply forall_byte
  decide +kernel

theorem halves_rejoin (byte : UInt8) : ((byte >>> 4) <<< 4) ||| (byte &&& 0x0F) = byte := by
  revert byte
  apply forall_byte
  decide +kernel

theorem hexDigit_hexValue (c : UInt8) : ∀ digit ∈ hexValue c, digit < 16 ∧ hexDigit digit = c := by
  revert c
  apply forall_byte
  decide +kernel

theorem rejoined_halves {high low : UInt8} (highSmall : high < 16) (lowSmall : low < 16) :
    ((high <<< 4) ||| low) >>> 4 = high ∧ ((high <<< 4) ||| low) &&& 0x0F = low := by
  revert high low
  have nibbles : ∀ high low : Fin 16,
      ((UInt8.ofNat high <<< 4) ||| UInt8.ofNat low) >>> 4 = UInt8.ofNat high ∧
        ((UInt8.ofNat high <<< 4) ||| UInt8.ofNat low) &&& 0x0F = UInt8.ofNat low := by
    decide +kernel
  intro high low highSmall lowSmall
  have checked := nibbles ⟨high.toNat, highSmall⟩ ⟨low.toNat, lowSmall⟩
  simpa only [UInt8.ofNat_toNat] using checked

/-! ### Byte strings -/

@[simp] theorem toHex_nil : toHex [] = [] := rfl

@[simp] theorem toHex_cons (byte : UInt8) (rest : ByteBuffer) :
    toHex (byte :: rest) = hexDigit (byte >>> 4) :: hexDigit (byte &&& 0x0F) :: toHex rest := rfl

theorem toHex_length (bytes : ByteBuffer) : (toHex bytes).length = 2 * bytes.length := by
  induction bytes with
  | nil => rfl
  | cons byte rest ih =>
      simp only [toHex_cons, List.length_cons, ih]
      omega

theorem toHex_append (front back : ByteBuffer) :
    toHex (front ++ back) = toHex front ++ toHex back := by
  simp only [toHex, List.flatMap_append]

theorem hexPairs_toHex (bytes : ByteBuffer) : hexPairs (toHex bytes) = some bytes := by
  induction bytes with
  | nil => rfl
  | cons byte rest ih =>
      simp only [toHex_cons, hexPairs, hexValue_hexDigit_high, hexValue_hexDigit_low, ih,
        Option.bind_eq_bind, Option.bind_some, halves_rejoin, Option.pure_def]

theorem hexPairs_cons {first second : UInt8} {rest : Text} {bytes : ByteBuffer}
    (accepted : hexPairs (first :: second :: rest) = some bytes) :
    ∃ high low tail, hexValue first = some high ∧ hexValue second = some low ∧
      hexPairs rest = some tail ∧ bytes = ((high <<< 4) ||| low) :: tail := by
  simp only [hexPairs, Option.bind_eq_bind, Option.bind_eq_some_iff, Option.pure_def,
    Option.some.injEq] at accepted
  obtain ⟨high, isHigh, low, isLow, tail, isTail, same⟩ := accepted
  exact ⟨high, low, tail, isHigh, isLow, isTail, same.symm⟩

theorem toHex_hexPairs (text : Text) (bytes : ByteBuffer) (even : text.length % 2 = 0)
    (accepted : hexPairs text = some bytes) : toHex bytes = text := by
  -- The induction follows the loop, so two characters come off the text at once.
  induction text using hexPairs.induct generalizing bytes with
  | case1 first second rest ih =>
      obtain ⟨high, low, tail, isHigh, isLow, isTail, rfl⟩ := hexPairs_cons accepted
      obtain ⟨highSmall, firstSame⟩ := hexDigit_hexValue first high isHigh
      obtain ⟨lowSmall, secondSame⟩ := hexDigit_hexValue second low isLow
      obtain ⟨above, below⟩ := rejoined_halves highSmall lowSmall
      have shorter : rest.length % 2 = 0 := by
        simp only [List.length_cons] at even
        omega
      rw [toHex_cons, above, below, firstSame, secondSame, ih tail shorter isTail]
  | case2 text short =>
      cases text with
      | nil =>
          simp only [hexPairs, Option.some.injEq] at accepted
          simp only [← accepted, toHex_nil]
      | cons first rest =>
          cases rest with
          | nil => simp at even
          | cons second rest => exact absurd rfl (short first second rest)

theorem fromHex_iff (text : Text) (bytes : ByteBuffer) :
    fromHex text = some bytes ↔ text = toHex bytes := by
  unfold fromHex
  constructor
  · intro accepted
    by_cases even : text.length % 2 = 0
    · rw [if_neg (by simp [even])] at accepted
      exact (toHex_hexPairs text bytes even accepted).symm
    · rw [if_pos even] at accepted
      cases accepted
  · rintro rfl
    have even : (toHex bytes).length % 2 = 0 := by
      rw [toHex_length]
      omega
    rw [if_neg (by simp [even]), hexPairs_toHex]

/-! ### The two halves of an identity -/

def shiftIn (value : UInt64) (bytes : ByteBuffer) : UInt64 :=
  bytes.foldl (fun total byte => (total <<< 8) ||| byte.toUInt64) value

theorem nibbles_shift (value : UInt64) (high low : UInt8) (small : high < 16) :
    (((value <<< 4) ||| high.toUInt64) <<< 4) ||| low.toUInt64 =
      (value <<< 8) ||| ((high <<< 4) ||| low).toUInt64 := by
  have clear (index : Nat) (upper : 4 ≤ index) : high.toBitVec.getLsbD index = false := by
    have below : high.toNat < 2 ^ index :=
      Nat.lt_of_lt_of_le small (Nat.pow_le_pow_right (by decide : 0 < 2) upper)
    exact Nat.testBit_lt_two_pow below
  apply UInt64.toBitVec_inj.mp
  apply BitVec.eq_of_getLsbD_eq
  intro index bound
  simp only [UInt64.toBitVec_or, UInt64.toBitVec_shiftLeft, UInt8.toBitVec_toUInt64,
    UInt8.toBitVec_or, UInt8.toBitVec_shiftLeft, BitVec.getLsbD_or, BitVec.shiftLeft_eq',
    BitVec.getLsbD_shiftLeft, BitVec.getLsbD_setWidth, UInt64.toBitVec_ofNat,
    UInt8.toBitVec_ofNat, BitVec.toNat_ofNat, BitVec.toNat_umod, Nat.reducePow, Nat.reduceMod,
    bound, decide_true, Bool.true_and]
  grind

theorem parseHalf_toHex (bytes : ByteBuffer) (value : UInt64) :
    parseHalf value (toHex bytes) = some (shiftIn value bytes) := by
  induction bytes generalizing value with
  | nil => rfl
  | cons byte rest ih =>
      have small : byte >>> 4 < 16 := (hexDigit_hexValue _ _ (hexValue_hexDigit_high byte)).1
      simp only [toHex_cons, parseHalf, hexValue_hexDigit_high, hexValue_hexDigit_low,
        Option.bind_eq_bind, Option.bind_some, ih, nibbles_shift value _ _ small, halves_rejoin]
      rfl

theorem parseHalf_text (text : Text) (value result : UInt64) (even : text.length % 2 = 0)
    (accepted : parseHalf value text = some result) : ∃ bytes, text = toHex bytes := by
  induction text using hexPairs.induct generalizing value with
  | case1 first second rest ih =>
      simp only [parseHalf, Option.bind_eq_bind, Option.bind_eq_some_iff] at accepted
      obtain ⟨high, isHigh, low, isLow, later⟩ := accepted
      obtain ⟨highSmall, firstSame⟩ := hexDigit_hexValue first high isHigh
      obtain ⟨lowSmall, secondSame⟩ := hexDigit_hexValue second low isLow
      obtain ⟨above, below⟩ := rejoined_halves highSmall lowSmall
      have shorter : rest.length % 2 = 0 := by
        simp only [List.length_cons] at even
        omega
      obtain ⟨bytes, rfl⟩ := ih _ shorter later
      refine ⟨((high <<< 4) ||| low) :: bytes, ?_⟩
      rw [toHex_cons, above, below, firstSame, secondSame]
  | case2 text short =>
      cases text with
      | nil => exact ⟨[], rfl⟩
      | cons first rest =>
          cases rest with
          | nil => simp at even
          | cons second rest => exact absurd rfl (short first second rest)

theorem shiftIn_eight {bytes : ByteBuffer} (sized : bytes.length = 8) :
    shiftIn 0 bytes = loadU64 bytes.reverse := by
  obtain ⟨first, second, third, fourth, fifth, sixth, seventh, eighth, rfl⟩ :
      ∃ a b c d e f g h, bytes = [a, b, c, d, e, f, g, h] := by
    match bytes, sized with
    | [a, b, c, d, e, f, g, h], _ => exact ⟨a, b, c, d, e, f, g, h, rfl⟩
  simp only [shiftIn, List.foldl_cons, List.foldl_nil, loadU64, loadByte, List.reverse_cons,
    List.reverse_nil, List.nil_append, List.cons_append, List.getD_cons_zero, List.getD_cons_succ]
  apply UInt64.toBitVec_inj.mp
  apply BitVec.eq_of_getLsbD_eq
  intro index bound
  simp only [UInt64.toBitVec_or, UInt64.toBitVec_shiftLeft, UInt8.toBitVec_toUInt64,
    BitVec.getLsbD_or, BitVec.shiftLeft_eq', BitVec.getLsbD_shiftLeft, BitVec.getLsbD_setWidth,
    UInt64.toBitVec_ofNat, BitVec.toNat_ofNat, BitVec.toNat_umod, Nat.reducePow, Nat.reduceMod,
    bound, decide_true, Bool.true_and]
  grind

theorem shiftIn_bigEndian (value : UInt64) : shiftIn 0 (bigEndian value) = value := by
  rw [shiftIn_eight (by simp [bigEndian]), bigEndian, List.reverse_reverse]
  simpa using loadU64_storeU64 value []

theorem bigEndian_shiftIn {bytes : ByteBuffer} (sized : bytes.length = 8) :
    bigEndian (shiftIn 0 bytes) = bytes := by
  have enough : 8 ≤ bytes.reverse.length := by simp [sized]
  rw [shiftIn_eight sized, bigEndian, storeU64_loadU64 enough, List.take_of_length_le (by simp [sized]),
    List.reverse_reverse]

theorem bigEndian_length (value : UInt64) : (bigEndian value).length = 8 := by
  simp [bigEndian]

theorem parseHalf_iff {text : Text} (sized : text.length = 16) (value : UInt64) :
    parseHalf 0 text = some value ↔ text = toHex (bigEndian value) := by
  constructor
  · intro accepted
    obtain ⟨bytes, rfl⟩ := parseHalf_text text 0 value (by omega) accepted
    rw [toHex_length] at sized
    have eight : bytes.length = 8 := by omega
    rw [parseHalf_toHex, Option.some.injEq] at accepted
    rw [← accepted, bigEndian_shiftIn eight]
  · rintro rfl
    rw [parseHalf_toHex, shiftIn_bigEndian]

theorem parseHex128_iff (text : Text) (high low : UInt64) :
    parseHex128 text = some (high, low) ↔ text = renderHex128 high low := by
  unfold parseHex128 renderHex128
  constructor
  · intro accepted
    by_cases sized : text.length = 32
    · rw [if_neg (by simp [sized])] at accepted
      simp only [Option.bind_eq_bind, Option.bind_eq_some_iff, Option.pure_def, Option.some.injEq,
        Prod.mk.injEq] at accepted
      obtain ⟨_, isHigh, _, isLow, rfl, rfl⟩ := accepted
      have front := (parseHalf_iff (by simp [sized]) _).mp isHigh
      have back := (parseHalf_iff (by simp [sized]) _).mp isLow
      rw [toHex_append, ← front, ← back, List.take_append_drop]
    · rw [if_pos sized] at accepted
      cases accepted
  · rintro rfl
    have sixteen (value : UInt64) : (toHex (bigEndian value)).length = 16 := by
      rw [toHex_length, bigEndian_length]
    rw [toHex_append, if_neg (by simp [sixteen]), List.take_left' (sixteen high),
      List.drop_left' (sixteen high), (parseHalf_iff (sixteen high) high).mpr rfl,
      (parseHalf_iff (sixteen low) low).mpr rfl]
    rfl

theorem Identity.parse_iff {tag : IdentityTag} (text : Text) (id : Identity tag) :
    Identity.parse text = some id ↔ id.valid = true ∧ text = id.toText := by
  unfold Identity.parse Identity.toText
  constructor
  · intro accepted
    simp only [Option.bind_eq_bind, Option.bind_eq_some_iff] at accepted
    obtain ⟨⟨high, low⟩, parsed, checked⟩ := accepted
    by_cases zero : high = 0 ∧ low = 0
    · rw [if_pos zero] at checked
      cases checked
    · rw [if_neg zero, Option.some.injEq] at checked
      subst checked
      refine ⟨?_, (parseHex128_iff text high low).mp parsed⟩
      simpa [Identity.valid, ← not_and_or] using zero
  · rintro ⟨valid, rfl⟩
    have nonzero : ¬(id.high = 0 ∧ id.low = 0) := by
      simpa [Identity.valid, ← not_and_or] using valid
    rw [(parseHex128_iff _ _ _).mpr rfl]
    simp only [Option.bind_eq_bind, Option.bind_some, nonzero, ↓reduceIte]

theorem Digest.parse_iff (text : Text) (digest : Digest) :
    Digest.parse text = some digest ↔ digest.valid = true ∧ text = digest.toText := by
  unfold Digest.parse Digest.toText
  constructor
  · intro accepted
    by_cases sized : text.length = 64
    · rw [if_neg (by simp [sized])] at accepted
      simp only [Option.bind_eq_bind, Option.bind_eq_some_iff] at accepted
      obtain ⟨raw, isRaw, checked⟩ := accepted
      by_cases full : raw.length = 32
      · rw [dif_pos full] at checked
        by_cases valid : (⟨raw, full⟩ : Digest).valid = true
        · rw [if_pos valid, Option.some.injEq] at checked
          subst checked
          exact ⟨valid, (fromHex_iff text raw).mp isRaw⟩
        · rw [if_neg valid] at checked
          cases checked
      · rw [dif_neg full] at checked
        cases checked
    · rw [if_pos sized] at accepted
      cases accepted
  · rintro ⟨valid, rfl⟩
    have sized : (toHex digest.bytes).length = 64 := by
      rw [toHex_length, digest.sized]
    rw [if_neg (by simp [sized]), (fromHex_iff _ _).mpr rfl]
    simp only [Option.bind_eq_bind, Option.bind_some, digest.sized, ↓reduceDIte]
    rw [if_pos valid]

theorem Identity.toText_injective {tag : IdentityTag} {left right : Identity tag}
    (same : left.toText = right.toText) : left = right := by
  have parsed := (parseHex128_iff left.toText right.high right.low).mpr same
  rw [(parseHex128_iff left.toText left.high left.low).mpr rfl, Option.some.injEq,
    Prod.mk.injEq] at parsed
  cases left
  cases right
  simp_all

theorem Digest.toText_injective {left right : Digest} (same : left.toText = right.toText) :
    left = right := by
  have parsed := (fromHex_iff left.toText right.bytes).mpr same
  rw [(fromHex_iff left.toText left.bytes).mpr rfl, Option.some.injEq] at parsed
  exact Digest.eq_of_bytes parsed

/-- Identities, digests and byte strings have exactly one text each: reading what was written
gives the value back, the zero values are refused, and what is read was written so. -/
theorem text_forms_canonical :
    (∀ (tag : IdentityTag) (id : Identity tag),
      (Identity.parse id.toText : Option (Identity tag)) = if id.valid then some id else none) ∧
    (∀ (tag : IdentityTag) (text : Text) (id : Identity tag),
      Identity.parse text = some id ↔ id.valid = true ∧ text = id.toText) ∧
    (∀ digest : Digest,
      Digest.parse digest.toText = if digest.valid then some digest else none) ∧
    (∀ (text : Text) (digest : Digest),
      Digest.parse text = some digest ↔ digest.valid = true ∧ text = digest.toText) ∧
    (∀ bytes : ByteBuffer, fromHex (toHex bytes) = some bytes) ∧
    (∀ (text : Text) (bytes : ByteBuffer), fromHex text = some bytes ↔ text = toHex bytes) := by
  refine ⟨?_, fun tag text id => Identity.parse_iff text id, ?_, Digest.parse_iff, ?_, fromHex_iff⟩
  · intro tag id
    by_cases valid : id.valid = true
    · rw [if_pos valid]
      exact (Identity.parse_iff id.toText id).mpr ⟨valid, rfl⟩
    · rw [if_neg valid, Option.eq_none_iff_forall_ne_some]
      intro other parsed
      obtain ⟨otherValid, same⟩ := (Identity.parse_iff _ other).mp parsed
      rw [Identity.toText_injective same] at valid
      exact valid otherValid
  · intro digest
    by_cases valid : digest.valid = true
    · rw [if_pos valid]
      exact (Digest.parse_iff digest.toText digest).mpr ⟨valid, rfl⟩
    · rw [if_neg valid, Option.eq_none_iff_forall_ne_some]
      intro other parsed
      obtain ⟨otherValid, same⟩ := (Digest.parse_iff _ other).mp parsed
      rw [Digest.toText_injective same] at valid
      exact valid otherValid
  · intro bytes
    exact (fromHex_iff _ _).mpr rfl

end ArtifactPromotion
