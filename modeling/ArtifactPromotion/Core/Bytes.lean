import ArtifactPromotion.Core.Identity

/-! Byte buffers, little-endian stores and loads, hexadecimal rendering and the accepted
alphabets of names and texts. A `std::string` is its list of bytes. -/

namespace ArtifactPromotion

abbrev ByteBuffer := List UInt8
abbrev Text := List UInt8

def text (literal : String) : Text := literal.toUTF8.data.toList

def kMaxNameLength : Nat := 128
def kMaxTextLength : Nat := 512
def kMaxReferenceLength : Nat := 256
def kMaxSnapshotBytes : Nat := 256 * 1024 * 1024

def storeU16 (value : UInt16) : ByteBuffer := [value.toUInt8, (value >>> 8).toUInt8]

def storeU32 (value : UInt32) : ByteBuffer :=
  [value.toUInt8, (value >>> 8).toUInt8, (value >>> 16).toUInt8, (value >>> 24).toUInt8]

def storeU64 (value : UInt64) : ByteBuffer :=
  [value.toUInt8, (value >>> 8).toUInt8, (value >>> 16).toUInt8, (value >>> 24).toUInt8,
    (value >>> 32).toUInt8, (value >>> 40).toUInt8, (value >>> 48).toUInt8, (value >>> 56).toUInt8]

def loadByte (data : ByteBuffer) (index : Nat) : UInt8 := data.getD index 0

def loadU16 (data : ByteBuffer) : UInt16 :=
  (loadByte data 0).toUInt16 ||| ((loadByte data 1).toUInt16 <<< 8)

def loadU32 (data : ByteBuffer) : UInt32 :=
  (loadByte data 0).toUInt32 ||| ((loadByte data 1).toUInt32 <<< 8) |||
    ((loadByte data 2).toUInt32 <<< 16) ||| ((loadByte data 3).toUInt32 <<< 24)

def loadU64 (data : ByteBuffer) : UInt64 :=
  (loadByte data 0).toUInt64 ||| ((loadByte data 1).toUInt64 <<< 8) |||
    ((loadByte data 2).toUInt64 <<< 16) ||| ((loadByte data 3).toUInt64 <<< 24) |||
    ((loadByte data 4).toUInt64 <<< 32) ||| ((loadByte data 5).toUInt64 <<< 40) |||
    ((loadByte data 6).toUInt64 <<< 48) ||| ((loadByte data 7).toUInt64 <<< 56)

def hexDigit (nibble : UInt8) : UInt8 := if nibble < 10 then 48 + nibble else 87 + nibble

def toHex (data : ByteBuffer) : Text :=
  data.flatMap fun (byte : UInt8) => [hexDigit (byte >>> 4), hexDigit (byte &&& 0x0F)]

def bigEndian (value : UInt64) : ByteBuffer := (storeU64 value).reverse

def renderHex128 (high low : UInt64) : Text := toHex (bigEndian high ++ bigEndian low)

def Identity.toText {tag : IdentityTag} (id : Identity tag) : Text := renderHex128 id.high id.low

def Counter.toText {tag : CounterTag} (counter : Counter tag) : Text :=
  text (toString counter.value.toNat)

def isNameByte (byte : UInt8) : Bool :=
  (97 ≤ byte && byte ≤ 122) || (65 ≤ byte && byte ≤ 90) || (48 ≤ byte && byte ≤ 57) ||
    byte == 95 || byte == 45 || byte == 46 || byte == 47 || byte == 58

def isValidName (name : Text) : Bool :=
  !name.isEmpty && name.length ≤ kMaxNameLength && name.all isNameByte

def isTextByte (byte : UInt8) : Bool := !(byte < 0x20 || byte == 0x7F)

def isValidText (value : Text) : Bool := value.length ≤ kMaxTextLength && value.all isTextByte

@[simp] theorem storeU16_length (value : UInt16) : (storeU16 value).length = 2 := rfl

@[simp] theorem storeU32_length (value : UInt32) : (storeU32 value).length = 4 := rfl

@[simp] theorem storeU64_length (value : UInt64) : (storeU64 value).length = 8 := rfl

theorem loadU16_storeU16 (value : UInt16) (rest : ByteBuffer) :
    loadU16 (storeU16 value ++ rest) = value := by
  simp only [loadU16, storeU16, loadByte, List.cons_append, List.getD_cons_zero,
    List.getD_cons_succ]
  apply UInt16.toBitVec_inj.mp
  apply BitVec.eq_of_getLsbD_eq
  intro index bound
  simp only [UInt16.toBitVec_or, UInt16.toBitVec_shiftLeft, UInt8.toBitVec_toUInt16,
    UInt16.toBitVec_toUInt8, UInt16.toBitVec_shiftRight, BitVec.getLsbD_or, BitVec.shiftLeft_eq',
    BitVec.ushiftRight_eq', BitVec.getLsbD_shiftLeft, BitVec.getLsbD_setWidth,
    BitVec.getLsbD_ushiftRight, UInt16.toBitVec_ofNat, BitVec.toNat_ofNat, BitVec.toNat_umod,
    Nat.reducePow, Nat.reduceMod, bound, decide_true, Bool.true_and]
  grind

theorem loadU32_storeU32 (value : UInt32) (rest : ByteBuffer) :
    loadU32 (storeU32 value ++ rest) = value := by
  simp only [loadU32, storeU32, loadByte, List.cons_append, List.getD_cons_zero,
    List.getD_cons_succ]
  apply UInt32.toBitVec_inj.mp
  apply BitVec.eq_of_getLsbD_eq
  intro index bound
  simp only [UInt32.toBitVec_or, UInt32.toBitVec_shiftLeft, UInt8.toBitVec_toUInt32,
    UInt32.toBitVec_toUInt8, UInt32.toBitVec_shiftRight, BitVec.getLsbD_or, BitVec.shiftLeft_eq',
    BitVec.ushiftRight_eq', BitVec.getLsbD_shiftLeft, BitVec.getLsbD_setWidth,
    BitVec.getLsbD_ushiftRight, UInt32.toBitVec_ofNat, BitVec.toNat_ofNat, BitVec.toNat_umod,
    Nat.reducePow, Nat.reduceMod, bound, decide_true, Bool.true_and]
  grind

theorem loadU64_storeU64 (value : UInt64) (rest : ByteBuffer) :
    loadU64 (storeU64 value ++ rest) = value := by
  simp only [loadU64, storeU64, loadByte, List.cons_append, List.getD_cons_zero,
    List.getD_cons_succ]
  apply UInt64.toBitVec_inj.mp
  apply BitVec.eq_of_getLsbD_eq
  intro index bound
  simp only [UInt64.toBitVec_or, UInt64.toBitVec_shiftLeft, UInt8.toBitVec_toUInt64,
    UInt64.toBitVec_toUInt8, UInt64.toBitVec_shiftRight, BitVec.getLsbD_or, BitVec.shiftLeft_eq',
    BitVec.ushiftRight_eq', BitVec.getLsbD_shiftLeft, BitVec.getLsbD_setWidth,
    BitVec.getLsbD_ushiftRight, UInt64.toBitVec_ofNat, BitVec.toNat_ofNat, BitVec.toNat_umod,
    Nat.reducePow, Nat.reduceMod, bound, decide_true, Bool.true_and]
  grind

theorem storeU16_loadU16 {data : ByteBuffer} (enough : 2 ≤ data.length) :
    storeU16 (loadU16 data) = data.take 2 := by
  match data, enough with
  | first :: second :: rest, _ =>
      simp only [loadU16, storeU16, loadByte, List.getD_cons_zero, List.getD_cons_succ,
        List.take_succ_cons, List.take_zero, List.cons.injEq, and_true]
      refine ⟨?_, ?_⟩ <;>
      · apply UInt8.toBitVec_inj.mp
        apply BitVec.eq_of_getLsbD_eq
        intro index bound
        simp only [UInt16.toBitVec_or, UInt16.toBitVec_shiftLeft, UInt8.toBitVec_toUInt16,
          UInt16.toBitVec_toUInt8, UInt16.toBitVec_shiftRight, BitVec.getLsbD_or,
          BitVec.shiftLeft_eq', BitVec.ushiftRight_eq', BitVec.getLsbD_shiftLeft,
          BitVec.getLsbD_setWidth, BitVec.getLsbD_ushiftRight, UInt16.toBitVec_ofNat,
          BitVec.toNat_ofNat, BitVec.toNat_umod, Nat.reducePow, Nat.reduceMod, bound, decide_true,
          Bool.true_and]
        grind

theorem storeU32_loadU32 {data : ByteBuffer} (enough : 4 ≤ data.length) :
    storeU32 (loadU32 data) = data.take 4 := by
  match data, enough with
  | first :: second :: third :: fourth :: rest, _ =>
      simp only [loadU32, storeU32, loadByte, List.getD_cons_zero, List.getD_cons_succ,
        List.take_succ_cons, List.take_zero, List.cons.injEq, and_true]
      refine ⟨?_, ?_, ?_, ?_⟩ <;>
      · apply UInt8.toBitVec_inj.mp
        apply BitVec.eq_of_getLsbD_eq
        intro index bound
        simp only [UInt32.toBitVec_or, UInt32.toBitVec_shiftLeft, UInt8.toBitVec_toUInt32,
          UInt32.toBitVec_toUInt8, UInt32.toBitVec_shiftRight, BitVec.getLsbD_or,
          BitVec.shiftLeft_eq', BitVec.ushiftRight_eq', BitVec.getLsbD_shiftLeft,
          BitVec.getLsbD_setWidth, BitVec.getLsbD_ushiftRight, UInt32.toBitVec_ofNat,
          BitVec.toNat_ofNat, BitVec.toNat_umod, Nat.reducePow, Nat.reduceMod, bound, decide_true,
          Bool.true_and]
        grind

theorem storeU64_loadU64 {data : ByteBuffer} (enough : 8 ≤ data.length) :
    storeU64 (loadU64 data) = data.take 8 := by
  match data, enough with
  | first :: second :: third :: fourth :: fifth :: sixth :: seventh :: eighth :: rest, _ =>
      simp only [loadU64, storeU64, loadByte, List.getD_cons_zero, List.getD_cons_succ,
        List.take_succ_cons, List.take_zero, List.cons.injEq, and_true]
      refine ⟨?_, ?_, ?_, ?_, ?_, ?_, ?_, ?_⟩ <;>
      · apply UInt8.toBitVec_inj.mp
        apply BitVec.eq_of_getLsbD_eq
        intro index bound
        simp only [UInt64.toBitVec_or, UInt64.toBitVec_shiftLeft, UInt8.toBitVec_toUInt64,
          UInt64.toBitVec_toUInt8, UInt64.toBitVec_shiftRight, BitVec.getLsbD_or,
          BitVec.shiftLeft_eq', BitVec.ushiftRight_eq', BitVec.getLsbD_shiftLeft,
          BitVec.getLsbD_setWidth, BitVec.getLsbD_ushiftRight, UInt64.toBitVec_ofNat,
          BitVec.toNat_ofNat, BitVec.toNat_umod, Nat.reducePow, Nat.reduceMod, bound, decide_true,
          Bool.true_and]
        grind

end ArtifactPromotion
