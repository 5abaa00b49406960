import ArtifactPromotion.Core.Sha256

/-! The canonical little-endian writer and the bounds-checked reader. A writer method is the
bytes it appends; a reader method is a fallible step on the reader's position. -/

namespace ArtifactPromotion

namespace Writer

def u8 (value : UInt8) : ByteBuffer := [value]

def u16 (value : UInt16) : ByteBuffer := storeU16 value

def u32 (value : UInt32) : ByteBuffer := storeU32 value

def u64 (value : UInt64) : ByteBuffer := storeU64 value

def boolean (value : Bool) : ByteBuffer := u8 (if value then 1 else 0)

/-- Text is cut at the limit instead of being rejected. -/
def text (value : Text) (limit : Nat := kMaxTextLength) : ByteBuffer :=
  let size := if value.length < limit then value.length else limit
  u32 size.toUInt32 ++ value.take size

def identity {tag : IdentityTag} (value : Identity tag) : ByteBuffer :=
  u64 value.high ++ u64 value.low

def counter {tag : CounterTag} (value : Counter tag) : ByteBuffer := u64 value.value

def digest (value : Digest) : ByteBuffer := value.bytes

def list {α : Type} (values : List α) (encodeElement : α → ByteBuffer) : ByteBuffer :=
  u32 values.length.toUInt32 ++ values.flatMap encodeElement

theorem text_take (value : Text) (limit : Nat) : text (value.take limit) limit = text value limit := by
  have size : (if (value.take limit).length < limit then (value.take limit).length else limit) =
      if value.length < limit then value.length else limit := by
    rw [List.length_take]
    split <;> split <;> omega
  have taken : (value.take limit).take (if value.length < limit then value.length else limit) =
      value.take (if value.length < limit then value.length else limit) := by
    rw [List.take_take]
    congr 1
    split <;> omega
  simp only [text, size, taken]

def region (kind : UInt16) (body : ByteBuffer) : ByteBuffer :=
  u16 kind ++ u32 body.length.toUInt32 ++ body

end Writer

structure Reader where
  data : ByteBuffer
  offset : Nat := 0

abbrev Decode := StateT Reader (Except Status)

namespace Reader

def remaining (reader : Reader) : Nat := reader.data.length - reader.offset

def available (reader : Reader) (size : Nat) : Bool := size ≤ reader.remaining

def cursor (reader : Reader) : ByteBuffer := reader.data.drop reader.offset

/-- Consumes `size` bytes, or reports truncation with the caller's message. -/
def consume {α : Type} (size : Nat) (message : String) (load : ByteBuffer → α) : Decode α :=
  fun reader =>
    if reader.available size then
      .ok (load reader.cursor, { reader with offset := reader.offset + size })
    else .error (.of .protocolTruncated (text message))

def fail {α : Type} (code : ErrorCode) (message : Text) : Decode α :=
  fun _ => .error (.of code message)

def u8 : Decode UInt8 :=
  consume 1 "input ended while reading a byte" fun bytes => loadByte bytes 0

def u16 : Decode UInt16 := consume 2 "input ended while reading a 16-bit value" loadU16

def u32 : Decode UInt32 := consume 4 "input ended while reading a 32-bit value" loadU32

def u64 : Decode UInt64 := consume 8 "input ended while reading a 64-bit value" loadU64

def boolean : Decode Bool := do
  let value ← u8
  if value > 1 then
    fail .protocolMalformed (ArtifactPromotion.text "boolean field holds a value other than 0 or 1")
  else return value == 1

def raw (size : Nat) : Decode ByteBuffer :=
  consume size "input ended while reading a byte region" fun bytes => bytes.take size

def text (limit : Nat := kMaxTextLength) : Decode Text := do
  let declared ← u32
  let length := declared.toNat
  if length > limit then
    fail .protocolOversized (ArtifactPromotion.text "declared text length exceeds the configured bound")
  else consume length "input ended while reading text" fun bytes => bytes.take length

def identity {tag : IdentityTag} : Decode (Identity tag) := do
  let high ← u64
  let low ← u64
  return ⟨high, low⟩

def counter {tag : CounterTag} : Decode (Counter tag) := do
  let value ← u64
  return ⟨value⟩

def digest : Decode Digest :=
  consume 32 "input ended while reading a digest" fun bytes =>
    ⟨(bytes ++ List.replicate 32 0).take 32, by simp⟩

def subRegion (limit : Nat) : Decode Reader := do
  let declared ← u32
  let length := declared.toNat
  if length > limit then
    fail .protocolOversized
      (ArtifactPromotion.text "declared section length exceeds the configured bound")
  else
    consume length "input ended while reading a section" fun bytes => { data := bytes.take length }

def count (limit : Nat) : Decode Nat := do
  let declared ← u32
  if declared.toNat > limit then
    fail .protocolOversized
      (ArtifactPromotion.text "declared element count exceeds the configured bound")
  else return declared.toNat

def finished (reader : Reader) : Bool := reader.offset == reader.data.length

def requireFinished (reader : Reader) : Result Unit :=
  rejectWhen (!reader.finished) .protocolMalformed "input contains trailing bytes"

def elements {α : Type} (decodeElement : Decode α) : Nat → Decode (List α)
  | 0 => return []
  | count + 1 => do
      let first ← decodeElement
      let rest ← elements decodeElement count
      return first :: rest

end Reader

end ArtifactPromotion
