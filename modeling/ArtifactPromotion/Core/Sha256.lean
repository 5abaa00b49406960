import ArtifactPromotion.Core.Error

/-! SHA-256 as the source computes it: an incremental hasher with a 64-byte block buffer. -/

namespace ArtifactPromotion

def kRoundConstants : List UInt32 := [
  0x428A2F98, 0x71374491, 0xB5C0FBCF, 0xE9B5DBA5, 0x3956C25B, 0x59F111F1, 0x923F82A4, 0xAB1C5ED5,
  0xD807AA98, 0x12835B01, 0x243185BE, 0x550C7DC3, 0x72BE5D74, 0x80DEB1FE, 0x9BDC06A7, 0xC19BF174,
  0xE49B69C1, 0xEFBE4786, 0x0FC19DC6, 0x240CA1CC, 0x2DE92C6F, 0x4A7484AA, 0x5CB0A9DC, 0x76F988DA,
  0x983E5152, 0xA831C66D, 0xB00327C8, 0xBF597FC7, 0xC6E00BF3, 0xD5A79147, 0x06CA6351, 0x14292967,
  0x27B70A85, 0x2E1B2138, 0x4D2C6DFC, 0x53380D13, 0x650A7354, 0x766A0ABB, 0x81C2C92E, 0x92722C85,
  0xA2BFE8A1, 0xA81A664B, 0xC24B8B70, 0xC76C51A3, 0xD192E819, 0xD6990624, 0xF40E3585, 0x106AA070,
  0x19A4C116, 0x1E376C08, 0x2748774C, 0x34B0BCB5, 0x391C0CB3, 0x4ED8AA4A, 0x5B9CCA4F, 0x682E6FF3,
  0x748F82EE, 0x78A5636F, 0x84C87814, 0x8CC70208, 0x90BEFFFA, 0xA4506CEB, 0xBEF9A3F7, 0xC67178F2]

def rotr (value amount : UInt32) : UInt32 := (value >>> amount) ||| (value <<< (32 - amount))

structure Sha256Words where
  a : UInt32
  b : UInt32
  c : UInt32
  d : UInt32
  e : UInt32
  f : UInt32
  g : UInt32
  h : UInt32
deriving DecidableEq

def Sha256Words.initial : Sha256Words :=
  ⟨0x6A09E667, 0xBB67AE85, 0x3C6EF372, 0xA54FF53A, 0x510E527F, 0x9B05688C, 0x1F83D9AB, 0x5BE0CD19⟩

def Sha256Words.add (left right : Sha256Words) : Sha256Words :=
  ⟨left.a + right.a, left.b + right.b, left.c + right.c, left.d + right.d,
    left.e + right.e, left.f + right.f, left.g + right.g, left.h + right.h⟩

def blockWord (block : ByteBuffer) (index : Nat) : UInt32 :=
  ((loadByte block (index * 4)).toUInt32 <<< 24) |||
    ((loadByte block (index * 4 + 1)).toUInt32 <<< 16) |||
    ((loadByte block (index * 4 + 2)).toUInt32 <<< 8) ||| (loadByte block (index * 4 + 3)).toUInt32

def extendSchedule : Nat → List UInt32 → List UInt32
  | 0, schedule => schedule
  | count + 1, schedule =>
      let i := schedule.length
      let early := schedule.getD (i - 15) 0
      let late := schedule.getD (i - 2) 0
      let s0 := rotr early 7 ^^^ rotr early 18 ^^^ (early >>> 3)
      let s1 := rotr late 17 ^^^ rotr late 19 ^^^ (late >>> 10)
      extendSchedule count (schedule ++
        [schedule.getD (i - 16) 0 + s0 + schedule.getD (i - 7) 0 + s1])

def messageSchedule (block : ByteBuffer) : List UInt32 :=
  extendSchedule 48 ((List.range 16).map (blockWord block))

def sha256Round (words : Sha256Words) (constant scheduled : UInt32) : Sha256Words :=
  let sigma1 := rotr words.e 6 ^^^ rotr words.e 11 ^^^ rotr words.e 25
  let choose := (words.e &&& words.f) ^^^ (~~~words.e &&& words.g)
  let temp1 := words.h + sigma1 + choose + constant + scheduled
  let sigma0 := rotr words.a 2 ^^^ rotr words.a 13 ^^^ rotr words.a 22
  let majority := (words.a &&& words.b) ^^^ (words.a &&& words.c) ^^^ (words.b &&& words.c)
  let temp2 := sigma0 + majority
  ⟨temp1 + temp2, words.a, words.b, words.c, words.d + temp1, words.e, words.f, words.g⟩

def sha256Rounds : Sha256Words → List UInt32 → List UInt32 → Sha256Words
  | words, constant :: constants, scheduled :: schedule =>
      sha256Rounds (sha256Round words constant scheduled) constants schedule
  | words, _, _ => words

def compress (words : Sha256Words) (block : ByteBuffer) : Sha256Words :=
  words.add (sha256Rounds words kRoundConstants (messageSchedule block))

/-- The hasher state; `buffer` holds the first `buffer_size_` bytes of the block buffer. -/
structure Sha256 where
  state : Sha256Words := .initial
  bitCount : UInt64 := 0
  buffer : ByteBuffer := []
deriving DecidableEq

namespace Sha256

/-- The loop `while (size - offset >= 64)`: compresses whole blocks of the input and returns
the rest. `fuel` bounds the number of blocks. -/
def compressBlocks : Nat → Sha256Words → ByteBuffer → Sha256Words × ByteBuffer
  | 0, words, data => (words, data)
  | fuel + 1, words, data =>
      if data.length < 64 then (words, data)
      else compressBlocks fuel (compress words (data.take 64)) (data.drop 64)

def update (hasher : Sha256) (data : ByteBuffer) : Sha256 :=
  if data.isEmpty then hasher
  else
    let bitCount := hasher.bitCount + data.length.toUInt64 * 8
    let taken := if hasher.buffer.isEmpty then 0 else 64 - hasher.buffer.length
    let filled := hasher.buffer ++ data.take taken
    let rest := data.drop taken
    let (words, buffer) :=
      if filled.length = 64 then (compress hasher.state filled, []) else (hasher.state, filled)
    let (words, tail) := compressBlocks rest.length words rest
    ⟨words, bitCount, buffer ++ tail⟩

def wordBytes (word : UInt32) : ByteBuffer := (storeU32 word).reverse

def outputBytes (words : Sha256Words) : ByteBuffer :=
  wordBytes words.a ++ wordBytes words.b ++ wordBytes words.c ++ wordBytes words.d ++
    wordBytes words.e ++ wordBytes words.f ++ wordBytes words.g ++ wordBytes words.h

theorem outputBytes_length (words : Sha256Words) : (outputBytes words).length = 32 := by
  simp [outputBytes, wordBytes]

end Sha256

/-- A 256-bit content identity; the all-zero value is the invalid sentinel. -/
structure Digest where
  bytes : ByteBuffer
  sized : bytes.length = 32
deriving DecidableEq

namespace Digest

def zero : Digest := ⟨List.replicate 32 0, by simp⟩

instance : Inhabited Digest := ⟨zero⟩

def valid (digest : Digest) : Bool := digest.bytes.any (· != 0)

def invalid (digest : Digest) : Bool := !digest.valid

def toText (digest : Digest) : Text := toHex digest.bytes

theorem eq_of_bytes {left right : Digest} (same : left.bytes = right.bytes) : left = right := by
  cases left
  cases right
  cases same
  rfl

end Digest

/-- Pads the message, absorbs its bit length and reads the digest off the chaining words. -/
def Sha256.finish (hasher : Sha256) : Digest :=
  let used := hasher.buffer.length
  let padLength := if used < 56 then 56 - used else 120 - used
  let padding : ByteBuffer := 0x80 :: List.replicate 71 0
  let padded := hasher.update (padding.take padLength)
  let final := padded.update (bigEndian hasher.bitCount)
  ⟨outputBytes final.state, outputBytes_length final.state⟩

def sha256 (data : ByteBuffer) : Digest := (Sha256.update {} data).finish

example : (sha256 (text "abc")).toText =
    text "ba7816bf8f01cfea414140de5dae2223b00361a396177a9cb410ff61f20015ad" := by decide +kernel

end ArtifactPromotion
