import Mathlib.Data.Nat.NthRoot.Defs
import Mathlib.Data.Nat.Prime.Basic

/-! SHA-256 as the Secure Hash Standard defines it, on messages of bits: its functions, its constants
from the roots of the first primes, the padding, the blocks and the hash computation. -/

namespace SecureHashStandard

def wordOfBits (bits : List Bool) : UInt32 :=
  (bits.foldl (fun value (bit : Bool) => 2 * value + bit.toNat) 0).toUInt32

def bitsOfNat (width value : Nat) : List Bool :=
  (List.range width).map fun index => value.testBit (width - 1 - index)

def bitsOfWord (word : UInt32) : List Bool := bitsOfNat 32 word.toNat

def bitsOfBytes (bytes : List UInt8) : List Bool := bytes.flatMap fun byte => bitsOfNat 8 byte.toNat

/-! Functions -/

def rotateRight (amount word : UInt32) : UInt32 := (word >>> amount) ||| (word <<< (32 - amount))

def Ch (x y z : UInt32) : UInt32 := (x &&& y) ^^^ (~~~x &&& z)

def Maj (x y z : UInt32) : UInt32 := (x &&& y) ^^^ (x &&& z) ^^^ (y &&& z)

def bigSigma0 (x : UInt32) : UInt32 := rotateRight 2 x ^^^ rotateRight 13 x ^^^ rotateRight 22 x

def bigSigma1 (x : UInt32) : UInt32 := rotateRight 6 x ^^^ rotateRight 11 x ^^^ rotateRight 25 x

def smallSigma0 (x : UInt32) : UInt32 := rotateRight 7 x ^^^ rotateRight 18 x ^^^ (x >>> 3)

def smallSigma1 (x : UInt32) : UInt32 := rotateRight 17 x ^^^ rotateRight 19 x ^^^ (x >>> 10)

/-! Constants -/

def isPrime (number : Nat) : Bool :=
  2 ≤ number && (List.range number).all fun divisor => divisor < 2 || number % divisor != 0

def primes : List Nat := (List.range 312).filter isPrime

def rootFraction (degree number : Nat) : UInt32 :=
  (Nat.nthRoot degree (number * 2 ^ (32 * degree))).toUInt32

def roundConstants : List UInt32 := primes.map (rootFraction 3)

def K (t : Nat) : UInt32 := roundConstants.getD t 0

structure Hash where
  a : UInt32
  b : UInt32
  c : UInt32
  d : UInt32
  e : UInt32
  f : UInt32
  g : UInt32
  h : UInt32

def H0 : Hash :=
  let root (index : Nat) := rootFraction 2 (primes.getD index 0)
  ⟨root 0, root 1, root 2, root 3, root 4, root 5, root 6, root 7⟩

/-! Preprocessing -/

def zeroBits (length : Nat) : Nat := (959 - length % 512) % 512

def pad (message : List Bool) : List Bool :=
  message ++ [true] ++ List.replicate (zeroBits message.length) false ++ bitsOfNat 64 message.length

def block (padded : List Bool) (index : Nat) : List Bool := (padded.drop (index * 512)).take 512

def blockWord (block : List Bool) (index : Nat) : UInt32 :=
  wordOfBits ((block.drop (index * 32)).take 32)

/-! Computation -/

def W (block : List Bool) (t : Nat) : UInt32 :=
  if t < 16 then blockWord block t
  else
    smallSigma1 (W block (t - 2)) + W block (t - 7) + smallSigma0 (W block (t - 15)) +
      W block (t - 16)

def round (k w : UInt32) (hash : Hash) : Hash :=
  let t1 := hash.h + bigSigma1 hash.e + Ch hash.e hash.f hash.g + k + w
  let t2 := bigSigma0 hash.a + Maj hash.a hash.b hash.c
  ⟨t1 + t2, hash.a, hash.b, hash.c, hash.d + t1, hash.e, hash.f, hash.g⟩

def rounds (block : List Bool) (hash : Hash) : Nat → Hash
  | 0 => hash
  | t + 1 => round (K t) (W block t) (rounds block hash t)

def Hash.add (left right : Hash) : Hash :=
  ⟨left.a + right.a, left.b + right.b, left.c + right.c, left.d + right.d, left.e + right.e,
    left.f + right.f, left.g + right.g, left.h + right.h⟩

def compress (hash : Hash) (block : List Bool) : Hash := (rounds block hash 64).add hash

def hashAfter (padded : List Bool) : Nat → Hash
  | 0 => H0
  | index + 1 => compress (hashAfter padded index) (block padded index)

def Hash.bits (hash : Hash) : List Bool :=
  bitsOfWord hash.a ++ bitsOfWord hash.b ++ bitsOfWord hash.c ++ bitsOfWord hash.d ++
    bitsOfWord hash.e ++ bitsOfWord hash.f ++ bitsOfWord hash.g ++ bitsOfWord hash.h

/-- The message digest; the standard defines it for messages of less than 2^64 bits. -/
def sha256 (message : List Bool) : Option (List Bool) :=
  if message.length < 2 ^ 64 then
    some (hashAfter (pad message) ((pad message).length / 512)).bits
  else none

theorem isPrime_iff (number : Nat) : isPrime number = true ↔ number.Prime := by
  rw [isPrime, Nat.prime_def_lt, Bool.and_eq_true, decide_eq_true_eq, List.all_eq_true]
  refine and_congr_right fun large => forall_congr' fun divisor => ?_
  rw [List.mem_range, Bool.or_eq_true, decide_eq_true_eq, bne_iff_ne, ne_eq,
    ← Nat.dvd_iff_mod_eq_zero]
  refine imp_congr_right fun _ => ⟨?_, ?_⟩
  · rintro (small | apart) divides
    · have positive := Nat.pos_of_dvd_of_pos divides (Nat.lt_of_lt_of_le Nat.two_pos large)
      omega
    · exact absurd divides apart
  · intro trivial
    by_cases divides : divisor ∣ number
    · exact .inl (by rw [trivial divides]; decide)
    · exact .inr divides

theorem zeroBits_spec (length : Nat) :
    (length + 1 + zeroBits length) % 512 = 448 ∧
      ∀ fewer < zeroBits length, (length + 1 + fewer) % 512 ≠ 448 := by
  unfold zeroBits
  constructor
  · omega
  · omega

section Bits

variable {width : Nat}

theorem bitsOfNat_length (width value : Nat) : (bitsOfNat width value).length = width := by
  simp [bitsOfNat]

theorem bitsOfNat_succ (width value : Nat) :
    bitsOfNat (width + 1) value = value.testBit width :: bitsOfNat width value := by
  rw [bitsOfNat, List.range_succ_eq_map, List.map_cons, List.map_map, bitsOfNat]
  congr 1
  apply List.map_congr_left
  intro index _
  rw [Function.comp_apply]
  congr 1
  omega

theorem bitsOfNat_add (upper lower value : Nat) :
    bitsOfNat (upper + lower) value =
      bitsOfNat upper (value / 2 ^ lower) ++ bitsOfNat lower value := by
  induction upper with
  | zero => simp [bitsOfNat]
  | succ upper ih =>
      rw [Nat.add_right_comm, bitsOfNat_succ, ih, bitsOfNat_succ, List.cons_append,
        Nat.testBit_div_two_pow, Nat.add_comm]

theorem bitsOfNat_mod (width value : Nat) :
    bitsOfNat width (value % 2 ^ width) = bitsOfNat width value := by
  apply List.map_congr_left
  intro index inside
  rw [List.mem_range] at inside
  rw [Nat.testBit_mod_two_pow, decide_eq_true (by omega), Bool.true_and]

theorem bitsOfNat_byte (lower value : Nat) :
    bitsOfNat (8 + lower) value =
      bitsOfNat 8 (value >>> lower % 2 ^ 8) ++ bitsOfNat lower value := by
  rw [bitsOfNat_add, bitsOfNat_mod, Nat.shiftRight_eq_div_pow]

theorem foldl_bitsOfNat (width value start : Nat) :
    (bitsOfNat width value).foldl (fun value (bit : Bool) => 2 * value + bit.toNat) start =
      start * 2 ^ width + value % 2 ^ width := by
  induction width generalizing start with
  | zero => simp [bitsOfNat, Nat.mod_one]
  | succ width ih =>
      rw [bitsOfNat_succ, List.foldl_cons, ih, Nat.toNat_testBit, Nat.pow_succ, Nat.mod_mul,
        Nat.add_mul, Nat.mul_comm 2 start, Nat.mul_assoc, Nat.mul_comm 2 (2 ^ width),
        Nat.mul_comm (value / 2 ^ width % 2)]
      omega

theorem wordOfBits_bitsOfWord (word : UInt32) : wordOfBits (bitsOfWord word) = word := by
  rw [wordOfBits, bitsOfWord, foldl_bitsOfNat, Nat.zero_mul, Nat.zero_add,
    Nat.mod_eq_of_lt word.toNat_lt]
  exact UInt32.ofNat_toNat

theorem bitsOfBytes_append (first second : List UInt8) :
    bitsOfBytes (first ++ second) = bitsOfBytes first ++ bitsOfBytes second :=
  List.flatMap_append

theorem bitsOfBytes_cons (byte : UInt8) (rest : List UInt8) :
    bitsOfBytes (byte :: rest) = bitsOfNat 8 byte.toNat ++ bitsOfBytes rest :=
  List.flatMap_cons

theorem bitsOfBytes_length (bytes : List UInt8) : (bitsOfBytes bytes).length = bytes.length * 8 := by
  induction bytes with
  | nil => rfl
  | cons byte rest ih =>
      rw [bitsOfBytes_cons, List.length_append, bitsOfNat_length, ih, List.length_cons]
      omega

theorem bitsOfBytes_take (bytes : List UInt8) (count : Nat) :
    (bitsOfBytes bytes).take (count * 8) = bitsOfBytes (bytes.take count) := by
  induction count generalizing bytes with
  | zero => simp [bitsOfBytes]
  | succ count ih =>
      cases bytes with
      | nil => simp [bitsOfBytes]
      | cons byte rest =>
          rw [List.take_succ_cons, bitsOfBytes_cons, bitsOfBytes_cons, Nat.succ_mul, Nat.add_comm,
            List.take_append, bitsOfNat_length, Nat.add_sub_cancel_left, ih,
            List.take_of_length_le (by rw [bitsOfNat_length]; omega)]

theorem bitsOfBytes_drop (bytes : List UInt8) (count : Nat) :
    (bitsOfBytes bytes).drop (count * 8) = bitsOfBytes (bytes.drop count) := by
  induction count generalizing bytes with
  | zero => simp
  | succ count ih =>
      cases bytes with
      | nil => simp [bitsOfBytes]
      | cons byte rest =>
          rw [List.drop_succ_cons, bitsOfBytes_cons, Nat.succ_mul, Nat.add_comm,
            List.drop_append, bitsOfNat_length, Nat.add_sub_cancel_left, ih,
            List.drop_eq_nil_of_le (by rw [bitsOfNat_length]; omega), List.nil_append]

theorem bitsOfBytes_zeros (count : Nat) :
    bitsOfBytes (List.replicate count 0) = List.replicate (count * 8) false := by
  induction count with
  | zero => rfl
  | succ count ih =>
      have byte : bitsOfNat 8 (0 : UInt8).toNat = List.replicate 8 false := by decide
      rw [List.replicate_succ, bitsOfBytes_cons, ih, byte, List.replicate_append_replicate,
        Nat.succ_mul, Nat.add_comm]

end Bits

end SecureHashStandard
