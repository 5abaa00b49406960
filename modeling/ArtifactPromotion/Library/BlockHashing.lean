import Mathlib.Data.List.Basic

/-! Iterated hashing of an input block by block, and hashers that are given the input in pieces:
what they hold after any number of pieces depends on the concatenation alone. -/

namespace BlockHashing

variable {β σ : Type} (size : Nat) (compress : σ → List β → σ)

def chain : Nat → σ → List β → σ
  | 0, state, _ => state
  | count + 1, state, data =>
      chain count (compress state (data.take size)) (data.drop size)

def absorb (state : σ) (data : List β) : σ × List β :=
  (chain size compress (data.length / size) state data, data.drop (data.length / size * size))

variable {size : Nat} {compress : σ → List β → σ} {state : σ}

theorem chain_add (first second : Nat) (data : List β) :
    chain size compress (first + second) state data =
      chain size compress second (chain size compress first state data)
        (data.drop (first * size)) := by
  induction first generalizing state data with
  | zero => simp [chain]
  | succ first ih =>
      rw [Nat.add_right_comm, chain, ih, chain, List.drop_drop, Nat.succ_mul, Nat.add_comm size]

theorem chain_succ (count : Nat) (data : List β) :
    chain size compress (count + 1) state data =
      compress (chain size compress count state data)
        ((data.drop (count * size)).take size) := by
  rw [chain_add, chain, chain]

theorem chain_append {count : Nat} {data : List β} (enough : count * size ≤ data.length)
    (more : List β) :
    chain size compress count state (data ++ more) = chain size compress count state data := by
  induction count generalizing state data with
  | zero => rfl
  | succ count ih =>
      rw [Nat.succ_mul] at enough
      have rest : count * size ≤ (data.drop size).length := by
        rw [List.length_drop]
        omega
      rw [chain, chain, List.take_append_of_le_length (by omega),
        List.drop_append_of_le_length (by omega), ih rest]

theorem absorb_short {data : List β} (short : data.length < size) :
    absorb size compress state data = (state, data) := by
  rw [absorb, Nat.div_eq_of_lt short, Nat.zero_mul, chain, List.drop_zero]

theorem absorb_block {data : List β} (positive : 0 < size) (full : size ≤ data.length) :
    absorb size compress state data =
      absorb size compress (compress state (data.take size)) (data.drop size) := by
  have blocks : data.length / size = (data.drop size).length / size + 1 := by
    rw [List.length_drop]
    exact Nat.div_eq_sub_div positive full
  rw [absorb, absorb, blocks, chain, List.drop_drop, Nat.succ_mul, Nat.add_comm size]

theorem absorb_rest (data : List β) :
    (absorb size compress state data).2.length = data.length % size := by
  rw [absorb, List.length_drop, ← Nat.mod_eq_sub_div_mul]

theorem absorb_append (positive : 0 < size) (data more : List β) :
    absorb size compress (absorb size compress state data).1
        ((absorb size compress state data).2 ++ more) =
      absorb size compress state (data ++ more) := by
  have whole : data.length / size * size ≤ data.length := Nat.div_mul_le_self _ _
  have rest : (data.drop (data.length / size * size) ++ more).length =
      (data ++ more).length - data.length / size * size := by
    rw [List.length_append, List.length_append, List.length_drop]
    omega
  have blocks : (data ++ more).length / size = data.length / size +
      (data.drop (data.length / size * size) ++ more).length / size := by
    have split : (data ++ more).length =
        (data.drop (data.length / size * size) ++ more).length + data.length / size * size := by
      rw [rest, List.length_append]
      omega
    rw [split, Nat.add_mul_div_right _ _ positive, Nat.add_comm]
  simp only [absorb]
  rw [blocks, chain_add, chain_append whole, List.drop_append_of_le_length whole, Nat.add_mul,
    ← List.drop_drop, List.drop_append_of_le_length whole]

theorem absorb_whole {data : List β} (whole : size ∣ data.length) :
    absorb size compress state data = (chain size compress (data.length / size) state data, []) := by
  rw [absorb, Nat.div_mul_cancel whole, List.drop_length]

section Hashers

variable {η : Type}

variable (size compress) in
/-- Updating takes the input as if it followed what is in the buffer, which is never full. -/
structure Buffered (words : η → σ) (buffer : η → List β) (update : η → List β → η) : Prop where
  updates : ∀ hasher data, (buffer hasher).length < size →
    (words (update hasher data), buffer (update hasher data)) =
      absorb size compress (words hasher) (buffer hasher ++ data)

variable {words : η → σ} {buffer : η → List β} {update : η → List β → η} {hasher : η}

/-- However an input is cut into updates, empty ones included, the hasher holds the same of it. -/
theorem Buffered.pieces (buffered : Buffered size compress words buffer update)
    (positive : 0 < size) (pieces : List (List β)) (short : (buffer hasher).length < size) :
    (words (pieces.foldl update hasher), buffer (pieces.foldl update hasher)) =
      absorb size compress (words hasher) (buffer hasher ++ pieces.flatten) := by
  induction pieces generalizing hasher with
  | nil =>
      rw [List.foldl_nil, List.flatten_nil, List.append_nil, absorb_short short]
  | cons piece pieces ih =>
      have step := buffered.updates hasher piece short
      have next : (buffer (update hasher piece)).length < size := by
        rw [show buffer (update hasher piece) = _ from congrArg Prod.snd step]
        rw [absorb_rest]
        exact Nat.mod_lt _ positive
      rw [List.foldl_cons, ih next, List.flatten_cons, ← List.append_assoc,
        ← absorb_append positive (buffer hasher ++ piece), ← step]

end Hashers

end BlockHashing
