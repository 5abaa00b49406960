import ArtifactPromotion.Core.Wire
import ArtifactPromotion.Library.Delimiting

/-! What a writer appends shows where it ends: every field can be told from the bytes behind it. -/

namespace ArtifactPromotion

open Delimiting

namespace Writer

theorem u8_delimited {α : Type} {toByte : α → UInt8} (ofByte : UInt8 → α)
    (recovers : ∀ value, ofByte (toByte value) = value) :
    Delimited (fun value => u8 (toByte value)) id :=
  .of_load (fun bytes => ofByte (loadByte bytes 0)) (fun _ => rfl) fun value _ => recovers value

theorem boolean_delimited : Delimited boolean id := by
  refine .of_load (fun bytes => loadByte bytes 0 == 1) (fun _ => rfl) fun value rest => ?_
  cases value <;> rfl

theorem u32_delimited : Delimited u32 id :=
  .of_load loadU32 storeU32_length loadU32_storeU32

theorem u64_delimited : Delimited u64 id :=
  .of_load loadU64 storeU64_length loadU64_storeU64

theorem identity_delimited {tag : IdentityTag} : Delimited (@identity tag) id := by
  intro first second rest other same
  obtain ⟨words, after⟩ :=
    (u64_delimited.comp Identity.high).append (u64_delimited.comp Identity.low) first second rest
      other same
  cases first
  cases second
  simp only [id, Prod.mk.injEq] at words
  exact ⟨by rw [words.1, words.2], after⟩

theorem counter_delimited {tag : CounterTag} : Delimited (@counter tag) id := by
  intro first second rest other same
  obtain ⟨value, after⟩ := u64_delimited.comp Counter.value first second rest other same
  cases first
  cases second
  exact ⟨congrArg Counter.mk value, after⟩

theorem digest_delimited : Delimited digest id := by
  intro first second rest other same
  obtain ⟨bytes, after⟩ := List.append_inj same (first.sized.trans second.sized.symm)
  exact ⟨Digest.eq_of_bytes bytes, after⟩

theorem u32_count {first second : Nat} {rest other : ByteBuffer} (small : first < UInt32.size)
    (otherSmall : second < UInt32.size)
    (same : u32 first.toUInt32 ++ rest = u32 second.toUInt32 ++ other) :
    first = second ∧ rest = other := by
  obtain ⟨counts, same⟩ := u32_delimited _ _ rest other same
  have counts := congrArg UInt32.toNat counts
  simp only [id, UInt32.toNat_ofNat', Nat.toUInt32_eq] at counts
  refine ⟨?_, same⟩
  rwa [Nat.mod_eq_of_lt small, Nat.mod_eq_of_lt otherSmall] at counts

theorem text_eq (value : Text) (limit : Nat) :
    text value limit = u32 (value.take limit).length.toUInt32 ++ value.take limit := by
  unfold text
  dsimp only
  rw [List.length_take]
  split
  · rename_i fits
    rw [Nat.min_eq_right (Nat.le_of_lt fits), List.take_of_length_le (Nat.le_refl _),
      List.take_of_length_le (Nat.le_of_lt fits)]
  · rename_i long
    rw [Nat.min_eq_left (Nat.le_of_not_lt long)]

theorem u32_small {value : Nat} (small : value < 256) :
    ∃ low, u32 value.toUInt32 = [low, 0, 0, 0] := by
  have word : value.toUInt32.toNat = value := by
    rw [Nat.toUInt32_eq, UInt32.toNat_ofNat']
    exact Nat.mod_eq_of_lt (by omega)
  refine ⟨_, congrArg (List.cons _) ?_⟩
  simp only [List.cons.injEq, and_true]
  refine ⟨?_, ?_, ?_⟩ <;> apply UInt8.toNat_inj.mp
  · simp [word, Nat.shiftRight_eq_div_pow]
    omega
  · simp [word, Nat.shiftRight_eq_div_pow]
    omega
  · simp [word, Nat.shiftRight_eq_div_pow]
    omega

theorem text_delimited {limit : Nat} (small : limit < UInt32.size) :
    Delimited (fun value => text value limit) (List.take limit) := by
  intro first second rest other same
  have fits (value : Text) : (value.take limit).length < UInt32.size :=
    Nat.lt_of_le_of_lt (List.length_take_le _ _) small
  simp only [text_eq, List.append_assoc] at same
  obtain ⟨length, same⟩ := u32_count (fits first) (fits second) same
  exact List.append_inj same length

theorem list_delimited {α γ : Type} {write : α → ByteBuffer} {view : α → γ}
    (delimited : Delimited write view) {left right : List α} {rest other : ByteBuffer}
    (small : left.length < UInt32.size) (otherSmall : right.length < UInt32.size)
    (same : list left write ++ rest = list right write ++ other) :
    left.map view = right.map view ∧ rest = other := by
  rw [list, list, List.append_assoc, List.append_assoc] at same
  obtain ⟨length, same⟩ := u32_count small otherSmall same
  exact delimited.counted length same

end Writer

end ArtifactPromotion
