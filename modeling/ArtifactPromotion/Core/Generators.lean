import ArtifactPromotion.Core.Identity
import Mathlib.Logic.Function.Iterate

/-! The order in which a generator hands out identities: a cycle over the salts and, within a salt,
over the counter values, both without zero. -/

namespace ArtifactPromotion

namespace IdentityGenerator

variable {tag : IdentityTag}

/-- How many counter values a salt has, and how many salts there are: zero is skipped. -/
def kSpan : Nat := 2 ^ 64 - 1

def laps (base salt : UInt64) : Nat := (salt.toNat + kSpan - base.toNat) % kSpan

/-- The place of an identity in the order of allocation that starts with the base salt. -/
def place (base : UInt64) (id : Identity tag) : Nat := laps base id.high * kSpan + id.low.toNat

def last (generator : IdentityGenerator tag) : Identity tag := ⟨generator.salt, generator.counter⟩

theorem ne_zero_toNat {value : UInt64} (nonzero : value ≠ 0) : 0 < value.toNat := by
  rw [Nat.pos_iff_ne_zero]
  intro zero
  exact nonzero (UInt64.toNat_inj.mp zero)

theorem advance_salted {generator : IdentityGenerator tag} (salted : generator.salt ≠ 0) :
    generator.advance.salt ≠ 0 := by
  unfold advance
  split
  · dsimp only
    split
    · decide
    · assumption
  · exact salted

theorem advance_cycle {base : UInt64} {generator : IdentityGenerator tag} (based : base ≠ 0)
    (salted : generator.salt ≠ 0) : place base generator.advance.last % (kSpan * kSpan) =
      (place base generator.last + 1) % (kSpan * kSpan) := by
  have saltPositive := ne_zero_toNat salted
  have basePositive := ne_zero_toNat based
  have saltBound := generator.salt.toNat_lt
  have baseBound := base.toNat_lt
  have counterBound := generator.counter.toNat_lt
  unfold place last laps kSpan
  dsimp only
  unfold advance
  split
  · rename_i wraps
    have counter : generator.counter.toNat = 2 ^ 64 - 1 := by
      have value := congrArg UInt64.toNat wraps
      rw [UInt64.toNat_add] at value
      simp only [UInt64.reduceToNat] at value
      omega
    split
    · rename_i salts
      have salt : generator.salt.toNat = 2 ^ 64 - 1 := by
        have value := congrArg UInt64.toNat salts
        rw [UInt64.toNat_add] at value
        simp only [UInt64.reduceToNat] at value
        omega
      simp only [UInt64.reduceToNat]
      omega
    · rename_i salts
      have salt : (generator.salt + 1).toNat = generator.salt.toNat + 1 := by
        have value : (generator.salt + 1).toNat ≠ 0 := fun zero => salts (UInt64.toNat_inj.mp zero)
        rw [UInt64.toNat_add] at value ⊢
        simp only [UInt64.reduceToNat] at value ⊢
        omega
      simp only [UInt64.reduceToNat, salt]
      omega
  · rename_i stays
    have counter : (generator.counter + 1).toNat = generator.counter.toNat + 1 := by
      have value : (generator.counter + 1).toNat ≠ 0 := fun zero => stays (UInt64.toNat_inj.mp zero)
      rw [UInt64.toNat_add] at value ⊢
      simp only [UInt64.reduceToNat] at value ⊢
      omega
    simp only [counter]
    omega

theorem advance_place {base : UInt64} {generator : IdentityGenerator tag} (based : base ≠ 0)
    (salted : generator.salt ≠ 0) (room : place base generator.last < kSpan * kSpan) :
    place base generator.advance.last = place base generator.last + 1 := by
  have moved := advance_cycle based salted
  have positive := ne_zero_toNat generator.advance_counter_ne_zero
  have counterBound := generator.advance.counter.toNat_lt
  have lapsBound : laps base generator.advance.salt < kSpan := Nat.mod_lt _ (by decide)
  have lower : 0 < place base generator.advance.last :=
    Nat.lt_of_lt_of_le positive (Nat.le_add_left _ _)
  have upper : place base generator.advance.last ≤ kSpan * kSpan := by
    unfold place last
    unfold kSpan at lapsBound ⊢
    dsimp only
    omega
  unfold kSpan at moved room upper
  omega

theorem iterate_place {base : UInt64} (based : base ≠ 0) (count : Nat)
    {generator : IdentityGenerator tag} (salted : generator.salt ≠ 0)
    (room : place base generator.last + count ≤ kSpan * kSpan) :
    (advance^[count] generator).salt ≠ 0 ∧
      place base (advance^[count] generator).last = place base generator.last + count := by
  induction count with
  | zero => exact ⟨salted, by rw [Function.iterate_zero_apply, Nat.add_zero]⟩
  | succ count ih =>
      obtain ⟨salted, placed⟩ := ih (by omega)
      rw [Function.iterate_succ_apply']
      refine ⟨advance_salted salted, ?_⟩
      rw [advance_place based salted (by omega), placed]
      omega

theorem advance_returns {generator : IdentityGenerator tag} (salted : generator.salt ≠ 0)
    (first : generator.counter = 1) : ∃ count, advance^[count] generator.advance = generator := by
  have start : place generator.salt generator.last = 1 := by
    unfold place laps last
    rw [Nat.add_sub_cancel_left, Nat.mod_self, Nat.zero_mul, Nat.zero_add, first]
    rfl
  obtain ⟨count, total⟩ : ∃ count, count + 1 = kSpan * kSpan :=
    Nat.exists_eq_add_one.mpr (by unfold kSpan; omega) |>.imp fun _ same => same.symm
  obtain ⟨_, placed⟩ := iterate_place salted count salted (by omega)
  refine ⟨count, ?_⟩
  rw [← Function.iterate_succ_apply, Function.iterate_succ_apply']
  generalize advance^[count] generator = final at placed ⊢
  have saltPositive := ne_zero_toNat salted
  have saltBound := generator.salt.toNat_lt
  have finalBound := final.salt.toNat_lt
  have counterBound := final.counter.toNat_lt
  -- The last place is the last counter value of the last salt.
  rw [start, Nat.add_comm, total] at placed
  unfold place last laps kSpan at placed
  dsimp only at placed
  have counter : final.counter.toNat = 2 ^ 64 - 1 := by omega
  have salt : (final.salt.toNat + 1) % (2 ^ 64 - 1) = generator.salt.toNat % (2 ^ 64 - 1) := by omega
  have wraps : final.counter + 1 = 0 := by
    apply UInt64.toNat_inj.mp
    rw [UInt64.toNat_add, counter]
    rfl
  have back : (if final.salt + 1 = 0 then 1 else final.salt + 1) = generator.salt := by
    apply UInt64.toNat_inj.mp
    split
    · rename_i zero
      have value := congrArg UInt64.toNat zero
      rw [UInt64.toNat_add] at value
      simp only [UInt64.reduceToNat] at value ⊢
      omega
    · rename_i nonzero
      have value : (final.salt + 1).toNat ≠ 0 := fun zero => nonzero (UInt64.toNat_inj.mp zero)
      rw [UInt64.toNat_add] at value ⊢
      simp only [UInt64.reduceToNat] at value ⊢
      omega
  unfold advance
  rw [if_pos wraps, back, ← first]

/-! ### Runs of allocations -/

def allocated : Nat → IdentityGenerator tag → List (Identity tag)
  | 0, _ => []
  | count + 1, generator => generator.next :: allocated count generator.advance

theorem allocated_valid (count : Nat) (generator : IdentityGenerator tag) :
    ∀ id ∈ allocated count generator, id.valid = true := by
  induction count generalizing generator with
  | zero => simp [allocated]
  | succ count ih =>
      intro id inside
      rcases List.mem_cons.mp inside with rfl | later
      · exact generator.next_valid
      · exact ih generator.advance id later

theorem allocated_place {base : UInt64} (based : base ≠ 0) (count : Nat)
    {generator : IdentityGenerator tag} (salted : generator.salt ≠ 0) :
    ∀ id ∈ allocated count generator, ∃ step < count,
      place base id % (kSpan * kSpan) =
        (place base generator.last + step + 1) % (kSpan * kSpan) := by
  induction count generalizing generator with
  | zero => simp [allocated]
  | succ count ih =>
      intro id inside
      have moved := advance_cycle based salted
      rcases List.mem_cons.mp inside with rfl | later
      · exact ⟨0, Nat.succ_pos count, moved⟩
      · obtain ⟨step, early, placed⟩ := ih (advance_salted salted) id later
        refine ⟨step + 1, Nat.succ_lt_succ early, ?_⟩
        unfold kSpan at moved placed ⊢
        omega

theorem allocated_nodup (count : Nat) {generator : IdentityGenerator tag}
    (salted : generator.salt ≠ 0) (short : count ≤ kSpan * kSpan) :
    (allocated count generator).Nodup := by
  induction count generalizing generator with
  | zero => exact List.nodup_nil
  | succ count ih =>
      refine List.nodup_cons.mpr ⟨?_, ih (advance_salted salted) (by omega)⟩
      intro again
      obtain ⟨step, early, placed⟩ :=
        allocated_place salted count (advance_salted salted) generator.next again
      have here : place generator.salt generator.advance.last =
          place generator.salt generator.next := rfl
      rw [here] at placed
      unfold kSpan at short placed
      omega

/-- The generators a process starts from: built, built with a salt, or set by `resume_after`. -/
inductive Started : IdentityGenerator tag → Prop
  | built : Started {}
  | seeded (salt : UInt64) : Started (seeded salt)
  | resumed (salt counter : UInt64) : Started (resumeAfter salt counter)

theorem Started.salted {generator : IdentityGenerator tag} (started : Started generator) :
    generator.salt ≠ 0 := by
  cases started with
  | built => exact (by decide : (1 : UInt64) ≠ 0)
  | seeded salt =>
      unfold IdentityGenerator.seeded
      dsimp only
      split
      · decide
      · assumption
  | resumed salt counter =>
      unfold resumeAfter
      dsimp only
      split
      · decide
      · assumption

/-! ### Observed identities -/

inductive GeneratorCall (tag : IdentityTag) where
  | next
  | observeExisting (id : Identity tag)

def called (generator : IdentityGenerator tag) : GeneratorCall tag → IdentityGenerator tag
  | .next => generator.advance
  | .observeExisting id => generator.observeExisting id

def Unwrapped (generator : IdentityGenerator tag) : List (GeneratorCall tag) → Prop
  | [] => True
  | call :: rest =>
      (call = .next → generator.counter + 1 ≠ 0) ∧ Unwrapped (generator.called call) rest

/-- The counter has passed the identity, if it is one of the salt in use. -/
def Covers (generator : IdentityGenerator tag) (id : Identity tag) : Prop :=
  id.high = generator.salt → id.low.toNat ≤ generator.counter.toNat

theorem advance_unwrapped {generator : IdentityGenerator tag} (stays : generator.counter + 1 ≠ 0) :
    generator.advance.salt = generator.salt ∧
      generator.advance.counter.toNat = generator.counter.toNat + 1 := by
  unfold advance
  rw [if_neg stays]
  refine ⟨rfl, ?_⟩
  have bound := generator.counter.toNat_lt
  have value : (generator.counter + 1).toNat ≠ 0 := fun zero => stays (UInt64.toNat_inj.mp zero)
  rw [UInt64.toNat_add] at value ⊢
  simp only [UInt64.reduceToNat] at value ⊢
  omega

theorem observeExisting_forward (generator : IdentityGenerator tag) (id : Identity tag) :
    (generator.observeExisting id).salt = generator.salt ∧
      generator.counter.toNat ≤ (generator.observeExisting id).counter.toNat ∧
      (generator.observeExisting id).Covers id := by
  unfold observeExisting Covers
  by_cases foreign : id.high ≠ generator.salt
  · rw [if_pos foreign]
    exact ⟨rfl, Nat.le_refl _, fun same => absurd same foreign⟩
  · rw [if_neg foreign]
    by_cases above : id.low > generator.counter
    · rw [if_pos above]
      have higher := UInt64.lt_iff_toNat_lt.mp above
      exact ⟨rfl, Nat.le_of_lt higher, fun _ => Nat.le_refl _⟩
    · rw [if_neg above]
      have lower := UInt64.le_iff_toNat_le.mp (UInt64.not_lt.mp above)
      exact ⟨rfl, Nat.le_refl _, fun _ => lower⟩

theorem Covers.kept {generator : IdentityGenerator tag} {id : Identity tag}
    (covers : generator.Covers id) (call : GeneratorCall tag)
    (stays : call = .next → generator.counter + 1 ≠ 0) : (generator.called call).Covers id := by
  cases call with
  | next =>
      obtain ⟨salt, counter⟩ := advance_unwrapped (stays rfl)
      intro high
      have low := covers (high.trans salt)
      change id.low.toNat ≤ generator.advance.counter.toNat
      omega
  | observeExisting other =>
      obtain ⟨salt, counter, _⟩ := observeExisting_forward generator other
      intro high
      have low := covers (high.trans salt)
      change id.low.toNat ≤ (generator.observeExisting other).counter.toNat
      omega

theorem Covers.ne_next {generator : IdentityGenerator tag} {id : Identity tag}
    (covers : generator.Covers id) (stays : generator.counter + 1 ≠ 0) : generator.next ≠ id := by
  obtain ⟨salt, counter⟩ := advance_unwrapped stays
  rintro rfl
  have low : generator.next.low.toNat ≤ generator.counter.toNat := covers salt
  change generator.advance.counter.toNat ≤ generator.counter.toNat at low
  omega

/-- Whatever is called in between, an identity that was covered is not returned before the
counter wraps. -/
theorem Covers.unwrapped {generator : IdentityGenerator tag} {id : Identity tag}
    (covers : generator.Covers id) (calls : List (GeneratorCall tag))
    (stays : generator.Unwrapped (calls ++ [.next])) : (calls.foldl called generator).next ≠ id := by
  induction calls generalizing generator with
  | nil => exact covers.ne_next (stays.1 rfl)
  | cons call rest ih => exact ih (covers.kept call stays.1) stays.2

theorem observed_covers (ids : List (Identity tag)) (generator : IdentityGenerator tag) :
    ∀ id ∈ ids, (ids.foldl observeExisting generator).Covers id := by
  have kept (rest : List (Identity tag)) {id : Identity tag} (generator : IdentityGenerator tag)
      (covers : generator.Covers id) : (rest.foldl observeExisting generator).Covers id := by
    induction rest generalizing generator with
    | nil => exact covers
    | cons other rest ih =>
        exact ih _ (covers.kept (.observeExisting other) (by simp))
  induction ids generalizing generator with
  | nil => simp
  | cons first rest ih =>
      intro id inside
      rcases List.mem_cons.mp inside with rfl | later
      · exact kept rest _ (observeExisting_forward generator id).2.2
      · exact ih _ id later

theorem Covers.not_allocated {id : Identity tag} (count : Nat) {generator : IdentityGenerator tag}
    (covers : generator.Covers id) (room : generator.counter.toNat + count < 2 ^ 64) :
    id ∉ allocated count generator := by
  induction count generalizing generator with
  | zero => simp [allocated]
  | succ count ih =>
      have stays : generator.counter + 1 ≠ 0 := by
        intro zero
        have value := congrArg UInt64.toNat zero
        rw [UInt64.toNat_add] at value
        simp only [UInt64.reduceToNat] at value
        omega
      have counter := (advance_unwrapped stays).2
      refine List.not_mem_cons_of_ne_of_not_mem (covers.ne_next stays).symm ?_
      exact ih (covers.kept .next fun _ => stays) (by omega)

/-- However a generator was started, a run shorter than its cycle returns valid identities and none
of them twice; and until the counter wraps nothing that was observed is returned, whether the calls
follow all observations or are mixed with further ones. -/
theorem identities_never_repeat (tag : IdentityTag) :
    (∀ (generator : IdentityGenerator tag) (count : Nat), Started generator →
      count < (2 ^ 64 - 1) ^ 2 →
      (allocated count generator).Nodup ∧ ∀ id ∈ allocated count generator, id.valid = true) ∧
    (∀ (generator : IdentityGenerator tag) (ids : List (Identity tag)) (count : Nat),
      (ids.foldl observeExisting generator).counter.toNat + count < 2 ^ 64 →
      ∀ id ∈ ids, id ∉ allocated count (ids.foldl observeExisting generator)) ∧
    ∀ (generator : IdentityGenerator tag) (id : Identity tag) (calls : List (GeneratorCall tag)),
      (generator.observeExisting id).Unwrapped (calls ++ [.next]) →
      (calls.foldl called (generator.observeExisting id)).next ≠ id := by
  refine ⟨?_, ?_, ?_⟩
  · intro generator count started short
    refine ⟨allocated_nodup count started.salted ?_, allocated_valid count generator⟩
    unfold kSpan
    omega
  · intro generator ids count room id inside
    exact (observed_covers ids generator id inside).not_allocated count room
  · intro generator id calls stays
    exact Covers.unwrapped (observeExisting_forward generator id).2.2 calls stays

theorem identities_apart_across_wraps :
    allocated 3 (resumeAfter 0xFFFFFFFFFFFFFFFF 0xFFFFFFFFFFFFFFFE) =
        [⟨0xFFFFFFFFFFFFFFFF, 0xFFFFFFFFFFFFFFFF⟩, (⟨1, 1⟩ : EvidenceId), ⟨1, 2⟩] ∧
      (allocated 3 (resumeAfter 0xFFFFFFFFFFFFFFFF 0xFFFFFFFFFFFFFFFE :
        IdentityGenerator .evidenceId)).Nodup ∧
      (⟨7, 9⟩ : EvidenceId) ∉ allocated 2 ([⟨7, 9⟩].foldl observeExisting (seeded 7)) ∧
      ([.next].foldl called ((seeded 7).observeExisting (⟨7, 9⟩ : EvidenceId))).next ≠ ⟨7, 9⟩ := by
  obtain ⟨apart, observed, between⟩ := identities_never_repeat .evidenceId
  refine ⟨by decide, (apart _ 3 (.resumed _ _) (by decide)).1, ?_, ?_⟩
  · exact observed (seeded 7) [⟨7, 9⟩] 2 (by decide) ⟨7, 9⟩ (by simp)
  · exact between (seeded 7) ⟨7, 9⟩ [.next] ⟨fun _ => by decide, fun _ => by decide, trivial⟩

end IdentityGenerator

end ArtifactPromotion
