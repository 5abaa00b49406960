import ArtifactPromotion.Library.OrderedMaps
import ArtifactPromotion.Domain.Store

/-! The table of worker incarnations the coordinator keeps, and the boot identities that workers
make up for themselves. -/

namespace ArtifactPromotion

namespace CoordinatorServer

abbrev WorkerBoots := OrderedMap WorkerId WorkerBootId

def registerWorkerBoot (boots : WorkerBoots) (worker : WorkerId) (boot : WorkerBootId) :
    Result WorkerBoots :=
  if worker.invalid || boot.invalid then
    .error (.of .invalidIdentity
      (text "worker identity and boot identity must both be present"))
  else
    match boots[worker]? with
    | none => .ok (boots.insert worker boot)
    | some existing =>
        if boot = existing then .ok boots
        else if compare boot existing = .lt then
          .error (.of .staleWorkerBoot
            (text "this worker boot identity is older than the incarnation already registered"))
        else .ok (boots.insert worker boot)

theorem registerWorkerBoot_eq_ok {boots after : WorkerBoots} {worker : WorkerId}
    {boot : WorkerBootId} : registerWorkerBoot boots worker boot = .ok after ↔
      worker.valid = true ∧ boot.valid = true ∧
        (∀ existing, boots[worker]? = some existing → compare boot existing ≠ .lt) ∧
        after = boots.insert worker boot := by
  unfold registerWorkerBoot
  by_cases present : worker.valid = true ∧ boot.valid = true
  · obtain ⟨workerValid, bootValid⟩ := present
    simp only [Identity.invalid, workerValid, bootValid, Bool.not_true, Bool.or_self,
      Bool.false_eq_true, if_false, true_and]
    cases recorded : boots[worker]? with
    | none => simp [eq_comm]
    | some existing =>
        simp only [Option.some.injEq, forall_eq']
        by_cases same : boot = existing
        · subst same
          simp [Std.ReflCmp.compare_self, OrderedMaps.insert_same recorded, eq_comm]
        · rw [if_neg same]
          by_cases older : compare boot existing = .lt
          · simp [older]
          · simp [older, eq_comm]
  · rw [if_pos]
    · constructor
      · intro accepted
        cases accepted
      · rintro ⟨workerValid, bootValid, -⟩
        exact absurd ⟨workerValid, bootValid⟩ present
    · simp only [Identity.invalid]
      grind

end CoordinatorServer

/-- What one construction of a client reads: the clock at each call of `entropy`, and the hash of
the thread's identity. -/
structure ClientReadings where
  threadHash : UInt64
  workerHigh : Int64
  workerLow : Int64
  requestSalt : Int64
  attemptSalt : Int64
  bootHigh : Int64
  bootLow : Int64

structure WorkerClient where
  worker : WorkerId
  boot : WorkerBootId
  coordinator : CoordinatorId := {}
  epoch : CoordinatorEpoch := {}
  requestGenerator : IdentityGenerator .promotionRequestId
  attemptGenerator : IdentityGenerator .promotionAttemptId

namespace WorkerClient

def entropy (now : Int64) (threadHash : UInt64) : UInt64 :=
  let mixed := now.toUInt64 ^^^ threadHash
  let mixed := mixed ^^^ 0x9E3779B97F4A7C15
  let mixed := mixed ^^^ (mixed >>> 30)
  let mixed := mixed * 0xBF58476D1CE4E5B9
  let mixed := mixed ^^^ (mixed >>> 27)
  let mixed := mixed * 0x94D049BB133111EB
  let mixed := mixed ^^^ (mixed >>> 31)
  if mixed = 0 then 1 else mixed

def construct (configured : WorkerId) (readings : ClientReadings) : WorkerClient where
  worker :=
    if configured.valid then configured
    else ⟨entropy readings.workerHigh readings.threadHash,
      entropy readings.workerLow readings.threadHash⟩
  boot := ⟨entropy readings.bootHigh readings.threadHash,
    entropy readings.bootLow readings.threadHash⟩
  requestGenerator := .seeded (entropy readings.requestSalt readings.threadHash)
  attemptGenerator := .seeded (entropy readings.attemptSalt readings.threadHash)

theorem entropy_ne_zero (now : Int64) (threadHash : UInt64) : entropy now threadHash ≠ 0 := by
  unfold entropy
  dsimp only
  split
  · decide
  · assumption

theorem construct_boot_valid (configured : WorkerId) (readings : ClientReadings) :
    (construct configured readings).boot.valid = true := by
  simp [construct, Identity.valid, entropy_ne_zero]

end WorkerClient

structure ClientReadings.Before (earlier later : ClientReadings) : Prop where
  highHigh : earlier.bootHigh < later.bootHigh
  highLow : earlier.bootHigh < later.bootLow
  lowHigh : earlier.bootLow < later.bootHigh
  lowLow : earlier.bootLow < later.bootLow

namespace CoordinatorServer

open WorkerClient (construct entropy)

def MixedInOrder (earlier later : ClientReadings) : Prop :=
  entropy earlier.bootHigh earlier.threadHash < entropy later.bootHigh later.threadHash ∨
    entropy earlier.bootHigh earlier.threadHash = entropy later.bootHigh later.threadHash ∧
      entropy earlier.bootLow earlier.threadHash ≤ entropy later.bootLow later.threadHash

theorem compare_lt_iff {tag : IdentityTag} (left right : Identity tag) :
    compare left right = .lt ↔
      left.high < right.high ∨ left.high = right.high ∧ left.low < right.low := by
  change compareLex (compareOn Identity.high) (compareOn Identity.low) left right = .lt ↔ _
  have halves (first second : UInt64) : compare first second = .lt ↔ first < second :=
    compareOfLessAndEq_eq_lt
  simp only [compareLex, compareOn, Ordering.then_eq_lt, halves, Std.LawfulEqCmp.compare_eq_iff_eq]

/-- A restarted worker is let in exactly when the mixing happens to keep the order of the clock. -/
theorem restarted_worker_accepted_iff (boots registered : WorkerBoots) (worker : WorkerId)
    (valid : worker.valid = true) (earlier later : ClientReadings) (_ : earlier.Before later)
    (accepted : registerWorkerBoot boots (construct worker earlier).worker
      (construct worker earlier).boot = .ok registered) :
    (∃ after, registerWorkerBoot registered (construct worker later).worker
      (construct worker later).boot = .ok after) ↔ MixedInOrder earlier later := by
  obtain ⟨-, -, -, rfl⟩ := registerWorkerBoot_eq_ok.mp accepted
  have named (readings : ClientReadings) : (construct worker readings).worker = worker := by
    simp [construct, valid]
  rw [named, named]
  simp only [registerWorkerBoot_eq_ok, valid, WorkerClient.construct_boot_valid, true_and,
    Std.ExtTreeMap.getElem?_insert_self, Option.some.injEq, forall_eq', exists_and_left,
    exists_eq, and_true]
  rw [ne_eq, compare_lt_iff]
  simp only [construct, MixedInOrder, UInt64.lt_iff_toNat_lt, UInt64.le_iff_toNat_le,
    ← UInt64.toNat_inj]
  omega

def readingsFrom (start : Int64) : ClientReadings :=
  { threadHash := 0, workerHigh := start, workerLow := start, requestSalt := start,
    attemptSalt := start + 1, bootHigh := start + 2, bootLow := start + 3 }

theorem restarted_worker_accepted_iff_later :
    ∃ registered after, registerWorkerBoot ∅ ⟨0, 7⟩ (construct ⟨0, 7⟩ (readingsFrom 998)).boot =
        .ok registered ∧
      registerWorkerBoot registered ⟨0, 7⟩ (construct ⟨0, 7⟩ (readingsFrom 1002)).boot =
        .ok after := by
  have first : registerWorkerBoot ∅ ⟨0, 7⟩ (construct ⟨0, 7⟩ (readingsFrom 998)).boot = .ok _ :=
    registerWorkerBoot_eq_ok.mpr ⟨by decide, by decide, by simp, rfl⟩
  obtain ⟨after, second⟩ := (restarted_worker_accepted_iff ∅ _ ⟨0, 7⟩ (by decide)
    (readingsFrom 998) (readingsFrom 1002) ⟨by decide, by decide, by decide, by decide⟩
    first).mpr (.inl (by decide))
  exact ⟨_, after, first, second⟩

/-- A worker restarted a few ticks later is taken for a stale incarnation. -/
theorem restarted_worker_refused :
    (readingsFrom 1000).Before (readingsFrom 1004) ∧
    ∃ registered, registerWorkerBoot ∅ ⟨0, 7⟩ (construct ⟨0, 7⟩ (readingsFrom 1000)).boot =
        .ok registered ∧
      ∀ after, registerWorkerBoot registered ⟨0, 7⟩
        (construct ⟨0, 7⟩ (readingsFrom 1004)).boot ≠ .ok after := by
  refine ⟨⟨by decide, by decide, by decide, by decide⟩, _,
    registerWorkerBoot_eq_ok.mpr ⟨by decide, by decide, by simp, rfl⟩, ?_⟩
  intro after accepted
  obtain ⟨-, -, newest, -⟩ := registerWorkerBoot_eq_ok.mp accepted
  exact newest _ Std.ExtTreeMap.getElem?_insert_self (by decide)

/-- Whatever the clock says, there is a thread on which the restarted worker stays out, unless the
first incarnation already had the least boot identity. -/
theorem restarted_worker_fenced (earlier later : ClientReadings)
    (above : entropy earlier.bootHigh earlier.threadHash ≠ 1) :
    ∃ threadHash, ¬MixedInOrder earlier { later with threadHash } := by
  refine ⟨later.bootHigh.toUInt64 ^^^ 0x9E3779B97F4A7C15, ?_⟩
  have least : entropy later.bootHigh (later.bootHigh.toUInt64 ^^^ 0x9E3779B97F4A7C15) = 1 := by
    unfold entropy
    simp only [← UInt64.xor_assoc, UInt64.xor_self, UInt64.zero_xor]
    decide
  have positive := WorkerClient.entropy_ne_zero earlier.bootHigh earlier.threadHash
  simp only [MixedInOrder, least, UInt64.lt_iff_toNat_lt, ne_eq, ← UInt64.toNat_inj] at above positive ⊢
  simp only [UInt64.toNat_one, UInt64.toNat_zero] at above positive ⊢
  omega

end CoordinatorServer

end ArtifactPromotion
