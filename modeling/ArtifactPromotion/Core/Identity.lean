import Std.Data.ExtTreeMap
import Mathlib.Algebra.Group.Nat.Defs
import Mathlib.Data.List.Basic

/-! Identity domains, saturating counters and the monotonic identity generator. -/

namespace ArtifactPromotion

inductive IdentityTag where
  | artifactId
  | artifactRevision
  | promotionRequestId
  | promotionAttemptId
  | promotionDecisionId
  | promotionPlanId
  | promotionPolicyId
  | evidenceId
  | workerId
  | workerBootId
  | coordinatorId
  | compatibilityProfileId
  | authorityId
  | transitionId
  | reservationId
  | artifactInstanceId
  | provenanceRef

/-- A 128-bit identity of one domain; the all-zero value is the invalid sentinel. -/
structure Identity (tag : IdentityTag) where
  high : UInt64 := 0
  low : UInt64 := 0
deriving DecidableEq

instance (tag : IdentityTag) : Inhabited (Identity tag) := ⟨{}⟩

namespace Identity

variable {tag : IdentityTag}

def valid (id : Identity tag) : Bool := id.high != 0 || id.low != 0

def invalid (id : Identity tag) : Bool := !id.valid

instance : Ord (Identity tag) := ⟨compareLex (compareOn Identity.high) (compareOn Identity.low)⟩

instance : Std.TransOrd (Identity tag) :=
  inferInstanceAs (Std.TransCmp (compareLex (compareOn Identity.high) (compareOn Identity.low)))

instance : Std.LawfulEqOrd (Identity tag) where
  eq_of_compare {left right} same := by
    change compareLex (compareOn Identity.high) (compareOn Identity.low) left right = .eq at same
    simp only [compareLex, compareOn, Ordering.then_eq_eq, Std.LawfulEqCmp.compare_eq_iff_eq] at same
    cases left
    cases right
    simp_all

end Identity

abbrev ArtifactId := Identity .artifactId
abbrev ArtifactRevision := Identity .artifactRevision
abbrev PromotionRequestId := Identity .promotionRequestId
abbrev PromotionAttemptId := Identity .promotionAttemptId
abbrev PromotionDecisionId := Identity .promotionDecisionId
abbrev PromotionPlanId := Identity .promotionPlanId
abbrev PromotionPolicyId := Identity .promotionPolicyId
abbrev EvidenceId := Identity .evidenceId
abbrev WorkerId := Identity .workerId
abbrev WorkerBootId := Identity .workerBootId
abbrev CoordinatorId := Identity .coordinatorId
abbrev CompatibilityProfileId := Identity .compatibilityProfileId
abbrev AuthorityId := Identity .authorityId
abbrev TransitionId := Identity .transitionId
abbrev ReservationId := Identity .reservationId
abbrev ProvenanceRef := Identity .provenanceRef

inductive CounterTag where
  | artifactGeneration
  | policyGeneration
  | evidenceGeneration
  | coordinatorEpoch
  | stageGeneration
  | commitSequence
  | compatibilityGeneration
  | decisionSequence

/-- A monotonic counter whose successor saturates instead of wrapping. -/
structure Counter (tag : CounterTag) where
  value : UInt64 := 0
deriving DecidableEq

instance (tag : CounterTag) : Inhabited (Counter tag) := ⟨{}⟩

namespace Counter

variable {tag : CounterTag}

def valid (counter : Counter tag) : Bool := counter.value != 0

def next (counter : Counter tag) : Counter tag :=
  ⟨if counter.value = 0xFFFFFFFFFFFFFFFF then counter.value else counter.value + 1⟩

instance : Ord (Counter tag) := ⟨compareOn Counter.value⟩

instance : Std.TransOrd (Counter tag) := inferInstanceAs (Std.TransCmp (compareOn Counter.value))

instance : Std.LawfulEqOrd (Counter tag) where
  eq_of_compare {left right} same := by
    change compareOn Counter.value left right = .eq at same
    simp only [compareOn, Std.LawfulEqCmp.compare_eq_iff_eq] at same
    cases left
    cases right
    simp_all

theorem next_value (counter : Counter tag) :
    counter.next.value.toNat = min (counter.value.toNat + 1) (2 ^ 64 - 1) := by
  unfold next
  have bound := counter.value.toNat_lt
  by_cases saturated : counter.value = 0xFFFFFFFFFFFFFFFF
  · simp [saturated]
  · have below : counter.value.toNat ≠ 2 ^ 64 - 1 := by
      intro atTop
      exact saturated (UInt64.toNat_inj.mp (by simpa using atTop))
    simp only [saturated, ↓reduceIte, UInt64.toNat_add, UInt64.reduceToNat]
    omega

theorem next_valid (counter : Counter tag) : counter.next.valid = true := by
  have moved := next_value counter
  unfold valid
  simp only [bne_iff_ne, ne_eq]
  intro zero
  rw [zero] at moved
  simp only [UInt64.toNat_zero] at moved
  omega

end Counter

abbrev ArtifactGeneration := Counter .artifactGeneration
abbrev PolicyGeneration := Counter .policyGeneration
abbrev EvidenceGeneration := Counter .evidenceGeneration
abbrev CoordinatorEpoch := Counter .coordinatorEpoch
abbrev StageGeneration := Counter .stageGeneration
abbrev CommitSequence := Counter .commitSequence
abbrev CompatibilityGeneration := Counter .compatibilityGeneration
abbrev DecisionSequence := Counter .decisionSequence

/-- Allocates identities of one domain: the salt is the high half, the counter the low half. -/
structure IdentityGenerator (tag : IdentityTag) where
  salt : UInt64 := 1
  counter : UInt64 := 0
deriving DecidableEq

namespace IdentityGenerator

variable {tag : IdentityTag}

def seeded (salt : UInt64) : IdentityGenerator tag := ⟨if salt = 0 then 1 else salt, 0⟩

/-- The generator after one allocation; `next` reads the allocated identity off it. -/
def advance (generator : IdentityGenerator tag) : IdentityGenerator tag :=
  if generator.counter + 1 = 0 then
    ⟨if generator.salt + 1 = 0 then 1 else generator.salt + 1, 1⟩
  else ⟨generator.salt, generator.counter + 1⟩

def next (generator : IdentityGenerator tag) : Identity tag :=
  ⟨generator.advance.salt, generator.advance.counter⟩

def resumeAfter (salt counter : UInt64) : IdentityGenerator tag :=
  ⟨if salt = 0 then 1 else salt, counter⟩

def observeExisting (generator : IdentityGenerator tag) (id : Identity tag) :
    IdentityGenerator tag :=
  if id.high ≠ generator.salt then generator
  else if id.low > generator.counter then { generator with counter := id.low }
  else generator

theorem advance_counter_ne_zero (generator : IdentityGenerator tag) :
    generator.advance.counter ≠ 0 := by
  unfold advance
  split
  · exact (by decide : (1 : UInt64) ≠ 0)
  · assumption

theorem next_valid (generator : IdentityGenerator tag) : generator.next.valid = true := by
  simp [next, Identity.valid, advance_counter_ne_zero]

end IdentityGenerator

end ArtifactPromotion
