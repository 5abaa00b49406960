import ArtifactPromotion.Domain.Decision

/-! The authoritative coordinator state, its configuration bounds and its consistency check. -/

namespace ArtifactPromotion

inductive HistoryEventKind where
  | invalid
  | artifactRegistered
  | artifactSupersededRegistration
  | evidenceSubmitted
  | evidenceSuperseded
  | evidenceRevoked
  | policyPublished
  | promotionEvaluated
  | promotionCommitted
  | promotionRejected
  | quarantined
  | quarantineReleased
  | revoked
  | superseded
  | retired
  | recoveryNote
deriving DecidableEq

namespace HistoryEventKind

def toByte : HistoryEventKind → UInt8
  | invalid => 0
  | artifactRegistered => 1
  | artifactSupersededRegistration => 2
  | evidenceSubmitted => 3
  | evidenceSuperseded => 4
  | evidenceRevoked => 5
  | policyPublished => 6
  | promotionEvaluated => 7
  | promotionCommitted => 8
  | promotionRejected => 9
  | quarantined => 10
  | quarantineReleased => 11
  | revoked => 12
  | superseded => 13
  | retired => 14
  | recoveryNote => 15

def ofByte (raw : UInt8) : HistoryEventKind :=
  match raw.toNat with
  | 1 => artifactRegistered
  | 2 => artifactSupersededRegistration
  | 3 => evidenceSubmitted
  | 4 => evidenceSuperseded
  | 5 => evidenceRevoked
  | 6 => policyPublished
  | 7 => promotionEvaluated
  | 8 => promotionCommitted
  | 9 => promotionRejected
  | 10 => quarantined
  | 11 => quarantineReleased
  | 12 => revoked
  | 13 => superseded
  | 14 => retired
  | 15 => recoveryNote
  | _ => invalid

@[simp] theorem ofByte_toByte (value : HistoryEventKind) : ofByte value.toByte = value := by
  cases value <;> rfl

end HistoryEventKind

structure HistoryEvent where
  sequence : CommitSequence := {}
  kind : HistoryEventKind := .invalid
  artifact : ArtifactId := {}
  artifactRevision : ArtifactRevision := {}
  evidence : EvidenceId := {}
  decision : PromotionDecisionId := {}
  outcome : PromotionOutcome := .invalid
  source : Stage := .invalid
  target : Stage := .invalid
  authority : CoordinatorAuthority := {}
  note : Text := []
deriving DecidableEq

structure PendingTransition where
  id : ReservationId := {}
  artifact : ArtifactId := {}
  artifactRevision : ArtifactRevision := {}
  artifactGeneration : ArtifactGeneration := {}
  stageGeneration : StageGeneration := {}
  source : Stage := .invalid
  target : Stage := .invalid
  plan : PromotionPlanId := {}
  request : PromotionRequestId := {}
  attempt : PromotionAttemptId := {}
  authority : CoordinatorAuthority := {}
  createdSequence : CommitSequence := {}
  createdUnixMillis : UInt64 := 0
deriving DecidableEq

structure IdempotencyRecord where
  request : PromotionRequestId := {}
  attempt : PromotionAttemptId := {}
  decision : PromotionDecisionId := {}
  outcome : PromotionOutcome := .invalid
  plan : PromotionPlanId := {}
  requestDigest : Digest := .zero
  createdSequence : CommitSequence := {}
deriving DecidableEq

structure VetoState where
  securityVeto : Bool := false
  securityReason : Text := []
  dependencyVeto : Bool := false
  dependencyReason : Text := []
deriving DecidableEq

/-- Bounds and times of one engine; every count is a 64-bit `std::size_t`. -/
structure EngineConfig where
  maxArtifacts : UInt64 := 100000
  maxArtifactRevisionsPerId : UInt64 := 64
  maxEvidenceRecords : UInt64 := 500000
  maxEvidencePerArtifactRevision : UInt64 := 256
  maxPoliciesRetained : UInt64 := 16
  maxPendingPromotions : UInt64 := 4096
  maxPlansRetained : UInt64 := 4096
  maxDecisionsRetained : UInt64 := 65536
  maxRecordsRetained : UInt64 := 65536
  maxHistoryEvents : UInt64 := 262144
  maxEvidencePerSnapshot : UInt64 := 256
  planTtlMillis : UInt64 := 60000
  reservationStaleMillis : UInt64 := 30000
  futureSkewToleranceMillis : UInt64 := 5000
  identitySaltSeed : UInt64 := 0x5A17C0DE
deriving DecidableEq

def EngineConfig.valid (config : EngineConfig) : Bool :=
  config.maxArtifacts > 0 && config.maxEvidenceRecords > 0 && config.maxPendingPromotions > 0 &&
    config.maxPlansRetained > 0 && config.maxHistoryEvents > 0 &&
    config.maxEvidencePerSnapshot > 0 && config.maxPoliciesRetained > 0 &&
    config.planTtlMillis > 0 && config.maxDecisionsRetained > 0 && config.maxRecordsRetained > 0 &&
    config.maxArtifactRevisionsPerId > 0 && config.maxEvidencePerArtifactRevision > 0

/-- A `std::map`: a finite map iterated in key order. -/
abbrev OrderedMap (κ ν : Type) [Ord κ] := Std.ExtTreeMap κ ν compare

structure CoordinatorState where
  coordinator : CoordinatorId := {}
  epoch : CoordinatorEpoch := {}
  commitSequence : CommitSequence := {}
  decisionSequence : DecisionSequence := {}
  artifactGeneration : ArtifactGeneration := {}
  compatibilityGeneration : CompatibilityGeneration := ⟨1⟩
  compatibilityProfile : CompatibilityProfileId := {}
  activePolicy : PromotionPolicyId := {}
  activePolicyGeneration : PolicyGeneration := {}
  activePolicyDigest : Digest := .zero
  artifacts : OrderedMap ArtifactId (List ArtifactRecord) := ∅
  evidence : OrderedMap EvidenceId EvidenceRecord := ∅
  plans : OrderedMap PromotionPlanId PromotionPlan := ∅
  decisions : OrderedMap PromotionDecisionId PromotionDecision := ∅
  records : OrderedMap TransitionId PromotionRecord := ∅
  idempotency : OrderedMap PromotionRequestId IdempotencyRecord := ∅
  history : OrderedMap CommitSequence HistoryEvent := ∅
  vetoes : OrderedMap ArtifactId VetoState := ∅
  pending : OrderedMap ArtifactId PendingTransition := ∅
  revisionGenerator : IdentityGenerator .artifactRevision := {}
  evidenceGenerator : IdentityGenerator .evidenceId := {}
  planGenerator : IdentityGenerator .promotionPlanId := {}
  decisionGenerator : IdentityGenerator .promotionDecisionId := {}
  transitionGenerator : IdentityGenerator .transitionId := {}
  reservationGenerator : IdentityGenerator .reservationId := {}
  instanceGenerator : IdentityGenerator .artifactInstanceId := {}
  provenanceGenerator : IdentityGenerator .provenanceRef := {}
  internalRequestGenerator : IdentityGenerator .promotionRequestId := {}
  internalAttemptGenerator : IdentityGenerator .promotionAttemptId := {}
  activePolicyId : PromotionPolicyId := {}
  policy : PromotionPolicy := {}

namespace CoordinatorState

def chain (state : CoordinatorState) (id : ArtifactId) : List ArtifactRecord :=
  state.artifacts.getD id []

def findCurrent (state : CoordinatorState) (id : ArtifactId) : Option ArtifactRecord :=
  (state.chain id).getLast?

def findRevision (state : CoordinatorState) (id : ArtifactId) (revision : ArtifactRevision) :
    Option ArtifactRecord :=
  (state.chain id).find? fun record => record.revision == revision

def setActivePolicy (state : CoordinatorState) (policy : PromotionPolicy) : CoordinatorState :=
  { state with
    activePolicy := policy.id
    activePolicyId := policy.id
    activePolicyGeneration := policy.generation
    policy
    activePolicyDigest := policy.policyDigest }

def authority (state : CoordinatorState) : CoordinatorAuthority :=
  ⟨state.coordinator, state.epoch⟩

def stampAuthority (state : CoordinatorState) : AuthorityId :=
  ⟨state.coordinator.high, state.epoch.value⟩

def rejectCorrupt (bad : Bool) (message : String) : Result Unit :=
  rejectWhen bad .persistenceCorrupt message

def checkRevision (id : ArtifactId) (seen : List ArtifactRevision) (record : ArtifactRecord) :
    Result Unit := do
  rejectCorrupt (!record.valid || record.id != id) "artifact revision record is malformed"
  rejectCorrupt (seen.contains record.revision) "artifact identity has a duplicate revision"
  rejectCorrupt (record.generation.value.toNat != seen.length + 1)
    "artifact revision generation does not match its position in the revision chain"
  rejectCorrupt (record.promoted && record.promotionDecision.invalid)
    "promoted artifact has no promotion decision"

def checkRevisions (id : ArtifactId) : List ArtifactRevision → List ArtifactRecord → Result Unit
  | _, [] => .ok ()
  | seen, record :: rest => do
      checkRevision id seen record
      checkRevisions id (seen ++ [record.revision]) rest

def checkChain (entry : ArtifactId × List ArtifactRecord) : Result Unit := do
  rejectCorrupt (entry.1.invalid || entry.2.isEmpty)
    "artifact entry has an invalid identity or no revisions"
  checkRevisions entry.1 [] entry.2

def checkEvidence (state : CoordinatorState) (entry : EvidenceId × EvidenceRecord) :
    Result Unit := do
  rejectCorrupt (entry.1.invalid || entry.2.id != entry.1 || !entry.2.valid)
    "evidence record is malformed"
  let subject := state.findRevision entry.2.subject entry.2.subjectRevision
  rejectCorrupt subject.isNone "evidence references an unknown artifact revision"
  rejectCorrupt (subject.any fun record => record.digest != entry.2.subjectDigest)
    "evidence subject digest does not match the artifact revision"
  rejectCorrupt (computeEvidenceIntegrity entry.2 != entry.2.integrityDigest)
    "evidence integrity digest does not match its content"

def checkPlan (entry : PromotionPlanId × PromotionPlan) : Result Unit :=
  rejectCorrupt (entry.1.invalid || entry.2.id != entry.1 || !entry.2.valid)
    "promotion plan is malformed"

def checkDecision (entry : PromotionDecisionId × PromotionDecision) : Result Unit := do
  rejectCorrupt (entry.1.invalid || entry.2.id != entry.1) "promotion decision identity mismatch"
  rejectCorrupt (!isValidPromotionOutcome entry.2.outcome.toByte.toNat)
    "promotion decision carries an unknown outcome"

def checkRecord (state : CoordinatorState) (entry : TransitionId × PromotionRecord) :
    Result Unit := do
  rejectCorrupt (entry.1.invalid || entry.2.transition != entry.1 || !entry.2.valid)
    "promotion record is malformed"
  rejectCorrupt (!entry.2.sequence.valid) "promotion record has no commit sequence"
  rejectCorrupt (entry.2.target == .promoted && entry.2.decision.invalid)
    "promotion record names no promotion decision"
  let subject := state.findRevision entry.2.artifact entry.2.artifactRevision
  rejectCorrupt subject.isNone "promotion record references an unknown artifact revision"
  rejectCorrupt (subject.any fun record => record.digest != entry.2.artifactDigest)
    "promotion record digest does not match the artifact revision"

def checkHistory : CommitSequence → List (CommitSequence × HistoryEvent) → Result Unit
  | _, [] => .ok ()
  | previous, (sequence, event) :: rest => do
      rejectCorrupt (!sequence.valid || event.sequence != sequence)
        "history event sequence mismatch"
      rejectCorrupt (previous.valid && !(previous.value < sequence.value))
        "history is not strictly increasing"
      checkHistory sequence rest

def checkReferences (state : CoordinatorState) (record : ArtifactRecord) : Result Unit := do
  rejectCorrupt (record.revocation.active && record.revocation.decision.invalid)
    "active revocation names no promotion decision"
  rejectCorrupt (record.revocation.active && !state.decisions.contains record.revocation.decision)
    "active revocation references an unknown promotion decision"
  rejectCorrupt (record.supersession.active && (state.findRevision record.supersession.successor
    record.supersession.successorRevision).isNone) "supersession references an unknown successor"

def verifyConsistency (state : CoordinatorState) : Option (Result Unit) :=
  let header : Result Unit := do
    rejectCorrupt state.coordinator.invalid "coordinator identity is the invalid sentinel"
    rejectCorrupt (!state.epoch.valid) "coordinator epoch is zero"
    rejectCorrupt (!state.policy.id.valid || state.policy.id != state.activePolicy)
      "active policy body does not match the recorded policy identity"
    rejectCorrupt (state.policy.generation != state.activePolicyGeneration)
      "active policy generation does not match the policy body"
    rejectCorrupt (state.policy.policyDigest != state.activePolicyDigest)
      "active policy digest does not match the policy body"
  match header with
  | .error status => some (.error status)
  | .ok () =>
      state.policy.validate.map fun policyStatus => do
        policyStatus
        checkEach checkChain state.artifacts.toList
        checkEach (checkEvidence state) state.evidence.toList
        checkEach checkPlan state.plans.toList
        checkEach checkDecision state.decisions.toList
        checkEach (checkRecord state) state.records.toList
        checkHistory {} state.history.toList
        checkEach (fun entry => checkEach (checkReferences state) entry.2) state.artifacts.toList

end CoordinatorState

end ArtifactPromotion
