import ArtifactPromotion.Domain.Policy

/-! Promotion decisions, requests, plans and the durable records of committed transitions. -/

namespace ArtifactPromotion

inductive PromotionOutcome where
  | invalid
  | promotionEligible
  | promotionCommitted
  | promotionIneligible
  | revalidationRequired
  | evidenceMissing
  | evidenceStale
  | evidenceRevoked
  | evidenceMismatch
  | artifactMismatch
  | digestMismatch
  | transitionIllegal
  | policyStale
  | compatibilityFailed
  | approvalRequired
  | quarantined
  | revoked
  | superseded
  | conflict
  | alreadyPromoted
  | outcomeUnknown
  | unsupported
  | artifactNotFound
  | policyNotFound
  | cancelled
  | authorityStale
  | provenanceMissing
  | securityVeto
  | dependencyVeto
  | admissionRejected
deriving DecidableEq

namespace PromotionOutcome

def toByte : PromotionOutcome → UInt8
  | invalid => 0
  | promotionEligible => 1
  | promotionCommitted => 2
  | promotionIneligible => 3
  | revalidationRequired => 4
  | evidenceMissing => 5
  | evidenceStale => 6
  | evidenceRevoked => 7
  | evidenceMismatch => 8
  | artifactMismatch => 9
  | digestMismatch => 10
  | transitionIllegal => 11
  | policyStale => 12
  | compatibilityFailed => 13
  | approvalRequired => 14
  | quarantined => 15
  | revoked => 16
  | superseded => 17
  | conflict => 18
  | alreadyPromoted => 19
  | outcomeUnknown => 20
  | unsupported => 21
  | artifactNotFound => 22
  | policyNotFound => 23
  | cancelled => 24
  | authorityStale => 25
  | provenanceMissing => 26
  | securityVeto => 27
  | dependencyVeto => 28
  | admissionRejected => 29

def ofByte (raw : UInt8) : PromotionOutcome :=
  match raw.toNat with
  | 1 => promotionEligible
  | 2 => promotionCommitted
  | 3 => promotionIneligible
  | 4 => revalidationRequired
  | 5 => evidenceMissing
  | 6 => evidenceStale
  | 7 => evidenceRevoked
  | 8 => evidenceMismatch
  | 9 => artifactMismatch
  | 10 => digestMismatch
  | 11 => transitionIllegal
  | 12 => policyStale
  | 13 => compatibilityFailed
  | 14 => approvalRequired
  | 15 => quarantined
  | 16 => revoked
  | 17 => superseded
  | 18 => conflict
  | 19 => alreadyPromoted
  | 20 => outcomeUnknown
  | 21 => unsupported
  | 22 => artifactNotFound
  | 23 => policyNotFound
  | 24 => cancelled
  | 25 => authorityStale
  | 26 => provenanceMissing
  | 27 => securityVeto
  | 28 => dependencyVeto
  | 29 => admissionRejected
  | _ => invalid

@[simp] theorem ofByte_toByte (value : PromotionOutcome) : ofByte value.toByte = value := by
  cases value <;> rfl

def name : PromotionOutcome → Text
  | invalid => text "INVALID"
  | promotionEligible => text "PROMOTION_ELIGIBLE"
  | promotionCommitted => text "PROMOTION_COMMITTED"
  | promotionIneligible => text "PROMOTION_INELIGIBLE"
  | revalidationRequired => text "REVALIDATION_REQUIRED"
  | evidenceMissing => text "EVIDENCE_MISSING"
  | evidenceStale => text "EVIDENCE_STALE"
  | evidenceRevoked => text "EVIDENCE_REVOKED"
  | evidenceMismatch => text "EVIDENCE_MISMATCH"
  | artifactMismatch => text "ARTIFACT_MISMATCH"
  | digestMismatch => text "DIGEST_MISMATCH"
  | transitionIllegal => text "TRANSITION_ILLEGAL"
  | policyStale => text "POLICY_STALE"
  | compatibilityFailed => text "COMPATIBILITY_FAILED"
  | approvalRequired => text "APPROVAL_REQUIRED"
  | quarantined => text "QUARANTINED"
  | revoked => text "REVOKED"
  | superseded => text "SUPERSEDED"
  | conflict => text "CONFLICT"
  | alreadyPromoted => text "ALREADY_PROMOTED"
  | outcomeUnknown => text "OUTCOME_UNKNOWN"
  | unsupported => text "UNSUPPORTED"
  | artifactNotFound => text "ARTIFACT_NOT_FOUND"
  | policyNotFound => text "POLICY_NOT_FOUND"
  | cancelled => text "CANCELLED"
  | authorityStale => text "AUTHORITY_STALE"
  | provenanceMissing => text "PROVENANCE_MISSING"
  | securityVeto => text "SECURITY_VETO"
  | dependencyVeto => text "DEPENDENCY_VETO"
  | admissionRejected => text "ADMISSION_REJECTED"

end PromotionOutcome

def isValidPromotionOutcome (raw : Nat) : Bool := 1 ≤ raw && raw ≤ 29

def isSuccessOutcome (outcome : PromotionOutcome) : Bool :=
  outcome == .promotionEligible || outcome == .promotionCommitted || outcome == .alreadyPromoted

inductive GateStatus where
  | notEvaluated
  | satisfied
  | failed
  | unknown
  | notApplicable
deriving DecidableEq

namespace GateStatus

def toByte : GateStatus → UInt8
  | notEvaluated => 0
  | satisfied => 1
  | failed => 2
  | unknown => 3
  | notApplicable => 4

def ofByte (raw : UInt8) : GateStatus :=
  match raw.toNat with
  | 1 => satisfied
  | 2 => failed
  | 3 => unknown
  | 4 => notApplicable
  | _ => notEvaluated

@[simp] theorem ofByte_toByte (value : GateStatus) : ofByte value.toByte = value := by
  cases value <;> rfl

end GateStatus

structure GateExplanation where
  kind : GateKind := .invalid
  label : Text := []
  status : GateStatus := .notEvaluated
  code : ErrorCode := .ok
  detail : Text := []
deriving DecidableEq

structure EvidenceFinding where
  id : EvidenceId := {}
  type : EvidenceType := .invalid
  customType : Text := []
  generation : EvidenceGeneration := {}
  result : EvidenceResult := .unknown
  subjectDigest : Digest := .zero
  subjectRevision : ArtifactRevision := {}
  code : ErrorCode := .ok
  detail : Text := []
deriving DecidableEq

structure PromotionDecision where
  id : PromotionDecisionId := {}
  request : PromotionRequestId := {}
  attempt : PromotionAttemptId := {}
  artifact : ArtifactId := {}
  artifactRevision : ArtifactRevision := {}
  artifactGeneration : ArtifactGeneration := {}
  artifactDigest : Digest := .zero
  artifactKind : ArtifactKind := .invalid
  source : Stage := .invalid
  target : Stage := .invalid
  outcome : PromotionOutcome := .invalid
  policy : PromotionPolicyId := {}
  policyGeneration : PolicyGeneration := {}
  policyDigest : Digest := .zero
  authority : CoordinatorAuthority := {}
  sequence : DecisionSequence := {}
  evidenceSnapshotDigest : Digest := .zero
  gates : List GateExplanation := []
  findings : List EvidenceFinding := []
  reasons : List Reason := []
  plan : PromotionPlanId := {}
  authoritative : Bool := false
  decidedUnixMillis : Option UInt64 := none
deriving DecidableEq

def PromotionDecision.succeeded (decision : PromotionDecision) : Bool :=
  isSuccessOutcome decision.outcome

structure PromotionRequest where
  artifact : ArtifactId := {}
  expectedRevision : ArtifactRevision := {}
  expectedDigest : Digest := .zero
  requestedStage : Stage := .invalid
  request : PromotionRequestId := {}
  attempt : PromotionAttemptId := {}
  authority : CoordinatorAuthority := {}
  requester : ProducerIncarnation := {}
deriving DecidableEq

/-- The authority carrier: it names every component whose change invalidates it. -/
structure PromotionPlan where
  id : PromotionPlanId := {}
  request : PromotionRequestId := {}
  attempt : PromotionAttemptId := {}
  decision : PromotionDecisionId := {}
  artifact : ArtifactId := {}
  artifactRevision : ArtifactRevision := {}
  artifactGeneration : ArtifactGeneration := {}
  artifactDigest : Digest := .zero
  artifactKind : ArtifactKind := .invalid
  source : Stage := .invalid
  target : Stage := .invalid
  stageGeneration : StageGeneration := {}
  policy : PromotionPolicyId := {}
  policyGeneration : PolicyGeneration := {}
  policyDigest : Digest := .zero
  lifecycleDigest : Digest := .zero
  authority : CoordinatorAuthority := {}
  evidenceSnapshotDigest : Digest := .zero
  evidenceEntryCount : UInt64 := 0
  compatibilityProfile : CompatibilityProfileId := {}
  compatibilityGeneration : CompatibilityGeneration := {}
  artifactSequence : CommitSequence := {}
  createdSequence : CommitSequence := {}
  decisionSequence : DecisionSequence := {}
  hasExpiry : Bool := false
  expiresUnixMillis : UInt64 := 0
deriving DecidableEq

def PromotionPlan.valid (plan : PromotionPlan) : Bool :=
  plan.id.valid && plan.request.valid && plan.attempt.valid && plan.decision.valid &&
    plan.artifact.valid && plan.artifactRevision.valid && plan.artifactGeneration.valid &&
    plan.artifactDigest.valid && plan.artifactKind != .invalid && plan.source != .invalid &&
    plan.target != .invalid && plan.stageGeneration.valid && plan.policy.valid &&
    plan.policyGeneration.valid && plan.policyDigest.valid && plan.lifecycleDigest.valid &&
    plan.authority.valid && plan.evidenceSnapshotDigest.valid && plan.createdSequence.valid &&
    plan.decisionSequence.valid

structure PromotionRecord where
  transition : TransitionId := {}
  artifact : ArtifactId := {}
  artifactRevision : ArtifactRevision := {}
  artifactDigest : Digest := .zero
  source : Stage := .invalid
  target : Stage := .invalid
  decision : PromotionDecisionId := {}
  plan : PromotionPlanId := {}
  request : PromotionRequestId := {}
  attempt : PromotionAttemptId := {}
  policy : PromotionPolicyId := {}
  policyGeneration : PolicyGeneration := {}
  authority : CoordinatorAuthority := {}
  evidenceSnapshotDigest : Digest := .zero
  sequence : CommitSequence := {}
  committedUnixMillis : UInt64 := 0
  note : Text := []
deriving DecidableEq

def PromotionRecord.valid (record : PromotionRecord) : Bool :=
  record.transition.valid && record.artifact.valid && record.artifactRevision.valid &&
    record.artifactDigest.valid && record.source != .invalid && record.target != .invalid &&
    (record.target != .promoted || record.decision.valid) && record.policy.valid &&
    record.policyGeneration.valid && record.authority.valid &&
    record.evidenceSnapshotDigest.valid && record.sequence.valid

end ArtifactPromotion
