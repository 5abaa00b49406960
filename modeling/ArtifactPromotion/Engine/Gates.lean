import ArtifactPromotion.Domain.Store

/-! Hard gate evaluation: evidence selection, one verdict for each gate, and the decision they
produce. -/

namespace ArtifactPromotion

def gateTargets (gateType : EvidenceType) (gateCustom : Text) (record : EvidenceRecord) : Bool :=
  gateType == record.type && (gateType != .custom || gateCustom == record.customType)

/-- The evidence of one artifact revision, ordered by type, custom type and identity. -/
def gatherEvidence (state : CoordinatorState) (subject : ArtifactId)
    (revision : ArtifactRevision) : List EvidenceRecord :=
  ((state.evidence.toList.map Prod.snd).filter fun record =>
    record.subject == subject && record.subjectRevision == revision).insertionSort
      fun left right =>
        evidenceOrder left.type left.customType left.id right.type right.customType right.id ≠ .gt

def EvidenceRecord.snapshotEntry (record : EvidenceRecord) : EvidenceSnapshotEntry :=
  { id := record.id, type := record.type, customType := record.customType,
    generation := record.generation, result := record.result,
    subjectDigest := record.subjectDigest, subjectRevision := record.subjectRevision,
    producer := record.producer, integrityDigest := record.integrityDigest }

def snapshotEntries (state : CoordinatorState) (subject : ArtifactId)
    (revision : ArtifactRevision) : List EvidenceSnapshotEntry :=
  ((gatherEvidence state subject revision).filter EvidenceRecord.live).map
    EvidenceRecord.snapshotEntry

/-- Keeps the record with the larger ingestion sequence, the earlier one on a tie. -/
def newer (best : Option EvidenceRecord) (record : EvidenceRecord) : Option EvidenceRecord :=
  match best with
  | none => some record
  | some held =>
      if held.createdSequence.value < record.createdSequence.value then some record else some held

/-- The best candidate of each class that `select_evidence_for_gate` tracks. -/
structure EvidenceCandidates where
  exact : Option EvidenceRecord := none
  mismatchedDigest : Option EvidenceRecord := none
  staleRevision : Option EvidenceRecord := none
  revoked : Option EvidenceRecord := none
  superseded : Option EvidenceRecord := none

def EvidenceCandidates.consider (gate : Gate) (artifactDigest : Digest)
    (revision : ArtifactRevision) (found : EvidenceCandidates) (record : EvidenceRecord) :
    EvidenceCandidates :=
  if !gateTargets gate.evidenceType gate.customEvidenceType record then found
  else if record.subjectDigest ≠ artifactDigest then
    { found with mismatchedDigest := newer found.mismatchedDigest record }
  else if record.subjectRevision ≠ revision then
    { found with staleRevision := newer found.staleRevision record }
  else if record.revoked then { found with revoked := newer found.revoked record }
  else if record.superseded then { found with superseded := newer found.superseded record }
  else { found with exact := newer found.exact record }

structure GateFinding where
  code : ErrorCode := .ok
  detail : Text := []
  referenced : Option EvidenceRecord := none
deriving DecidableEq

def selectEvidenceForGate (evidence : List EvidenceRecord) (gate : Gate) (artifactDigest : Digest)
    (revision : ArtifactRevision) : GateFinding :=
  let found := evidence.foldl (EvidenceCandidates.consider gate artifactDigest revision) {}
  if found.exact.isSome then { referenced := found.exact }
  else if found.revoked.isSome then
    ⟨.evidenceRevoked, text "the matching evidence record was explicitly revoked", found.revoked⟩
  else if found.superseded.isSome then
    ⟨.evidenceSuperseded, text "the matching evidence record was superseded by a newer record",
      found.superseded⟩
  else if found.mismatchedDigest.isSome then
    ⟨.evidenceMismatch, text "evidence exists for this artifact but for a different content digest",
      found.mismatchedDigest⟩
  else if found.staleRevision.isSome then
    ⟨.artifactGenerationStale,
      text "evidence exists only for a previous revision of this artifact", found.staleRevision⟩
  else
    ⟨.evidenceMissing,
      text "no evidence of the required class exists for this artifact revision", none⟩

def outcomeForRequirement : ErrorCode → PromotionOutcome
  | .evidenceMissing | .evidenceMalformed => .evidenceMissing
  | .evidenceStale => .evidenceStale
  | .evidenceRevoked => .evidenceRevoked
  | .evidenceMismatch => .evidenceMismatch
  | .artifactGenerationStale => .revalidationRequired
  | .evidenceIntegrityFailure => .evidenceMismatch
  | .environmentMismatch => .evidenceMismatch
  | .orderingViolation => .revalidationRequired
  | .compatibilityFailed => .compatibilityFailed
  | .provenanceMissing => .provenanceMissing
  | .provenanceMismatch => .provenanceMissing
  | .approvalRequired => .approvalRequired
  | .securityVeto => .securityVeto
  | .dependencyVeto => .dependencyVeto
  | .artifactQuarantined => .quarantined
  | .artifactRevoked => .revoked
  | .artifactSuperseded => .superseded
  | .policyGenerationStale | .policyStale => .policyStale
  | .staleCoordinatorEpoch => .authorityStale
  | .conflict | .reservationHeld => .conflict
  | .artifactMismatch | .digestMismatch | .invalidDigest => .digestMismatch
  | .transitionIllegal => .transitionIllegal
  | .unsupported => .unsupported
  | _ => .promotionIneligible

def gateErrorCode (kind : GateKind) (defaultCode : ErrorCode) : ErrorCode :=
  match kind with
  | .artifactIdentity => .invalidIdentity
  | .evidenceIntegrity => .evidenceIntegrityFailure
  | .artifactNotQuarantined => .artifactQuarantined
  | .artifactNotRevoked => .artifactRevoked
  | .artifactNotSuperseded => .artifactSuperseded
  | .provenanceRequired | .provenanceResolved => .provenanceMissing
  | .compatibilityGenerationCurrent => .compatibilityFailed
  | .environmentBinding => .environmentMismatch
  | .dependentArtifactPromoted => .dependencyVeto
  | .approvalRequired => .approvalRequired
  | .securityVetoClear => .securityVeto
  | .dependencyVetoClear => .dependencyVeto
  | .policyGenerationCurrent => .policyGenerationStale
  | .coordinatorEpochCurrent => .staleCoordinatorEpoch
  | .noConflictingTransition => .conflict
  | _ => defaultCode

def requestPreimage (request : PromotionRequest) : ByteBuffer :=
  Writer.identity request.artifact ++ Writer.identity request.expectedRevision ++
    Writer.digest request.expectedDigest ++ Writer.u8 request.requestedStage.toByte

def computeRequestDigest (request : PromotionRequest) : Digest := sha256 (requestPreimage request)

structure GateContext where
  config : EngineConfig
  state : CoordinatorState
  request : PromotionRequest
  now : UInt64
  artifact : ArtifactRecord
  policyGeneration : PolicyGeneration

namespace GateContext

def evidence (context : GateContext) : List EvidenceRecord :=
  gatherEvidence context.state context.artifact.id context.artifact.revision

def vetoes (context : GateContext) : VetoState :=
  context.state.vetoes.getD context.artifact.id {}

def resolveGateEvidence (context : GateContext) (gate : Gate) : GateFinding :=
  if !isValidEvidenceType gate.evidenceType.toByte.toNat || gate.evidenceType == .invalid then
    { code := .invalidEnum, detail := text "policy gate names no evidence class" }
  else
    let found := selectEvidenceForGate context.evidence gate context.artifact.digest
      context.artifact.revision
    match found.referenced with
    | none => found
    | some record =>
        if found.code ≠ .ok then found
        else if record.result ≠ .pass then
          { found with
            code := .policyViolation
            detail := text "evidence result is " ++ record.result.name }
        else found

def checkArtifactIdentity (context : GateContext) : GateFinding :=
  if context.artifact.id.invalid || context.artifact.digest.invalid ||
      context.artifact.revision.invalid || context.artifact.kind == .invalid then
    { code := .invalidIdentity,
      detail := text "artifact identity, digest, revision, or class is not well formed" }
  else {}

def checkEvidenceIntegrity (context : GateContext) : GateFinding :=
  match context.evidence.find? fun record =>
      record.live && computeEvidenceIntegrity record != record.integrityDigest with
  | some record =>
      ⟨.evidenceIntegrityFailure, text "an evidence record failed its integrity check",
        some record⟩
  | none => {}

def checkProvenanceRequired (context : GateContext) (gate : Gate) : GateFinding :=
  let cited := context.artifact.provenance.filter fun record =>
    record.reference == gate.requiredProvenance
  if cited.isEmpty then
    { code := .provenanceMissing,
      detail :=
        text "the required provenance reference is not attached to this artifact revision" }
  else if cited.any fun record => record.resolution == .rejected then
    { code := .provenanceMismatch,
      detail := text "the required provenance reference was rejected by its source system" }
  else {}

def checkProvenanceResolved (context : GateContext) : GateFinding :=
  let records := context.artifact.provenance
  if records.isEmpty then
    { code := .provenanceMissing,
      detail := text "the artifact revision carries no provenance references" }
  else if records.any fun record => record.resolution == .rejected then
    { code := .provenanceMismatch,
      detail := text "a provenance reference was rejected by its source system" }
  else if records.any fun record => record.resolution != .resolved then
    { code := .provenanceMissing,
      detail := text "a provenance reference has not been resolved by its source system" }
  else {}

def checkCompatibility (context : GateContext) (gate : Gate) : GateFinding :=
  if context.state.compatibilityGeneration ≠ gate.requiredCompatibilityGeneration then
    { code := .compatibilityFailed,
      detail := text "compatibility generation " ++ context.state.compatibilityGeneration.toText ++
        text " does not match the generation the policy requires (" ++
        gate.requiredCompatibilityGeneration.toText ++ text ")" }
  else {}

def checkEnvironment (context : GateContext) (gate : Gate) : GateFinding :=
  let found := context.resolveGateEvidence gate
  if found.code ≠ .ok then found
  else
    match found.referenced with
    | none => {}
    | some record =>
        if record.environment ≠ gate.requiredEnvironment then
          ⟨.environmentMismatch, text "evidence was produced in environment '" ++
            record.environment ++ text "' but the policy requires '" ++
            gate.requiredEnvironment ++ text "'", some record⟩
        else {}

def checkApproval (context : GateContext) (gate : Gate) : GateFinding :=
  let found := context.resolveGateEvidence gate
  if found.code = .ok then {}
  else if found.code = .policyViolation then { found with code := .approvalRequired }
  else found

def checkPolicyGeneration (context : GateContext) : GateFinding :=
  if !context.request.authority.epoch.valid then
    { code := .staleCoordinatorEpoch, detail := text "the request carries no coordinator epoch" }
  else if context.policyGeneration ≠ context.state.activePolicyGeneration then
    { code := .policyGenerationStale,
      detail := text "the decision was formed under policy generation " ++
        context.policyGeneration.toText ++ text " but the active generation is " ++
        context.state.activePolicyGeneration.toText }
  else {}

def checkCoordinatorEpoch (context : GateContext) : GateFinding :=
  if context.request.authority.coordinator ≠ context.state.coordinator then
    { code := .staleCoordinatorEpoch,
      detail := text "the request was addressed to a different coordinator identity" }
  else if context.request.authority.epoch ≠ context.state.epoch then
    { code := .staleCoordinatorEpoch,
      detail := text "the request carries coordinator epoch " ++
        context.request.authority.epoch.toText ++ text " but the current epoch is " ++
        context.state.epoch.toText }
  else {}

/-- Whether the artifact's reservation belongs to another attempt than the request's. -/
def conflicted (state : CoordinatorState) (id : ArtifactId) (request : PromotionRequest) : Bool :=
  match state.pending[id]? with
  | none => false
  | some pending => !(pending.request == request.request && pending.attempt == request.attempt)

def checkConflict (context : GateContext) : GateFinding :=
  if conflicted context.state context.artifact.id context.request then
    { code := .reservationHeld,
      detail := text "another promotion attempt holds a reservation on this artifact" }
  else {}

/-- The age test of a freshness gate; all arithmetic is on 64-bit unsigned milliseconds. -/
def checkFreshness (context : GateContext) (gate : Gate) (record : EvidenceRecord) :
    Option GateFinding :=
  let produced := record.producedUnixMillis
  if produced > context.now + context.config.futureSkewToleranceMillis then
    some ⟨.evidenceStale,
      text "evidence was produced after the evaluation instant and cannot be trusted", some record⟩
  else if context.now - produced > gate.maxAgeMillis then
    some ⟨.evidenceStale, text "evidence age " ++
      text (toString (context.now - produced).toNat) ++ text " ms exceeds the policy limit " ++
      text (toString gate.maxAgeMillis.toNat) ++ text " ms", some record⟩
  else none

def checkValidityWindow (context : GateContext) (record : EvidenceRecord) : GateFinding :=
  if record.hasValidityWindow && (context.now < record.validFromUnixMillis ||
      context.now > record.validUntilUnixMillis) then
    ⟨.evidenceStale, text "the evaluation instant is outside the evidence validity window",
      some record⟩
  else { referenced := some record }

def checkEvidenceGate (context : GateContext) (gate : Gate) : GateFinding :=
  let found := context.resolveGateEvidence gate
  if found.code ≠ .ok then found
  else
    match found.referenced with
    | none =>
        { code := .evidenceMissing,
          detail := text "no evidence of the required class exists for this artifact revision" }
    | some record =>
        if gate.kind = .evidenceFreshness then
          (context.checkFreshness gate record).getD (context.checkValidityWindow record)
        else context.checkValidityWindow record

/-- The first registered artifact of that name that is not authoritative. -/
def checkDependency (context : GateContext) (dependency : Text) : Option GateFinding :=
  let current := context.state.artifacts.toList.filterMap fun entry => entry.2.getLast?
  let named := current.filter fun record => record.name == dependency
  if named.isEmpty then none
  else if named.any fun record => !record.currentlyAuthoritative then
    some { code := .dependencyVeto,
           detail := text "dependency '" ++ dependency ++
             text "' exists but is not currently promoted" }
  else some {}

/-- Either a finding, or the name of a dependency that was never registered, which ends the
evaluation. -/
def checkDependencies (context : GateContext) : List Text → Except Text GateFinding
  | [] => .ok {}
  | dependency :: rest =>
      match context.checkDependency dependency with
      | none => .error dependency
      | some found => if found.code ≠ .ok then .ok found else context.checkDependencies rest

def checkGate (context : GateContext) (gate : Gate) : Except Text GateFinding :=
  match gate.kind with
  | .artifactIdentity => .ok context.checkArtifactIdentity
  | .evidenceIntegrity => .ok context.checkEvidenceIntegrity
  | .artifactNotQuarantined =>
      .ok (if context.artifact.quarantine.active then
        { code := .artifactQuarantined,
          detail := text "artifact is quarantined: " ++ context.artifact.quarantine.reasonClass }
        else {})
  | .artifactNotRevoked =>
      .ok (if context.artifact.revocation.active then
        { code := .artifactRevoked,
          detail := text "artifact promotion authority was revoked: " ++
            context.artifact.revocation.reasonClass }
        else {})
  | .artifactNotSuperseded =>
      .ok (if context.artifact.supersession.active then
        { code := .artifactSuperseded,
          detail := text "artifact was superseded by a newer artifact" }
        else {})
  | .provenanceRequired => .ok (context.checkProvenanceRequired gate)
  | .provenanceResolved => .ok context.checkProvenanceResolved
  | .compatibilityGenerationCurrent => .ok (context.checkCompatibility gate)
  | .environmentBinding => .ok (context.checkEnvironment gate)
  | .dependentArtifactPromoted => context.checkDependencies context.artifact.dependencies
  | .approvalRequired => .ok (context.checkApproval gate)
  | .securityVetoClear =>
      .ok (if context.vetoes.securityVeto then
        { code := .securityVeto,
          detail := text "an open security veto blocks promotion: " ++
            context.vetoes.securityReason }
        else {})
  | .dependencyVetoClear =>
      .ok (if context.vetoes.dependencyVeto then
        { code := .dependencyVeto,
          detail := text "an open dependency veto blocks promotion: " ++
            context.vetoes.dependencyReason }
        else {})
  | .policyGenerationCurrent => .ok context.checkPolicyGeneration
  | .coordinatorEpochCurrent => .ok context.checkCoordinatorEpoch
  | .noConflictingTransition => .ok context.checkConflict
  | .evidenceRequired | .evidenceFreshness => .ok (context.checkEvidenceGate gate)
  | .invalid => .ok { code := .invalidEnum, detail := text "policy contains an invalid gate" }
  | .unnamed _ _ => .ok {}

def satisfied (context : GateContext) (gate : Gate) : Bool :=
  match context.checkGate gate with
  | .ok found => found.code == .ok
  | .error _ => false

end GateContext

structure GateOutcome where
  outcome : PromotionOutcome := .promotionIneligible
  failed : Bool := false
deriving DecidableEq

namespace PromotionDecision

def addReason (decision : PromotionDecision) (reason : Reason) : PromotionDecision :=
  { decision with reasons := decision.reasons ++ [reason] }

def addGate (decision : PromotionDecision) (explanation : GateExplanation) : PromotionDecision :=
  { decision with gates := decision.gates ++ [explanation] }

def addFailure (decision : PromotionDecision) (gate : Gate) (found : GateFinding) :
    PromotionDecision :=
  let explained := decision.addGate
    { kind := gate.kind, label := gate.label
      status := if found.code = .evidenceMissing || found.code = .provenanceMissing then .unknown
        else .failed
      code := found.code, detail := found.detail }
  let reasoned := explained.addReason (.of found.code found.detail gate.label)
  match found.referenced with
  | none => reasoned
  | some record =>
      { reasoned with
        findings := reasoned.findings ++ [
          { id := record.id, type := record.type, customType := record.customType,
            generation := record.generation, result := record.result,
            subjectDigest := record.subjectDigest, subjectRevision := record.subjectRevision,
            code := found.code, detail := found.detail }] }

/-- Records a dependency that was never registered. -/
def addUnregistered (decision : PromotionDecision) (gate : Gate) (dependency : Text) :
    PromotionDecision :=
  (decision.addGate
    { kind := gate.kind, label := gate.label, status := .unknown, code := .orderingViolation
      detail := text "dependency '" ++ dependency ++ text "' has never been registered" }).addReason
    (.of .orderingViolation (text "a declared dependency has never been registered") dependency)

end PromotionDecision

/-- The loop over the requirements of a rule; the first failure fixes the outcome. -/
def evaluateRequirements (context : GateContext) :
    List Gate → GateOutcome → PromotionDecision → GateOutcome × PromotionDecision
  | [], result, decision => (result, decision)
  | gate :: rest, result, decision =>
      match context.checkGate gate with
      | .error dependency =>
          (⟨.provenanceMissing, true⟩, decision.addUnregistered gate dependency)
      | .ok found =>
          if found.code ≠ .ok then
            let result := if result.failed then result
              else ⟨outcomeForRequirement (gateErrorCode gate.kind found.code), true⟩
            evaluateRequirements context rest result (decision.addFailure gate found)
          else
            evaluateRequirements context rest result (decision.addGate
              { kind := gate.kind, label := gate.label, status := .satisfied })

theorem evaluateRequirements_decision (context : GateContext) (gates : List Gate)
    (result : GateOutcome) (decision : PromotionDecision) :
    ∃ explanations findings reasons,
      (evaluateRequirements context gates result decision).2 =
        { decision with gates := explanations, findings, reasons } := by
  induction gates generalizing result decision with
  | nil => exact ⟨_, _, _, rfl⟩
  | cons gate rest ih =>
      simp only [evaluateRequirements]
      cases context.checkGate gate with
      | error dependency => exact ⟨_, _, _, rfl⟩
      | ok found =>
          dsimp only
          split
          · obtain ⟨explanations, findings, reasons, same⟩ :=
              ih (if result.failed then result
                else ⟨outcomeForRequirement (gateErrorCode gate.kind found.code), true⟩)
                (decision.addFailure gate found)
            refine ⟨explanations, findings, reasons, same.trans ?_⟩
            unfold PromotionDecision.addFailure
            cases found.referenced <;> rfl
          · obtain ⟨explanations, findings, reasons, same⟩ := ih result
              (decision.addGate { kind := gate.kind, label := gate.label, status := .satisfied })
            exact ⟨explanations, findings, reasons, same⟩

theorem evaluateRequirements_id (context : GateContext) (gates : List Gate)
    (result : GateOutcome) (decision : PromotionDecision) :
    (evaluateRequirements context gates result decision).2.id = decision.id := by
  obtain ⟨explanations, findings, reasons, same⟩ :=
    evaluateRequirements_decision context gates result decision
  rw [same]

theorem evaluateRequirements_failed (context : GateContext) (gates : List Gate)
    (result : GateOutcome) (decision : PromotionDecision) :
    (evaluateRequirements context gates result decision).1.failed = false ↔
      result.failed = false ∧ ∀ gate ∈ gates, context.satisfied gate = true := by
  induction gates generalizing result decision with
  | nil => simp [evaluateRequirements]
  | cons gate rest ih =>
      simp only [evaluateRequirements, List.forall_mem_cons]
      cases checked : context.checkGate gate with
      | error dependency => simp [GateContext.satisfied, checked]
      | ok found =>
          dsimp only
          split
          · rename_i violated
            have kept : (if result.failed then result
                else ⟨outcomeForRequirement (gateErrorCode gate.kind found.code), true⟩ :
                GateOutcome).failed = true := by
              split
              · assumption
              · rfl
            simp [ih, kept, GateContext.satisfied, checked, violated]
          · rename_i met
            have met : found.code = .ok := not_not.mp met
            simp [ih, GateContext.satisfied, checked, met]

def PromotionDecision.bindArtifact (decision : PromotionDecision) (artifact : ArtifactRecord)
    (requestedStage : Stage) : PromotionDecision :=
  { decision with
    artifact := artifact.id
    artifactRevision := artifact.revision
    artifactGeneration := artifact.generation
    artifactDigest := artifact.digest
    artifactKind := artifact.kind
    source := artifact.stage
    target := requestedStage }

structure GateEvaluation where
  result : GateOutcome
  decision : PromotionDecision
  entries : List EvidenceSnapshotEntry

def GateEvaluation.conclude (verdict : GateOutcome × PromotionDecision)
    (entries : List EvidenceSnapshotEntry) : GateEvaluation :=
  ⟨if verdict.1.failed then verdict.1 else ⟨.promotionEligible, false⟩, verdict.2, entries⟩

theorem GateEvaluation.conclude_failed (verdict : GateOutcome × PromotionDecision)
    (entries : List EvidenceSnapshotEntry) :
    (conclude verdict entries).result.failed = verdict.1.failed := by
  unfold conclude
  by_cases violated : verdict.1.failed = true
  · simp [violated]
  · simp [violated]

theorem GateEvaluation.conclude_eligible {verdict : GateOutcome × PromotionDecision}
    {entries : List EvidenceSnapshotEntry} (passed : (conclude verdict entries).result.failed = false) :
    (conclude verdict entries).result.outcome = .promotionEligible := by
  rw [conclude_failed] at passed
  simp [conclude, passed]

def evaluateGates (config : EngineConfig) (state : CoordinatorState) (request : PromotionRequest)
    (now : UInt64) (decision : PromotionDecision) : GateEvaluation :=
  match state.findRevision request.artifact request.expectedRevision with
  | none =>
      ⟨⟨.artifactNotFound, true⟩, decision.addReason (.of .artifactNotFound
        (text "the requested artifact revision is not registered under this coordinator")
        request.artifact.toText), []⟩
  | some artifact =>
      let decision := decision.bindArtifact artifact request.requestedStage
      match state.policy.findRule artifact.kind artifact.stage request.requestedStage with
      | none =>
          let subject := artifact.stage.name ++ text "->" ++ request.requestedStage.name
          if state.policy.graph.hasEdge artifact.stage request.requestedStage then
            ⟨⟨.unsupported, true⟩, decision.addReason (.of .unsupported
              (text "the lifecycle permits this transition but no active policy rule governs it")
              subject), []⟩
          else
            ⟨⟨.transitionIllegal, true⟩, decision.addReason (.of .transitionIllegal
              (text "the lifecycle graph does not permit this transition") subject), []⟩
      | some rule =>
          let entries := snapshotEntries state artifact.id artifact.revision
          let decision := { decision with
            evidenceSnapshotDigest :=
              computeSnapshotDigest artifact.id artifact.revision artifact.digest entries }
          let context : GateContext :=
            ⟨config, state, request, now, artifact, decision.policyGeneration⟩
          .conclude (evaluateRequirements context rule.requirements {} decision) entries

/-- No gate answers with the sentinel outcome or acknowledges a commit. -/
def PromotionOutcome.Reported (outcome : PromotionOutcome) : Prop :=
  outcome ≠ .invalid ∧ outcome ≠ .promotionCommitted

theorem outcomeForRequirement_reported (code : ErrorCode) :
    (outcomeForRequirement code).Reported := by
  cases code <;> exact ⟨by decide, by decide⟩

theorem evaluateRequirements_reported (context : GateContext) (gates : List Gate)
    (result : GateOutcome) (decision : PromotionDecision) (reported : result.outcome.Reported) :
    (evaluateRequirements context gates result decision).1.outcome.Reported := by
  induction gates generalizing result decision with
  | nil => exact reported
  | cons gate rest ih =>
      simp only [evaluateRequirements]
      cases context.checkGate gate with
      | error dependency => simp [PromotionOutcome.Reported]
      | ok found =>
          dsimp only
          split
          · apply ih
            split
            · exact reported
            · exact outcomeForRequirement_reported _
          · exact ih _ _ reported

theorem evaluateGates_reported (config : EngineConfig) (state : CoordinatorState)
    (request : PromotionRequest) (now : UInt64) (decision : PromotionDecision) :
    (evaluateGates config state request now decision).result.outcome.Reported := by
  unfold evaluateGates
  cases state.findRevision request.artifact request.expectedRevision with
  | none => simp [PromotionOutcome.Reported]
  | some artifact =>
      cases governed : state.policy.findRule artifact.kind artifact.stage request.requestedStage with
      | none =>
          simp only [governed]
          split <;> simp [PromotionOutcome.Reported]
      | some rule =>
          simp only [governed, GateEvaluation.conclude]
          split
          · exact evaluateRequirements_reported _ _ _ _ ⟨by decide, by decide⟩
          · simp [PromotionOutcome.Reported]

theorem outcomeForRequirement_unsuccessful (code : ErrorCode) :
    isSuccessOutcome (outcomeForRequirement code) = false := by
  cases code <;> rfl

theorem evaluateRequirements_unsuccessful (context : GateContext) (gates : List Gate)
    (result : GateOutcome) (decision : PromotionDecision)
    (unsuccessful : result.failed = true → isSuccessOutcome result.outcome = false)
    (failed : (evaluateRequirements context gates result decision).1.failed = true) :
    isSuccessOutcome (evaluateRequirements context gates result decision).1.outcome = false := by
  induction gates generalizing result decision with
  | nil => exact unsuccessful failed
  | cons gate rest ih =>
      simp only [evaluateRequirements] at failed ⊢
      cases checked : context.checkGate gate with
      | error dependency => rfl
      | ok found =>
          simp only [checked] at failed ⊢
          split at failed
          · rename_i violated
            rw [if_pos violated]
            refine ih _ _ ?_ failed
            intro _
            split
            · exact unsuccessful ‹_›
            · exact outcomeForRequirement_unsuccessful _
          · rename_i met
            rw [if_neg met]
            exact ih _ _ unsuccessful failed

theorem evaluateGates_unsuccessful {config : EngineConfig} {state : CoordinatorState}
    {request : PromotionRequest} {now : UInt64} {decision : PromotionDecision}
    (failed : (evaluateGates config state request now decision).result.failed = true) :
    isSuccessOutcome (evaluateGates config state request now decision).result.outcome = false := by
  unfold evaluateGates at failed ⊢
  cases found : state.findRevision request.artifact request.expectedRevision with
  | none => rfl
  | some artifact =>
      cases governed : state.policy.findRule artifact.kind artifact.stage request.requestedStage with
      | none =>
          simp only [governed]
          split <;> rfl
      | some rule =>
          simp only [found, governed] at failed ⊢
          have violated := (GateEvaluation.conclude_failed _ _).symm.trans failed
          simp only [GateEvaluation.conclude, violated, if_true]
          exact evaluateRequirements_unsuccessful _ _ _ _ (by simp) violated

theorem evaluateGates_decision_id (config : EngineConfig) (state : CoordinatorState)
    (request : PromotionRequest) (now : UInt64) (decision : PromotionDecision) :
    (evaluateGates config state request now decision).decision.id = decision.id := by
  unfold evaluateGates
  cases state.findRevision request.artifact request.expectedRevision with
  | none => rfl
  | some artifact =>
      cases governed : state.policy.findRule artifact.kind artifact.stage request.requestedStage with
      | none =>
          simp only [governed]
          split <;> rfl
      | some rule =>
          simp only [governed]
          exact evaluateRequirements_id _ _ _ _

/-- What an evaluation without a failed gate rests on: the revision, the governing rule with every
requirement satisfied, and the decision bound to both. -/
theorem evaluateGates_eligible {config : EngineConfig} {state : CoordinatorState}
    {request : PromotionRequest} {now : UInt64} {decision : PromotionDecision}
    (eligible : (evaluateGates config state request now decision).result.failed = false) :
    ∃ artifact rule, state.findRevision request.artifact request.expectedRevision = some artifact ∧
      state.policy.findRule artifact.kind artifact.stage request.requestedStage = some rule ∧
      (∀ gate ∈ rule.requirements, GateContext.satisfied
        ⟨config, state, request, now, artifact, decision.policyGeneration⟩ gate = true) ∧
      (evaluateGates config state request now decision).result.outcome = .promotionEligible ∧
      (evaluateGates config state request now decision).entries =
        snapshotEntries state artifact.id artifact.revision ∧
      ∃ gates findings reasons, (evaluateGates config state request now decision).decision =
        { decision.bindArtifact artifact request.requestedStage with
          evidenceSnapshotDigest := computeSnapshotDigest artifact.id artifact.revision
            artifact.digest (snapshotEntries state artifact.id artifact.revision)
          gates, findings, reasons } := by
  unfold evaluateGates at eligible ⊢
  cases found : state.findRevision request.artifact request.expectedRevision with
  | none => simp [found] at eligible
  | some artifact =>
      cases governed : state.policy.findRule artifact.kind artifact.stage request.requestedStage with
      | none =>
          simp only [found, governed] at eligible
          split at eligible <;> simp at eligible
      | some rule =>
          simp only [found, governed] at eligible ⊢
          have passed := (GateEvaluation.conclude_failed _ _).symm.trans eligible
          refine ⟨artifact, rule, rfl, governed, ?_, ?_, rfl, ?_⟩
          · exact ((evaluateRequirements_failed _ _ _ _).mp passed).2
          · exact GateEvaluation.conclude_eligible eligible
          · exact evaluateRequirements_decision _ _ _ _

end ArtifactPromotion
