import ArtifactPromotion.Engine.Core

/-! Canonical codecs of the governed records. Each `write` is the bytes the source emits and each
`read` follows the source's reader with its enum, length and count checks. -/

namespace ArtifactPromotion

namespace Codec

def kMaxProvenance : Nat := 64
def kMaxDependencies : Nat := 64
def kMaxGraphEdges : Nat := 64
def kMaxPolicyRules : Nat := 64
def kMaxRuleGates : Nat := 32
def kMaxRulePreferences : Nat := 32
def kMaxDecisionGates : Nat := 64
def kMaxDecisionReasons : Nat := 64
def kMaxDecisionFindings : Nat := 64

/-- The shared shape of the enum readers: an unknown byte is a hard failure. -/
def readEnum {α : Type} (known : Nat → Bool) (ofByte : UInt8 → α) (code : ErrorCode)
    (message : String) : Decode α := do
  let raw ← Reader.u8
  if known raw.toNat then return ofByte raw else Reader.fail code (text message)

def readStage : Decode Stage :=
  readEnum isValidStageValue Stage.ofByte .invalidStage
    "encoded lifecycle stage is not a known stage"

def readOptionalStage : Decode Stage :=
  readEnum (fun raw => raw == 0 || isValidStageValue raw) Stage.ofByte .invalidStage
    "encoded lifecycle stage is not a known stage"

def readKind : Decode ArtifactKind :=
  readEnum isValidArtifactKind ArtifactKind.ofByte .invalidEnum
    "encoded artifact kind is not a known artifact class"

def readEvidenceType : Decode EvidenceType :=
  readEnum isValidEvidenceType EvidenceType.ofByte .invalidEnum
    "encoded evidence type is not a known evidence class"

def readEvidenceResult : Decode EvidenceResult :=
  readEnum isValidEvidenceResult EvidenceResult.ofByte .invalidEnum
    "encoded evidence result is not a known result class"

def readProvenanceResolution : Decode ProvenanceResolution :=
  readEnum (fun raw => raw ≤ 3) ProvenanceResolution.ofByte .invalidEnum
    "encoded provenance resolution is not a known value"

def readGateKind : Decode GateKind :=
  readEnum isValidGateKind GateKind.ofByte .invalidEnum
    "encoded gate kind is not a known gate class"

def readOrderingRule : Decode OrderingRule :=
  readEnum isValidOrderingRule OrderingRule.ofByte .invalidEnum
    "encoded ordering rule is not a known rule"

def readHistoryKind : Decode HistoryEventKind :=
  readEnum (fun raw => raw ≤ 15) HistoryEventKind.ofByte .invalidEnum
    "encoded history event kind is not a known kind"

def readOutcome : Decode PromotionOutcome :=
  readEnum isValidPromotionOutcome PromotionOutcome.ofByte .invalidEnum
    "encoded promotion outcome is not a known outcome"

def readOptionalOutcome : Decode PromotionOutcome :=
  readEnum (fun raw => !(raw != 0 && !isValidPromotionOutcome raw)) PromotionOutcome.ofByte
    .invalidEnum "encoded history outcome is not a known outcome"

def readGateStatus : Decode GateStatus :=
  readEnum (fun raw => raw ≤ 4) GateStatus.ofByte .invalidEnum
    "encoded gate status is not a known status"

def writeErrorCode (code : ErrorCode) : ByteBuffer := Writer.u16 code.ctorIdx.toUInt16

def readErrorCode : Decode ErrorCode := do
  let raw ← Reader.u16
  if raw.toNat > ErrorCode.invariantViolation.ctorIdx then
    Reader.fail .invalidEnum (text "encoded error code is not a known code")
  else return .ofNat raw.toNat

def readList {α : Type} (limit : Nat) (readElement : Decode α) : Decode (List α) := do
  let count ← Reader.count limit
  Reader.elements readElement count

def writeProducer (value : ProducerIncarnation) : ByteBuffer :=
  Writer.identity value.worker ++ Writer.identity value.boot

def readProducer : Decode ProducerIncarnation := do
  let worker ← Reader.identity
  let boot ← Reader.identity
  let value : ProducerIncarnation := { worker, boot }
  if !value.valid then
    Reader.fail .invalidIdentity
      (text "encoded producer incarnation has a boot identity without a worker identity")
  else return value

def writeProvenance (value : ProvenanceRecord) (limit : Nat) : ByteBuffer :=
  Writer.identity value.reference ++ Writer.text value.source limit ++
    Writer.text value.subject limit ++ Writer.u8 value.resolution.toByte

def readProvenance (limit : Nat) : Decode ProvenanceRecord := do
  let reference ← Reader.identity
  let source ← Reader.text limit
  let subject ← Reader.text limit
  let resolution ← readProvenanceResolution
  return { reference, source, subject, resolution }

def writeEdge (edge : Edge) : ByteBuffer :=
  Writer.u8 edge.source.toByte ++ Writer.u8 edge.target.toByte

def writeLifecycleGraph (value : LifecycleGraph) : ByteBuffer := Writer.list value.edges writeEdge

def readEdges : Nat → LifecycleGraph → Decode LifecycleGraph
  | 0, graph => return graph
  | count + 1, graph => do
      let source ← readStage
      let target ← readStage
      if source = .invalid || target = .invalid then
        Reader.fail .invalidStage (text "encoded lifecycle graph contains the INVALID stage")
      else
        let (added, graph) := graph.addEdge source target
        if !added then
          Reader.fail .invalidTransition
            (text "encoded lifecycle graph contains a duplicate or self-referential edge")
        else readEdges count graph

def readLifecycleGraph : Decode LifecycleGraph := do
  let count ← Reader.count kMaxGraphEdges
  let graph ← readEdges count {}
  return graph.canonicalize

def writeGate (gate : Gate) : ByteBuffer :=
  Writer.u8 gate.kind.toByte ++ Writer.u8 gate.evidenceType.toByte ++
    Writer.text gate.customEvidenceType kMaxNameLength ++ Writer.u64 gate.maxAgeMillis ++
    Writer.counter gate.requiredCompatibilityGeneration ++
    Writer.text gate.requiredEnvironment kMaxTextLength ++
    Writer.identity gate.requiredProvenance ++ Writer.text gate.label kMaxNameLength

def readGateEvidenceType : Decode EvidenceType :=
  readEnum (fun raw => raw == 0 || isValidEvidenceType raw) EvidenceType.ofByte .invalidEnum
    "encoded evidence type is not a known evidence class"

def readGate : Decode Gate := do
  let kind ← readGateKind
  let evidenceType ← readGateEvidenceType
  let customEvidenceType ← Reader.text kMaxNameLength
  let maxAgeMillis ← Reader.u64
  let requiredCompatibilityGeneration ← Reader.counter
  let requiredEnvironment ← Reader.text kMaxTextLength
  let requiredProvenance ← Reader.identity
  let label ← Reader.text kMaxNameLength
  let gate : Gate :=
    { kind, evidenceType, customEvidenceType, maxAgeMillis, requiredCompatibilityGeneration,
      requiredEnvironment, requiredProvenance, label }
  match gate.validate with
  | .error status =>
      Reader.fail .persistenceCorrupt (text "decoded policy gate is not valid: " ++ status.render)
  | .ok () => return gate

def scopeByte (rule : PolicyRule) : UInt8 := if rule.hasKindScope then rule.kindScope.toByte else 0

def writeRule (rule : PolicyRule) : ByteBuffer :=
  Writer.boolean rule.hasKindScope ++ Writer.u8 (scopeByte rule) ++
    Writer.u8 rule.source.toByte ++ Writer.u8 rule.target.toByte ++
    Writer.u8 rule.ordering.toByte ++ Writer.boolean rule.allowIdempotentReplay ++
    Writer.boolean rule.allowRollbackEligibility ++ Writer.boolean rule.supersedesPrevious ++
    Writer.u32 rule.requirements.length.toUInt32 ++ Writer.u32 rule.preferences.length.toUInt32 ++
    rule.requirements.flatMap writeGate ++
    rule.preferences.flatMap fun kind => Writer.u8 kind.toByte

def readScope (hasKindScope : Bool) : Decode ArtifactKind := do
  let raw ← Reader.u8
  if raw = 0 then
    if hasKindScope then
      Reader.fail .persistenceCorrupt
        (text "policy rule claims an artifact class scope but carries the empty sentinel")
    else return .invalid
  else if !isValidArtifactKind raw.toNat then
    Reader.fail .invalidEnum (text "encoded artifact kind is not a known artifact class")
  else if !hasKindScope then
    Reader.fail .persistenceCorrupt
      (text "policy rule carries an artifact class without a scope flag")
  else return .ofByte raw

def readRule : Decode PolicyRule := do
  let hasKindScope ← Reader.boolean
  let kindScope ← readScope hasKindScope
  let source ← readStage
  let target ← readStage
  let ordering ← readOrderingRule
  let allowIdempotentReplay ← Reader.boolean
  let allowRollbackEligibility ← Reader.boolean
  let supersedesPrevious ← Reader.boolean
  let requirementCount ← Reader.count kMaxRuleGates
  let preferenceCount ← Reader.count kMaxRulePreferences
  let requirements ← Reader.elements readGate requirementCount
  let preferences ← Reader.elements readGateKind preferenceCount
  return { hasKindScope, kindScope, source, target, requirements, preferences, ordering,
           allowIdempotentReplay, allowRollbackEligibility, supersedesPrevious }

def writePolicy (value : PromotionPolicy) : ByteBuffer :=
  Writer.identity value.id ++ Writer.counter value.generation ++
    Writer.text value.name kMaxNameLength ++ Writer.text value.description kMaxTextLength ++
    Writer.u8 value.entryStage.toByte ++ writeLifecycleGraph value.graph ++
    Writer.digest value.policyDigest ++ Writer.list value.rules writeRule

def readPolicy : Decode PromotionPolicy := do
  let id ← Reader.identity
  let generation ← Reader.counter
  let name ← Reader.text kMaxNameLength
  let description ← Reader.text kMaxTextLength
  let entryStage ← readStage
  let graph ← readLifecycleGraph
  let policyDigest ← Reader.digest
  let rules ← readList kMaxPolicyRules readRule
  return { id, generation, name, description, graph, entryStage, rules, policyDigest }

def writeQuarantine (value : QuarantineRecord) : ByteBuffer :=
  Writer.boolean value.active ++ Writer.text value.reasonClass kMaxNameLength ++
    Writer.text value.detail kMaxTextLength ++ Writer.identity value.authority ++
    Writer.counter value.sequence ++ Writer.counter value.policyGeneration

def readQuarantine : Decode QuarantineRecord := do
  let active ← Reader.boolean
  let reasonClass ← Reader.text kMaxNameLength
  let detail ← Reader.text kMaxTextLength
  let authority ← Reader.identity
  let sequence ← Reader.counter
  let policyGeneration ← Reader.counter
  return { active, reasonClass, detail, authority, sequence, policyGeneration }

def writeRevocation (value : RevocationRecord) : ByteBuffer :=
  Writer.boolean value.active ++ Writer.identity value.decision ++
    Writer.text value.reasonClass kMaxNameLength ++ Writer.text value.detail kMaxTextLength ++
    Writer.identity value.authority ++ Writer.counter value.sequence ++
    Writer.counter value.policyGeneration ++ Writer.identity value.cause

def readRevocation : Decode RevocationRecord := do
  let active ← Reader.boolean
  let decision ← Reader.identity
  let reasonClass ← Reader.text kMaxNameLength
  let detail ← Reader.text kMaxTextLength
  let authority ← Reader.identity
  let sequence ← Reader.counter
  let policyGeneration ← Reader.counter
  let cause ← Reader.identity
  return { active, decision, reasonClass, detail, authority, sequence, policyGeneration, cause }

def writeSupersession (value : SupersessionRecord) : ByteBuffer :=
  Writer.boolean value.active ++ Writer.identity value.successor ++
    Writer.identity value.successorRevision ++ Writer.text value.reason kMaxTextLength ++
    Writer.identity value.authority ++ Writer.counter value.sequence

def readSupersession : Decode SupersessionRecord := do
  let active ← Reader.boolean
  let successor ← Reader.identity
  let successorRevision ← Reader.identity
  let reason ← Reader.text kMaxTextLength
  let authority ← Reader.identity
  let sequence ← Reader.counter
  return { active, successor, successorRevision, reason, authority, sequence }

def writeArtifact (value : ArtifactRecord) : ByteBuffer :=
  Writer.identity value.id ++ Writer.identity value.revision ++ Writer.counter value.generation ++
    Writer.u8 value.kind.toByte ++ Writer.digest value.digest ++ Writer.u64 value.sizeBytes ++
    Writer.text value.name kMaxNameLength ++ writeProducer value.producer ++
    Writer.counter value.createdSequence ++ Writer.u64 value.createdUnixMillis ++
    Writer.list value.provenance (fun record => writeProvenance record kMaxReferenceLength) ++
    Writer.list value.dependencies (fun name => Writer.text name kMaxNameLength) ++
    Writer.u8 value.stage.toByte ++ Writer.counter value.stageGeneration ++
    Writer.boolean value.promoted ++ Writer.identity value.promotionDecision ++
    Writer.identity value.promotionAuthority ++ Writer.counter value.promotionSequence ++
    Writer.counter value.lastSequence ++ writeQuarantine value.quarantine ++
    writeRevocation value.revocation ++ writeSupersession value.supersession

def readArtifact : Decode ArtifactRecord := do
  let id ← Reader.identity
  let revision ← Reader.identity
  let generation ← Reader.counter
  let kind ← readKind
  let digest ← Reader.digest
  let sizeBytes ← Reader.u64
  let name ← Reader.text kMaxNameLength
  let producer ← readProducer
  let createdSequence ← Reader.counter
  let createdUnixMillis ← Reader.u64
  let provenance ← readList kMaxProvenance (readProvenance kMaxReferenceLength)
  let dependencies ← readList kMaxDependencies (Reader.text kMaxNameLength)
  let stage ← readStage
  let stageGeneration ← Reader.counter
  let promoted ← Reader.boolean
  let promotionDecision ← Reader.identity
  let promotionAuthority ← Reader.identity
  let promotionSequence ← Reader.counter
  let lastSequence ← Reader.counter
  let quarantine ← readQuarantine
  let revocation ← readRevocation
  let supersession ← readSupersession
  let value : ArtifactRecord :=
    { id, revision, generation, kind, digest, sizeBytes, name, producer, createdSequence,
      createdUnixMillis, provenance, dependencies, stage, stageGeneration, promoted,
      promotionDecision, promotionAuthority, promotionSequence, lastSequence, quarantine,
      revocation, supersession }
  if !value.valid then
    Reader.fail .persistenceCorrupt (text "decoded artifact record fails its own validity rules")
  else return value

def writeEvidence (value : EvidenceRecord) : ByteBuffer :=
  Writer.identity value.id ++ Writer.u8 value.type.toByte ++
    Writer.text value.customType kMaxNameLength ++ Writer.counter value.generation ++
    Writer.identity value.subject ++ Writer.digest value.subjectDigest ++
    Writer.identity value.subjectRevision ++ writeProducer value.producer ++
    Writer.u8 value.result.toByte ++ Writer.u32 value.confidenceMilli ++
    Writer.text value.measurement kMaxTextLength ++ Writer.text value.detail kMaxTextLength ++
    Writer.digest value.payloadDigest ++ Writer.digest value.integrityDigest ++
    Writer.identity value.provenance ++ Writer.counter value.createdSequence ++
    Writer.u64 value.producedUnixMillis ++ Writer.boolean value.hasValidityWindow ++
    Writer.u64 value.validFromUnixMillis ++ Writer.u64 value.validUntilUnixMillis ++
    Writer.text value.environment kMaxTextLength ++ Writer.boolean value.revoked ++
    Writer.text value.revocationReason kMaxTextLength ++
    Writer.identity value.revocationAuthority ++ Writer.counter value.revocationSequence ++
    Writer.boolean value.superseded ++ Writer.identity value.supersededBy

def readEvidence : Decode EvidenceRecord := do
  let id ← Reader.identity
  let type ← readEvidenceType
  let customType ← Reader.text kMaxNameLength
  let generation ← Reader.counter
  let subject ← Reader.identity
  let subjectDigest ← Reader.digest
  let subjectRevision ← Reader.identity
  let producer ← readProducer
  let result ← readEvidenceResult
  let confidenceMilli ← Reader.u32
  let measurement ← Reader.text kMaxTextLength
  let detail ← Reader.text kMaxTextLength
  let payloadDigest ← Reader.digest
  let integrityDigest ← Reader.digest
  let provenance ← Reader.identity
  let createdSequence ← Reader.counter
  let producedUnixMillis ← Reader.u64
  let hasValidityWindow ← Reader.boolean
  let validFromUnixMillis ← Reader.u64
  let validUntilUnixMillis ← Reader.u64
  let environment ← Reader.text kMaxTextLength
  let revoked ← Reader.boolean
  let revocationReason ← Reader.text kMaxTextLength
  let revocationAuthority ← Reader.identity
  let revocationSequence ← Reader.counter
  let superseded ← Reader.boolean
  let supersededBy ← Reader.identity
  let value : EvidenceRecord :=
    { id, type, generation, customType, subject, subjectDigest, subjectRevision, producer, result,
      confidenceMilli, measurement, detail, payloadDigest, integrityDigest, provenance,
      createdSequence, producedUnixMillis, hasValidityWindow, validFromUnixMillis,
      validUntilUnixMillis, environment, revoked, revocationReason, revocationAuthority,
      revocationSequence, superseded, supersededBy }
  if !value.valid then
    Reader.fail .persistenceCorrupt (text "decoded evidence record fails its own validity rules")
  else if computeEvidenceIntegrity value ≠ value.integrityDigest then
    Reader.fail .persistenceCorrupt (text "decoded evidence record fails its integrity check")
  else return value

def writeAuthority (value : CoordinatorAuthority) : ByteBuffer :=
  Writer.identity value.coordinator ++ Writer.counter value.epoch

def readAuthority : Decode CoordinatorAuthority := do
  let coordinator ← Reader.identity
  let epoch ← Reader.counter
  return { coordinator, epoch }

def writePlan (value : PromotionPlan) : ByteBuffer :=
  Writer.identity value.id ++ Writer.identity value.request ++ Writer.identity value.attempt ++
    Writer.identity value.decision ++ Writer.identity value.artifact ++
    Writer.identity value.artifactRevision ++ Writer.counter value.artifactGeneration ++
    Writer.digest value.artifactDigest ++ Writer.u8 value.artifactKind.toByte ++
    Writer.u8 value.source.toByte ++ Writer.u8 value.target.toByte ++
    Writer.counter value.stageGeneration ++ Writer.identity value.policy ++
    Writer.counter value.policyGeneration ++ Writer.digest value.policyDigest ++
    Writer.digest value.lifecycleDigest ++ writeAuthority value.authority ++
    Writer.digest value.evidenceSnapshotDigest ++ Writer.u32 value.evidenceEntryCount.toUInt32 ++
    Writer.identity value.compatibilityProfile ++ Writer.counter value.compatibilityGeneration ++
    Writer.counter value.artifactSequence ++ Writer.counter value.createdSequence ++
    Writer.counter value.decisionSequence ++ Writer.boolean value.hasExpiry ++
    Writer.u64 value.expiresUnixMillis

def readPlan : Decode PromotionPlan := do
  let id ← Reader.identity
  let request ← Reader.identity
  let attempt ← Reader.identity
  let decision ← Reader.identity
  let artifact ← Reader.identity
  let artifactRevision ← Reader.identity
  let artifactGeneration ← Reader.counter
  let artifactDigest ← Reader.digest
  let artifactKind ← readKind
  let source ← readStage
  let target ← readStage
  let stageGeneration ← Reader.counter
  let policy ← Reader.identity
  let policyGeneration ← Reader.counter
  let policyDigest ← Reader.digest
  let lifecycleDigest ← Reader.digest
  let authority ← readAuthority
  let evidenceSnapshotDigest ← Reader.digest
  let entryCount ← Reader.u32
  let compatibilityProfile ← Reader.identity
  let compatibilityGeneration ← Reader.counter
  let artifactSequence ← Reader.counter
  let createdSequence ← Reader.counter
  let decisionSequence ← Reader.counter
  let hasExpiry ← Reader.boolean
  let expiresUnixMillis ← Reader.u64
  let value : PromotionPlan :=
    { id, request, attempt, decision, artifact, artifactRevision, artifactGeneration,
      artifactDigest, artifactKind, source, target, stageGeneration, policy, policyGeneration,
      policyDigest, lifecycleDigest, authority, evidenceSnapshotDigest,
      evidenceEntryCount := entryCount.toUInt64, compatibilityProfile, compatibilityGeneration,
      artifactSequence, createdSequence, decisionSequence, hasExpiry, expiresUnixMillis }
  if !value.valid then
    Reader.fail .persistenceCorrupt (text "decoded promotion plan fails its own validity rules")
  else return value

def writeGateExplanation (gate : GateExplanation) : ByteBuffer :=
  Writer.u8 gate.kind.toByte ++ Writer.text gate.label kMaxNameLength ++
    Writer.u8 gate.status.toByte ++ writeErrorCode gate.code ++
    Writer.text gate.detail kMaxTextLength

def readGateExplanation : Decode GateExplanation := do
  let kind ← readGateKind
  let label ← Reader.text kMaxNameLength
  let status ← readGateStatus
  let code ← readErrorCode
  let detail ← Reader.text kMaxTextLength
  return { kind, label, status, code, detail }

def writeFinding (finding : EvidenceFinding) : ByteBuffer :=
  Writer.identity finding.id ++ Writer.u8 finding.type.toByte ++
    Writer.text finding.customType kMaxNameLength ++ Writer.counter finding.generation ++
    Writer.u8 finding.result.toByte ++ Writer.digest finding.subjectDigest ++
    Writer.identity finding.subjectRevision ++ writeErrorCode finding.code ++
    Writer.text finding.detail kMaxTextLength

def readFinding : Decode EvidenceFinding := do
  let id ← Reader.identity
  let type ← readEvidenceType
  let customType ← Reader.text kMaxNameLength
  let generation ← Reader.counter
  let result ← readEvidenceResult
  let subjectDigest ← Reader.digest
  let subjectRevision ← Reader.identity
  let code ← readErrorCode
  let detail ← Reader.text kMaxTextLength
  return { id, type, customType, generation, result, subjectDigest, subjectRevision, code, detail }

def writeReason (reason : Reason) : ByteBuffer :=
  writeErrorCode reason.code ++ Writer.text reason.text.view kMaxTextLength ++
    Writer.text reason.subject kMaxReferenceLength

/-- The reason text passes through a C string, which ends at its first zero byte. -/
def readReason : Decode Reason := do
  let code ← readErrorCode
  let message ← Reader.text StaticString.kCapacity
  let subject ← Reader.text kMaxReferenceLength
  return { code, text := .ofCString message, subject }

def writeDecision (value : PromotionDecision) : ByteBuffer :=
  Writer.identity value.id ++ Writer.identity value.request ++ Writer.identity value.attempt ++
    Writer.identity value.artifact ++ Writer.identity value.artifactRevision ++
    Writer.counter value.artifactGeneration ++ Writer.digest value.artifactDigest ++
    Writer.u8 value.artifactKind.toByte ++ Writer.u8 value.source.toByte ++
    Writer.u8 value.target.toByte ++ Writer.u8 value.outcome.toByte ++
    Writer.identity value.policy ++ Writer.counter value.policyGeneration ++
    Writer.digest value.policyDigest ++ writeAuthority value.authority ++
    Writer.counter value.sequence ++ Writer.digest value.evidenceSnapshotDigest ++
    Writer.identity value.plan ++ Writer.boolean value.authoritative ++
    Writer.boolean value.decidedUnixMillis.isSome ++
    Writer.u64 (value.decidedUnixMillis.getD 0) ++
    Writer.list value.gates writeGateExplanation ++ Writer.list value.findings writeFinding ++
    Writer.list value.reasons writeReason

def readDecision : Decode PromotionDecision := do
  let id ← Reader.identity
  let request ← Reader.identity
  let attempt ← Reader.identity
  let artifact ← Reader.identity
  let artifactRevision ← Reader.identity
  let artifactGeneration ← Reader.counter
  let artifactDigest ← Reader.digest
  let artifactKind ← readKind
  let source ← readStage
  let target ← readStage
  let outcome ← readOutcome
  let policy ← Reader.identity
  let policyGeneration ← Reader.counter
  let policyDigest ← Reader.digest
  let authority ← readAuthority
  let sequence ← Reader.counter
  let evidenceSnapshotDigest ← Reader.digest
  let plan ← Reader.identity
  let authoritative ← Reader.boolean
  let hasDecided ← Reader.boolean
  let decided ← Reader.u64
  let gates ← readList kMaxDecisionGates readGateExplanation
  let findings ← readList kMaxDecisionFindings readFinding
  let reasons ← readList kMaxDecisionReasons readReason
  return { id, request, attempt, artifact, artifactRevision, artifactGeneration, artifactDigest,
           artifactKind, source, target, outcome, policy, policyGeneration, policyDigest,
           authority, sequence, evidenceSnapshotDigest, gates, findings, reasons, plan,
           authoritative, decidedUnixMillis := if hasDecided then some decided else none }

def writePromotionRecord (value : PromotionRecord) : ByteBuffer :=
  Writer.identity value.transition ++ Writer.identity value.artifact ++
    Writer.identity value.artifactRevision ++ Writer.digest value.artifactDigest ++
    Writer.u8 value.source.toByte ++ Writer.u8 value.target.toByte ++
    Writer.identity value.decision ++ Writer.identity value.plan ++
    Writer.identity value.request ++ Writer.identity value.attempt ++
    Writer.identity value.policy ++ Writer.counter value.policyGeneration ++
    writeAuthority value.authority ++ Writer.digest value.evidenceSnapshotDigest ++
    Writer.counter value.sequence ++ Writer.u64 value.committedUnixMillis ++
    Writer.text value.note kMaxTextLength

def readPromotionRecord : Decode PromotionRecord := do
  let transition ← Reader.identity
  let artifact ← Reader.identity
  let artifactRevision ← Reader.identity
  let artifactDigest ← Reader.digest
  let source ← readStage
  let target ← readStage
  let decision ← Reader.identity
  let plan ← Reader.identity
  let request ← Reader.identity
  let attempt ← Reader.identity
  let policy ← Reader.identity
  let policyGeneration ← Reader.counter
  let authority ← readAuthority
  let evidenceSnapshotDigest ← Reader.digest
  let sequence ← Reader.counter
  let committedUnixMillis ← Reader.u64
  let note ← Reader.text kMaxTextLength
  return { transition, artifact, artifactRevision, artifactDigest, source, target, decision, plan,
           request, attempt, policy, policyGeneration, authority, evidenceSnapshotDigest, sequence,
           committedUnixMillis, note }

def writeIdempotency (value : IdempotencyRecord) : ByteBuffer :=
  Writer.identity value.request ++ Writer.identity value.attempt ++
    Writer.identity value.decision ++ Writer.u8 value.outcome.toByte ++
    Writer.identity value.plan ++ Writer.digest value.requestDigest ++
    Writer.counter value.createdSequence

def readIdempotency : Decode IdempotencyRecord := do
  let request ← Reader.identity
  let attempt ← Reader.identity
  let decision ← Reader.identity
  let outcome ← readOutcome
  let plan ← Reader.identity
  let requestDigest ← Reader.digest
  let createdSequence ← Reader.counter
  return { request, attempt, decision, outcome, plan, requestDigest, createdSequence }

def writeHistoryEvent (value : HistoryEvent) : ByteBuffer :=
  Writer.counter value.sequence ++ Writer.u8 value.kind.toByte ++
    Writer.identity value.artifact ++ Writer.identity value.artifactRevision ++
    Writer.identity value.evidence ++ Writer.identity value.decision ++
    Writer.u8 value.outcome.toByte ++ Writer.u8 value.source.toByte ++
    Writer.u8 value.target.toByte ++ writeAuthority value.authority ++
    Writer.text value.note kMaxTextLength

def readHistoryEvent : Decode HistoryEvent := do
  let sequence ← Reader.counter
  let kind ← readHistoryKind
  let artifact ← Reader.identity
  let artifactRevision ← Reader.identity
  let evidence ← Reader.identity
  let decision ← Reader.identity
  let outcome ← readOptionalOutcome
  let source ← readOptionalStage
  let target ← readOptionalStage
  let authority ← readAuthority
  let note ← Reader.text kMaxTextLength
  return { sequence, kind, artifact, artifactRevision, evidence, decision, outcome, source, target,
           authority, note }

def writeVeto (value : VetoState) : ByteBuffer :=
  Writer.boolean value.securityVeto ++ Writer.text value.securityReason kMaxTextLength ++
    Writer.boolean value.dependencyVeto ++ Writer.text value.dependencyReason kMaxTextLength

def readVeto : Decode VetoState := do
  let securityVeto ← Reader.boolean
  let securityReason ← Reader.text kMaxTextLength
  let dependencyVeto ← Reader.boolean
  let dependencyReason ← Reader.text kMaxTextLength
  return { securityVeto, securityReason, dependencyVeto, dependencyReason }

end Codec

end ArtifactPromotion
