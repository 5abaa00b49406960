import ArtifactPromotion.Domain.Evidence

/-! Versioned promotion policies: gates, rules, validation, digest and the reference policy. -/

namespace ArtifactPromotion

inductive GateKind where
  | invalid
  | evidenceRequired
  | evidenceFreshness
  | evidenceIntegrity
  | artifactIdentity
  | artifactNotQuarantined
  | artifactNotRevoked
  | artifactNotSuperseded
  | provenanceRequired
  | provenanceResolved
  | compatibilityGenerationCurrent
  | environmentBinding
  | dependentArtifactPromoted
  | approvalRequired
  | securityVetoClear
  | dependencyVetoClear
  | policyGenerationCurrent
  | coordinatorEpochCurrent
  | noConflictingTransition
  | unnamed (raw : UInt8) (outside : 18 < raw)
deriving DecidableEq

namespace GateKind

def toByte : GateKind → UInt8
  | invalid => 0
  | evidenceRequired => 1
  | evidenceFreshness => 2
  | evidenceIntegrity => 3
  | artifactIdentity => 4
  | artifactNotQuarantined => 5
  | artifactNotRevoked => 6
  | artifactNotSuperseded => 7
  | provenanceRequired => 8
  | provenanceResolved => 9
  | compatibilityGenerationCurrent => 10
  | environmentBinding => 11
  | dependentArtifactPromoted => 12
  | approvalRequired => 13
  | securityVetoClear => 14
  | dependencyVetoClear => 15
  | policyGenerationCurrent => 16
  | coordinatorEpochCurrent => 17
  | noConflictingTransition => 18
  | unnamed raw _ => raw

def ofByte (raw : UInt8) : GateKind :=
  if outside : 18 < raw then .unnamed raw outside
  else match raw.toNat with
    | 1 => evidenceRequired
    | 2 => evidenceFreshness
    | 3 => evidenceIntegrity
    | 4 => artifactIdentity
    | 5 => artifactNotQuarantined
    | 6 => artifactNotRevoked
    | 7 => artifactNotSuperseded
    | 8 => provenanceRequired
    | 9 => provenanceResolved
    | 10 => compatibilityGenerationCurrent
    | 11 => environmentBinding
    | 12 => dependentArtifactPromoted
    | 13 => approvalRequired
    | 14 => securityVetoClear
    | 15 => dependencyVetoClear
    | 16 => policyGenerationCurrent
    | 17 => coordinatorEpochCurrent
    | 18 => noConflictingTransition
    | _ => invalid

@[simp] theorem ofByte_toByte (value : GateKind) : ofByte value.toByte = value := by
  cases value with
  | unnamed raw outside => simp [toByte, ofByte, outside]
  | _ => rfl

end GateKind

def isValidGateKind (raw : Nat) : Bool := 1 ≤ raw && raw ≤ 18

inductive OrderingRule where
  | none
  | lowerCommitSequence
  | higherCommitSequence
  | lexicographicArtifactId
  | lexicographicDigest
  | unnamed (raw : UInt8) (outside : raw > 4)
deriving DecidableEq

namespace OrderingRule

def toByte : OrderingRule → UInt8
  | none => 0
  | lowerCommitSequence => 1
  | higherCommitSequence => 2
  | lexicographicArtifactId => 3
  | lexicographicDigest => 4
  | unnamed raw _ => raw

def ofByte (raw : UInt8) : OrderingRule :=
  if outside : 4 < raw then .unnamed raw outside
  else match raw.toNat with
    | 1 => lowerCommitSequence
    | 2 => higherCommitSequence
    | 3 => lexicographicArtifactId
    | 4 => lexicographicDigest
    | _ => none

@[simp] theorem ofByte_toByte (value : OrderingRule) : ofByte value.toByte = value := by
  cases value with
  | unnamed raw outside => simp [toByte, ofByte, outside]
  | _ => rfl

end OrderingRule

def isValidOrderingRule (raw : Nat) : Bool := raw ≤ 4

structure Gate where
  kind : GateKind := .invalid
  evidenceType : EvidenceType := .invalid
  customEvidenceType : Text := []
  maxAgeMillis : UInt64 := 0
  requiredCompatibilityGeneration : CompatibilityGeneration := {}
  requiredEnvironment : Text := []
  requiredProvenance : ProvenanceRef := {}
  label : Text := []
deriving DecidableEq

namespace Gate

def validateParameters (gate : Gate) : Result Unit :=
  match gate.kind with
  | .evidenceRequired | .evidenceFreshness | .approvalRequired => do
      rejectWhen (!isValidEvidenceType gate.evidenceType.toByte.toNat ||
        gate.evidenceType == .invalid) .invalidEnum "gate requires a specific evidence type"
      rejectWhen (gate.evidenceType == .custom && !isValidName gate.customEvidenceType) .invalidName
        "custom evidence gate requires a valid custom type name"
      rejectWhen (gate.evidenceType != .custom && !gate.customEvidenceType.isEmpty) .invalidArgument
        "built-in evidence gate must not name a custom type"
      rejectWhen (gate.kind == .evidenceFreshness && gate.maxAgeMillis == 0) .invalidArgument
        "freshness gate requires a non-zero maximum age"
  | .environmentBinding => do
      rejectWhen (gate.evidenceType == .invalid ||
        !isValidEvidenceType gate.evidenceType.toByte.toNat) .invalidEnum
        "environment binding gate requires an evidence type"
      rejectWhen (!isValidText gate.requiredEnvironment || gate.requiredEnvironment.isEmpty)
        .invalidName "environment binding gate requires a non-empty environment"
  | .provenanceRequired =>
      rejectWhen gate.requiredProvenance.invalid .invalidIdentity
        "provenance gate requires a provenance reference"
  | .compatibilityGenerationCurrent =>
      rejectWhen (!gate.requiredCompatibilityGeneration.valid) .invalidCount
        "compatibility gate requires a non-zero generation"
  | .invalid => rejectWhen true .invalidEnum "gate kind is INVALID"
  | _ => .ok ()

def validate (gate : Gate) : Result Unit := do
  rejectWhen (!isValidGateKind gate.kind.toByte.toNat) .invalidEnum
    "gate kind is not a known gate class"
  rejectWhen (!isValidText gate.label || gate.label.isEmpty) .invalidName
    "gate label is empty, too long, or contains control characters"
  gate.validateParameters

end Gate

structure PolicyRule where
  hasKindScope : Bool := false
  kindScope : ArtifactKind := .invalid
  source : Stage := .invalid
  target : Stage := .invalid
  requirements : List Gate := []
  preferences : List GateKind := []
  ordering : OrderingRule := .none
  allowIdempotentReplay : Bool := true
  allowRollbackEligibility : Bool := false
  supersedesPrevious : Bool := false
deriving DecidableEq

namespace PolicyRule

def kMaxGates : Nat := 32

def covers (rule : PolicyRule) (kind : ArtifactKind) (source target : Stage) : Bool :=
  rule.source == source && rule.target == target && !(rule.hasKindScope && rule.kindScope != kind)

def checkPreference (kind : GateKind) : Result Unit :=
  rejectWhen (!isValidGateKind kind.toByte.toNat) .invalidEnum
    "policy rule preference references an unknown gate kind"

def validate (rule : PolicyRule) : Result Unit := do
  rejectWhen (rule.source = .invalid || rule.target = .invalid) .invalidStage
    "policy rule references an invalid stage"
  rejectWhen (rule.source = rule.target) .invalidTransition
    "policy rule declares a self transition"
  rejectWhen (rule.hasKindScope && !isValidArtifactKind rule.kindScope.toByte.toNat) .invalidEnum
    "policy rule scope references an unknown artifact kind"
  rejectWhen (rule.requirements.length > kMaxGates) .invalidCount
    "policy rule exceeds the configured gate bound"
  rejectWhen (rule.preferences.length > kMaxGates) .invalidCount
    "policy rule exceeds the configured preference bound"
  rejectWhen (!isValidOrderingRule rule.ordering.toByte.toNat) .invalidEnum
    "policy rule declares an unknown ordering rule"
  checkEach Gate.validate rule.requirements
  checkEach checkPreference rule.preferences

end PolicyRule

structure PromotionPolicy where
  id : PromotionPolicyId := {}
  generation : PolicyGeneration := {}
  name : Text := []
  description : Text := []
  graph : LifecycleGraph := {}
  entryStage : Stage := .candidate
  rules : List PolicyRule := []
  policyDigest : Digest := .zero
deriving DecidableEq

namespace PromotionPolicy

def kMaxRules : Nat := 64

def encodeGate (gate : Gate) : ByteBuffer :=
  Writer.u8 gate.kind.toByte ++ Writer.u8 gate.evidenceType.toByte ++
    Writer.text gate.customEvidenceType kMaxNameLength ++ Writer.u64 gate.maxAgeMillis ++
    Writer.counter gate.requiredCompatibilityGeneration ++ Writer.text gate.requiredEnvironment ++
    Writer.identity gate.requiredProvenance ++ Writer.text gate.label kMaxNameLength

def encodeRule (rule : PolicyRule) : ByteBuffer :=
  Writer.boolean rule.hasKindScope ++ Writer.u8 rule.kindScope.toByte ++
    Writer.u8 rule.source.toByte ++ Writer.u8 rule.target.toByte ++
    Writer.u8 rule.ordering.toByte ++ Writer.boolean rule.allowIdempotentReplay ++
    Writer.boolean rule.allowRollbackEligibility ++ Writer.boolean rule.supersedesPrevious ++
    rule.requirements.flatMap encodeGate ++
    rule.preferences.flatMap fun kind => Writer.u8 kind.toByte

def digestPreimage (policy : PromotionPolicy) : ByteBuffer :=
  Writer.identity policy.id ++ Writer.counter policy.generation ++
    Writer.u8 policy.entryStage.toByte ++
    Writer.list policy.graph.edges (fun edge =>
      Writer.u8 edge.source.toByte ++ Writer.u8 edge.target.toByte) ++
    Writer.list policy.rules encodeRule

def computeDigest (policy : PromotionPolicy) : Digest := sha256 policy.digestPreimage

def checkRule (graph : LifecycleGraph) (rule : PolicyRule) : Result Unit := do
  rule.validate
  rejectWhen (!graph.hasEdge rule.source rule.target) .invalidTransition
    "policy rule declares a transition the lifecycle graph forbids"

def checkHeader (policy : PromotionPolicy) : Result Unit := do
  rejectWhen policy.id.invalid .invalidIdentity "policy identity is the invalid sentinel"
  rejectWhen (!policy.generation.valid) .invalidCount "policy generation must be non-zero"
  rejectWhen (!isValidName policy.name) .invalidName
    "policy name is empty, too long, or malformed"
  rejectWhen (policy.rules.length > kMaxRules) .invalidCount
    "policy rule count exceeds the configured bound"

def validate (policy : PromotionPolicy) : Option (Result Unit) :=
  match policy.checkHeader with
  | .error status => some (.error status)
  | .ok () =>
      match policy.graph.validate policy.entryStage with
      | none => none
      | some (.error status) => some (.error status)
      | some (.ok ()) => some do
          checkEach (checkRule policy.graph) policy.rules
          rejectWhen policy.rules.isEmpty .invalidCount "policy declares no rules"

def findRule (policy : PromotionPolicy) (kind : ArtifactKind) (source target : Stage) :
    Option PolicyRule :=
  policy.rules.find? fun rule => rule.covers kind source target

end PromotionPolicy

def makeEvidenceGate (type : EvidenceType) (label : String) : Gate :=
  { kind := .evidenceRequired, evidenceType := type, label := text label }

def makeFreshnessGate (type : EvidenceType) (maxAgeMillis : UInt64) (label : String) : Gate :=
  { kind := .evidenceFreshness, evidenceType := type, maxAgeMillis, label := text label }

def makeSimpleGate (kind : GateKind) (label : String) : Gate := { kind, label := text label }

def kHourMillis : UInt64 := 60 * 60 * 1000
def kDayMillis : UInt64 := 24 * kHourMillis

def makeEnvironmentGate (type : EvidenceType) (environment label : String) : Gate :=
  { kind := .environmentBinding, evidenceType := type, requiredEnvironment := text environment,
    label := text label }

def makeCompatibilityGate (generation : CompatibilityGeneration) (label : String) : Gate :=
  { kind := .compatibilityGenerationCurrent, requiredCompatibilityGeneration := generation,
    label := text label }

def makeApprovalGate (type : EvidenceType) (label : String) : Gate :=
  { kind := .approvalRequired, evidenceType := type, label := text label }

def commonHardGates : List Gate := [
  makeSimpleGate .artifactIdentity "artifact identity and digest are valid",
  makeSimpleGate .evidenceIntegrity "candidate evidence passes integrity checks",
  makeSimpleGate .artifactNotQuarantined "artifact is not quarantined",
  makeSimpleGate .artifactNotRevoked "artifact is not revoked",
  makeSimpleGate .securityVetoClear "no open security veto",
  makeSimpleGate .dependencyVetoClear "no open dependency veto",
  makeSimpleGate .noConflictingTransition "no conflicting committed transition"]

def referenceRules : List PolicyRule := [
  { source := .candidate, target := .verified,
    requirements := commonHardGates ++ [
      makeSimpleGate .provenanceResolved "provenance references resolve",
      makeFreshnessGate .provenanceComplete (30 * kDayMillis)
        "provenance completeness evidence is fresh"],
    preferences := [.artifactNotSuperseded], ordering := .lowerCommitSequence },
  { hasKindScope := true, kindScope := .executable, source := .verified, target := .qualified,
    requirements := commonHardGates ++ [
      makeEvidenceGate .buildPass "build evidence for the exact artifact digest",
      makeEvidenceGate .unitTestPass "unit test evidence for the exact artifact digest",
      makeEvidenceGate .integrationTestPass "integration test evidence",
      makeFreshnessGate .buildPass (7 * kDayMillis) "build evidence is fresh",
      makeEnvironmentGate .unitTestPass "windows-x64-msvc"
        "unit tests ran in the declared environment",
      makeCompatibilityGate ⟨1⟩ "compatibility generation is current",
      makeSimpleGate .dependentArtifactPromoted "declared dependencies are promoted or absent"],
    ordering := .lowerCommitSequence },
  { hasKindScope := true, kindScope := .model, source := .verified, target := .qualified,
    requirements := commonHardGates ++ [
      makeEvidenceGate .modelEvalPass "model evaluation evidence",
      makeEvidenceGate .dataValidationPass "training data validation evidence",
      makeFreshnessGate .modelEvalPass (14 * kDayMillis) "model evaluation evidence is fresh",
      makeCompatibilityGate ⟨1⟩ "compatibility generation is current",
      makeSimpleGate .dependentArtifactPromoted "declared dependencies are promoted or absent"],
    ordering := .lowerCommitSequence },
  { source := .verified, target := .qualified,
    requirements := commonHardGates ++ [
      makeEvidenceGate .provenanceComplete "provenance completeness evidence",
      makeSimpleGate .dependentArtifactPromoted "declared dependencies are promoted or absent"] },
  { source := .qualified, target := .staged,
    requirements := commonHardGates ++ [
      makeEvidenceGate .reproducibilityPass "reproducibility evidence",
      makeSimpleGate .coordinatorEpochCurrent "coordinator epoch is current"],
    preferences := [.policyGenerationCurrent] },
  { source := .staged, target := .approved,
    requirements := commonHardGates ++ [
      makeApprovalGate .machineCriticApproval
        "machine critic approval bound to the exact artifact and transition"] },
  { source := .approved, target := .promoted,
    requirements := commonHardGates ++ [
      makeSimpleGate .policyGenerationCurrent "governing policy generation is current",
      makeSimpleGate .coordinatorEpochCurrent "coordinator epoch that produced the plan is current",
      makeEvidenceGate .signatureValid "artifact signature evidence"],
    supersedesPrevious := true, allowRollbackEligibility := true },
  { source := .quarantined, target := .candidate,
    requirements := [
      makeEvidenceGate .securityScanPass "security scan evidence for the release decision",
      makeEvidenceGate .humanApproval "authorized human approval of the quarantine release"] },
  { source := .promoted, target := .revoked,
    requirements := [makeSimpleGate .artifactIdentity "artifact identity is valid"] },
  { source := .promoted, target := .superseded,
    requirements := [makeSimpleGate .artifactIdentity "artifact identity is valid"] }]

def makeReferencePolicy (id : PromotionPolicyId) (generation : PolicyGeneration) :
    PromotionPolicy :=
  let policy : PromotionPolicy :=
    { id, generation, name := text "reference-policy",
      description := text ("Reference promotion policy: a strict executable pipeline, a distinct " ++
        "model pipeline, and opaque artifacts that require provenance rather than test evidence."),
      graph := .reference, entryStage := .candidate, rules := referenceRules }
  { policy with policyDigest := policy.computeDigest }

structure CoordinatorAuthority where
  coordinator : CoordinatorId := {}
  epoch : CoordinatorEpoch := {}
deriving DecidableEq

def CoordinatorAuthority.valid (authority : CoordinatorAuthority) : Bool :=
  authority.coordinator.valid && authority.epoch.valid

end ArtifactPromotion
