import ArtifactPromotion.Domain.Stage

/-! Governed artifact metadata and lifecycle state. -/

namespace ArtifactPromotion

inductive ArtifactKind where
  | invalid
  | model
  | kernel
  | executable
  | library
  | configuration
  | dataset
  | researchResult
  | benchmarkBundle
  | generatedCode
  | deploymentManifest
  | opaqueKind
  | unnamed (raw : UInt8) (outside : 11 < raw)
deriving DecidableEq

namespace ArtifactKind

def toByte : ArtifactKind → UInt8
  | invalid => 0
  | model => 1
  | kernel => 2
  | executable => 3
  | library => 4
  | configuration => 5
  | dataset => 6
  | researchResult => 7
  | benchmarkBundle => 8
  | generatedCode => 9
  | deploymentManifest => 10
  | opaqueKind => 11
  | unnamed raw _ => raw

def ofByte (raw : UInt8) : ArtifactKind :=
  if outside : 11 < raw then .unnamed raw outside
  else match raw.toNat with
    | 1 => model
    | 2 => kernel
    | 3 => executable
    | 4 => library
    | 5 => configuration
    | 6 => dataset
    | 7 => researchResult
    | 8 => benchmarkBundle
    | 9 => generatedCode
    | 10 => deploymentManifest
    | 11 => opaqueKind
    | _ => invalid

@[simp] theorem ofByte_toByte (value : ArtifactKind) : ofByte value.toByte = value := by
  cases value with
  | unnamed raw outside => simp [toByte, ofByte, outside]
  | _ => rfl

end ArtifactKind

def isValidArtifactKind (raw : Nat) : Bool := 1 ≤ raw && raw ≤ 11

/-- The process that produced something; a zero worker means "not process bound". -/
structure ProducerIncarnation where
  worker : WorkerId := {}
  boot : WorkerBootId := {}
deriving DecidableEq

def ProducerIncarnation.valid (producer : ProducerIncarnation) : Bool :=
  producer.worker.valid == producer.boot.valid

inductive ProvenanceResolution where
  | unknown
  | resolved
  | superseded
  | rejected
  | unnamed (raw : UInt8) (outside : 3 < raw)
deriving DecidableEq

namespace ProvenanceResolution

def toByte : ProvenanceResolution → UInt8
  | unknown => 0
  | resolved => 1
  | superseded => 2
  | rejected => 3
  | unnamed raw _ => raw

def ofByte (raw : UInt8) : ProvenanceResolution :=
  if outside : 3 < raw then .unnamed raw outside
  else match raw.toNat with
    | 1 => resolved
    | 2 => superseded
    | 3 => rejected
    | _ => unknown

@[simp] theorem ofByte_toByte (value : ProvenanceResolution) : ofByte value.toByte = value := by
  cases value with
  | unnamed raw outside => simp [toByte, ofByte, outside]
  | _ => rfl

end ProvenanceResolution

structure ProvenanceRecord where
  reference : ProvenanceRef := {}
  source : Text := []
  subject : Text := []
  resolution : ProvenanceResolution := .unknown
deriving DecidableEq

structure QuarantineRecord where
  active : Bool := false
  reasonClass : Text := []
  detail : Text := []
  authority : AuthorityId := {}
  sequence : CommitSequence := {}
  policyGeneration : PolicyGeneration := {}
deriving DecidableEq

def QuarantineRecord.valid (record : QuarantineRecord) : Bool :=
  !record.active || (record.authority.valid && record.sequence.valid)

structure RevocationRecord where
  active : Bool := false
  decision : PromotionDecisionId := {}
  reasonClass : Text := []
  detail : Text := []
  authority : AuthorityId := {}
  sequence : CommitSequence := {}
  policyGeneration : PolicyGeneration := {}
  cause : EvidenceId := {}
deriving DecidableEq

def RevocationRecord.valid (record : RevocationRecord) : Bool :=
  !record.active || (record.authority.valid && record.sequence.valid)

structure SupersessionRecord where
  active : Bool := false
  successor : ArtifactId := {}
  successorRevision : ArtifactRevision := {}
  reason : Text := []
  authority : AuthorityId := {}
  sequence : CommitSequence := {}
deriving DecidableEq

def SupersessionRecord.valid (record : SupersessionRecord) : Bool :=
  !record.active ||
    (record.successor.valid && record.successorRevision.valid && record.sequence.valid)

structure ArtifactRecord where
  id : ArtifactId := {}
  revision : ArtifactRevision := {}
  generation : ArtifactGeneration := {}
  kind : ArtifactKind := .invalid
  digest : Digest := .zero
  sizeBytes : UInt64 := 0
  name : Text := []
  producer : ProducerIncarnation := {}
  createdSequence : CommitSequence := {}
  createdUnixMillis : UInt64 := 0
  provenance : List ProvenanceRecord := []
  dependencies : List Text := []
  stage : Stage := .invalid
  stageGeneration : StageGeneration := {}
  promoted : Bool := false
  promotionDecision : PromotionDecisionId := {}
  promotionAuthority : AuthorityId := {}
  promotionSequence : CommitSequence := {}
  lastSequence : CommitSequence := {}
  quarantine : QuarantineRecord := {}
  revocation : RevocationRecord := {}
  supersession : SupersessionRecord := {}
deriving DecidableEq

namespace ArtifactRecord

def kMaxProvenanceRefs : Nat := 64
def kMaxDependencies : Nat := 64

def valid (record : ArtifactRecord) : Bool :=
  record.id.valid && record.revision.valid && record.generation.valid && record.kind != .invalid &&
    record.digest.valid && record.stage != .invalid && record.stageGeneration.valid &&
    record.producer.valid && record.quarantine.valid && record.revocation.valid &&
    record.supersession.valid && record.provenance.length ≤ kMaxProvenanceRefs &&
    record.dependencies.length ≤ kMaxDependencies

def currentlyAuthoritative (record : ArtifactRecord) : Bool :=
  record.promoted && record.stage == .promoted && !record.revocation.active

end ArtifactRecord

/-- The caller supplied description of a new artifact revision. -/
structure ArtifactRegistration where
  id : ArtifactId := {}
  kind : ArtifactKind := .invalid
  digest : Digest := .zero
  sizeBytes : UInt64 := 0
  name : Text := []
  producer : ProducerIncarnation := {}
  provenance : List ProvenanceRecord := []
  dependencies : List Text := []
deriving DecidableEq

namespace ArtifactRegistration

def checkProvenance (record : ProvenanceRecord) : Result Unit := do
  rejectWhen record.reference.invalid .invalidIdentity
    "provenance reference is the invalid sentinel"
  rejectWhen (record.source.isEmpty || record.source.length > kMaxNameLength) .invalidName
    "provenance source name is empty or too long"

def checkDependency (dependency : Text) : Result Unit :=
  rejectWhen (!isValidName dependency) .invalidName
    "artifact dependency name is empty, too long, or malformed"

def validate (registration : ArtifactRegistration) : Result Unit := do
  rejectWhen registration.id.invalid .invalidIdentity "artifact identity is the invalid sentinel"
  rejectWhen (!isValidArtifactKind registration.kind.toByte.toNat) .invalidEnum
    "artifact kind is not a known artifact class"
  rejectWhen registration.digest.invalid .invalidDigest "artifact digest is the invalid sentinel"
  rejectWhen (!isValidName registration.name) .invalidName
    "artifact name is empty, too long, or contains rejected characters"
  rejectWhen (!registration.producer.valid) .invalidIdentity
    "producer incarnation has a boot identity without a worker identity"
  rejectWhen (registration.provenance.length > ArtifactRecord.kMaxProvenanceRefs) .invalidCount
    "artifact provenance reference count exceeds the configured bound"
  rejectWhen (registration.dependencies.length > ArtifactRecord.kMaxDependencies) .invalidCount
    "artifact dependency count exceeds the configured bound"
  checkEach checkProvenance registration.provenance
  checkEach checkDependency registration.dependencies

end ArtifactRegistration

end ArtifactPromotion
