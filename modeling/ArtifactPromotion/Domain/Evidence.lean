import ArtifactPromotion.Domain.Artifact

/-! First-class promotion evidence: records, submissions and the digests plans are bound to. -/

namespace ArtifactPromotion

/-- A value of the evidence type byte. Bytes 19 to 62 are valid types without a name. -/
inductive EvidenceType where
  | invalid
  | buildPass
  | unitTestPass
  | integrationTestPass
  | propertyTestPass
  | adversarialTestPass
  | sanitizerPass
  | securityScanPass
  | benchmarkResult
  | compatibilityPass
  | abiCompatibilityPass
  | dataValidationPass
  | modelEvalPass
  | humanApproval
  | machineCriticApproval
  | reproducibilityPass
  | signatureValid
  | provenanceComplete
  | dependencyPolicyPass
  | custom
  | unnamed (raw : UInt8) (outside : 18 < raw ∧ raw ≠ 63)
deriving DecidableEq

namespace EvidenceType

def toByte : EvidenceType → UInt8
  | invalid => 0
  | buildPass => 1
  | unitTestPass => 2
  | integrationTestPass => 3
  | propertyTestPass => 4
  | adversarialTestPass => 5
  | sanitizerPass => 6
  | securityScanPass => 7
  | benchmarkResult => 8
  | compatibilityPass => 9
  | abiCompatibilityPass => 10
  | dataValidationPass => 11
  | modelEvalPass => 12
  | humanApproval => 13
  | machineCriticApproval => 14
  | reproducibilityPass => 15
  | signatureValid => 16
  | provenanceComplete => 17
  | dependencyPolicyPass => 18
  | custom => 63
  | unnamed raw _ => raw

def ofByte (raw : UInt8) : EvidenceType :=
  if outside : 18 < raw ∧ raw ≠ 63 then .unnamed raw outside
  else match raw.toNat with
    | 1 => buildPass
    | 2 => unitTestPass
    | 3 => integrationTestPass
    | 4 => propertyTestPass
    | 5 => adversarialTestPass
    | 6 => sanitizerPass
    | 7 => securityScanPass
    | 8 => benchmarkResult
    | 9 => compatibilityPass
    | 10 => abiCompatibilityPass
    | 11 => dataValidationPass
    | 12 => modelEvalPass
    | 13 => humanApproval
    | 14 => machineCriticApproval
    | 15 => reproducibilityPass
    | 16 => signatureValid
    | 17 => provenanceComplete
    | 18 => dependencyPolicyPass
    | 63 => custom
    | _ => invalid

@[simp] theorem ofByte_toByte (value : EvidenceType) : ofByte value.toByte = value := by
  cases value with
  | unnamed raw outside => simp [toByte, ofByte, outside]
  | _ => rfl

def name : EvidenceType → Text
  | invalid => text "INVALID"
  | buildPass => text "BUILD_PASS"
  | unitTestPass => text "UNIT_TEST_PASS"
  | integrationTestPass => text "INTEGRATION_TEST_PASS"
  | propertyTestPass => text "PROPERTY_TEST_PASS"
  | adversarialTestPass => text "ADVERSARIAL_TEST_PASS"
  | sanitizerPass => text "SANITIZER_PASS"
  | securityScanPass => text "SECURITY_SCAN_PASS"
  | benchmarkResult => text "BENCHMARK_RESULT"
  | compatibilityPass => text "COMPATIBILITY_PASS"
  | abiCompatibilityPass => text "ABI_COMPATIBILITY_PASS"
  | dataValidationPass => text "DATA_VALIDATION_PASS"
  | modelEvalPass => text "MODEL_EVAL_PASS"
  | humanApproval => text "HUMAN_APPROVAL"
  | machineCriticApproval => text "MACHINE_CRITIC_APPROVAL"
  | reproducibilityPass => text "REPRODUCIBILITY_PASS"
  | signatureValid => text "SIGNATURE_VALID"
  | provenanceComplete => text "PROVENANCE_COMPLETE"
  | dependencyPolicyPass => text "DEPENDENCY_POLICY_PASS"
  | custom => text "CUSTOM"
  | unnamed _ _ => text "INVALID"

end EvidenceType

def isValidEvidenceType (raw : Nat) : Bool := 1 ≤ raw && raw ≤ 63

inductive EvidenceResult where
  | unknown
  | pass
  | fail
  | inconclusive
  | notApplicable
  | unnamed (raw : UInt8) (outside : 4 < raw)
deriving DecidableEq

namespace EvidenceResult

def toByte : EvidenceResult → UInt8
  | unknown => 0
  | pass => 1
  | fail => 2
  | inconclusive => 3
  | notApplicable => 4
  | unnamed raw _ => raw

def ofByte (raw : UInt8) : EvidenceResult :=
  if outside : 4 < raw then .unnamed raw outside
  else match raw.toNat with
    | 1 => pass
    | 2 => fail
    | 3 => inconclusive
    | 4 => notApplicable
    | _ => unknown

@[simp] theorem ofByte_toByte (value : EvidenceResult) : ofByte value.toByte = value := by
  cases value with
  | unnamed raw outside => simp [toByte, ofByte, outside]
  | _ => rfl

def name : EvidenceResult → Text
  | unknown => text "UNKNOWN"
  | pass => text "PASS"
  | fail => text "FAIL"
  | inconclusive => text "INCONCLUSIVE"
  | notApplicable => text "NOT_APPLICABLE"
  | unnamed _ _ => text "UNKNOWN"

end EvidenceResult

def isValidEvidenceResult (raw : Nat) : Bool := raw ≤ 4

/-- Durable evidence, bound to one artifact revision and its digest. -/
structure EvidenceRecord where
  id : EvidenceId := {}
  type : EvidenceType := .invalid
  generation : EvidenceGeneration := {}
  customType : Text := []
  subject : ArtifactId := {}
  subjectDigest : Digest := .zero
  subjectRevision : ArtifactRevision := {}
  producer : ProducerIncarnation := {}
  result : EvidenceResult := .unknown
  confidenceMilli : UInt32 := 0
  measurement : Text := []
  detail : Text := []
  payloadDigest : Digest := .zero
  integrityDigest : Digest := .zero
  provenance : ProvenanceRef := {}
  createdSequence : CommitSequence := {}
  producedUnixMillis : UInt64 := 0
  hasValidityWindow : Bool := false
  validFromUnixMillis : UInt64 := 0
  validUntilUnixMillis : UInt64 := 0
  environment : Text := []
  revoked : Bool := false
  revocationReason : Text := []
  revocationAuthority : AuthorityId := {}
  revocationSequence : CommitSequence := {}
  superseded : Bool := false
  supersededBy : EvidenceId := {}
deriving DecidableEq

namespace EvidenceRecord

def valid (record : EvidenceRecord) : Bool :=
  record.id.valid && record.generation.valid && isValidEvidenceType record.type.toByte.toNat &&
    !(record.type == .custom && record.customType.isEmpty) &&
    !(record.type != .custom && !record.customType.isEmpty) &&
    record.subject.valid && record.subjectDigest.valid && record.subjectRevision.valid &&
    record.producer.valid && isValidEvidenceResult record.result.toByte.toNat &&
    record.confidenceMilli ≤ 1000 && record.payloadDigest.valid && record.integrityDigest.valid &&
    record.createdSequence.valid &&
    !(record.hasValidityWindow && record.validUntilUnixMillis < record.validFromUnixMillis) &&
    !(record.revoked && record.revocationAuthority.invalid)

def live (record : EvidenceRecord) : Bool := !record.revoked && !record.superseded

end EvidenceRecord

/-- The tuple that identifies at most one current evidence record. -/
structure EvidenceKey where
  subject : ArtifactId
  subjectRevision : ArtifactRevision
  type : EvidenceType
  customType : Text
  producer : ProducerIncarnation
deriving DecidableEq

def EvidenceKey.of (record : EvidenceRecord) : EvidenceKey :=
  ⟨record.subject, record.subjectRevision, record.type, record.customType, record.producer⟩

structure EvidenceSubmission where
  subject : ArtifactId := {}
  subjectDigest : Digest := .zero
  subjectRevision : ArtifactRevision := {}
  type : EvidenceType := .invalid
  customType : Text := []
  producer : ProducerIncarnation := {}
  result : EvidenceResult := .unknown
  confidenceMilli : UInt32 := 0
  measurement : Text := []
  detail : Text := []
  payloadDigest : Digest := .zero
  provenance : ProvenanceRef := {}
  producedUnixMillis : UInt64 := 0
  hasValidityWindow : Bool := false
  validFromUnixMillis : UInt64 := 0
  validUntilUnixMillis : UInt64 := 0
  environment : Text := []
deriving DecidableEq

def EvidenceSubmission.validate (submission : EvidenceSubmission) : Result Unit := do
  rejectWhen submission.subject.invalid .invalidIdentity
    "evidence subject artifact identity is invalid"
  rejectWhen submission.subjectDigest.invalid .invalidDigest
    "evidence subject digest is the invalid sentinel"
  rejectWhen (!submission.subjectRevision.valid) .invalidIdentity
    "evidence subject artifact revision is invalid"
  rejectWhen (!isValidEvidenceType submission.type.toByte.toNat) .invalidEnum
    "evidence type is not a known evidence class"
  rejectWhen (submission.type == .custom && !isValidName submission.customType) .invalidName
    "custom evidence type name is empty or malformed"
  rejectWhen (submission.type != .custom && !submission.customType.isEmpty) .invalidArgument
    "a built-in evidence type must not carry a custom type name"
  rejectWhen (!submission.producer.valid) .invalidIdentity
    "evidence producer incarnation is inconsistent"
  rejectWhen (!isValidEvidenceResult submission.result.toByte.toNat) .invalidEnum
    "evidence result is not a known result class"
  rejectWhen (submission.confidenceMilli > 1000) .invalidArgument
    "evidence confidence exceeds the documented 0..1000 range"
  rejectWhen submission.payloadDigest.invalid .invalidDigest
    "evidence payload digest is the invalid sentinel"
  rejectWhen (!isValidText submission.measurement || !isValidText submission.detail ||
      !isValidText submission.environment) .invalidArgument
    "evidence text field is too long or contains control characters"
  rejectWhen (submission.measurement.length > kMaxTextLength ||
      submission.detail.length > kMaxTextLength) .invalidArgument
    "evidence text field exceeds the configured bound"
  rejectWhen (submission.hasValidityWindow &&
      submission.validUntilUnixMillis < submission.validFromUnixMillis) .invalidArgument
    "evidence validity window ends before it begins"

/-- The order of `std::string`: bytewise lexicographic. -/
def textCompare (left right : Text) : Ordering := compareOfLessAndEq left right

structure EvidenceSnapshotEntry where
  id : EvidenceId := {}
  type : EvidenceType := .invalid
  customType : Text := []
  generation : EvidenceGeneration := {}
  result : EvidenceResult := .unknown
  subjectDigest : Digest := .zero
  subjectRevision : ArtifactRevision := {}
  producer : ProducerIncarnation := {}
  integrityDigest : Digest := .zero
deriving DecidableEq

/-- The order shared by gathered evidence and snapshot entries: type, custom type, identity. -/
def evidenceOrder (leftType : EvidenceType) (leftCustom : Text) (leftId : EvidenceId)
    (rightType : EvidenceType) (rightCustom : Text) (rightId : EvidenceId) : Ordering :=
  (compare leftType.toByte rightType.toByte).then
    ((textCompare leftCustom rightCustom).then (compare leftId rightId))

def EvidenceSnapshotEntry.le (left right : EvidenceSnapshotEntry) : Prop :=
  evidenceOrder left.type left.customType left.id right.type right.customType right.id ≠ .gt

instance : DecidableRel EvidenceSnapshotEntry.le := fun left right =>
  inferInstanceAs (Decidable (evidenceOrder left.type left.customType left.id right.type
    right.customType right.id ≠ .gt))

def EvidenceSnapshotEntry.encode (entry : EvidenceSnapshotEntry) : ByteBuffer :=
  Writer.identity entry.id ++ Writer.u8 entry.type.toByte ++
    Writer.text entry.customType kMaxNameLength ++ Writer.counter entry.generation ++
    Writer.u8 entry.result.toByte ++ Writer.digest entry.subjectDigest ++
    Writer.identity entry.subjectRevision ++ Writer.identity entry.producer.worker ++
    Writer.identity entry.producer.boot ++ Writer.digest entry.integrityDigest

def snapshotPreimage (subject : ArtifactId) (revision : ArtifactRevision) (digest : Digest)
    (entries : List EvidenceSnapshotEntry) : ByteBuffer :=
  Writer.identity subject ++ Writer.identity revision ++ Writer.digest digest ++
    Writer.list (entries.insertionSort EvidenceSnapshotEntry.le) EvidenceSnapshotEntry.encode

def computeSnapshotDigest (subject : ArtifactId) (revision : ArtifactRevision) (digest : Digest)
    (entries : List EvidenceSnapshotEntry) : Digest :=
  sha256 (snapshotPreimage subject revision digest entries)

def integrityPreimage (record : EvidenceRecord) : ByteBuffer :=
  Writer.identity record.id ++ Writer.u8 record.type.toByte ++
    Writer.text record.customType kMaxNameLength ++ Writer.counter record.generation ++
    Writer.identity record.subject ++ Writer.digest record.subjectDigest ++
    Writer.identity record.subjectRevision ++ Writer.identity record.producer.worker ++
    Writer.identity record.producer.boot ++ Writer.u8 record.result.toByte ++
    Writer.u32 record.confidenceMilli ++ Writer.text record.measurement ++
    Writer.text record.detail ++ Writer.digest record.payloadDigest ++
    Writer.identity record.provenance ++ Writer.counter record.createdSequence ++
    Writer.u64 record.producedUnixMillis ++ Writer.boolean record.hasValidityWindow ++
    Writer.u64 record.validFromUnixMillis ++ Writer.u64 record.validUntilUnixMillis ++
    Writer.text record.environment ++ Writer.boolean record.revoked

def computeEvidenceIntegrity (record : EvidenceRecord) : Digest := sha256 (integrityPreimage record)

end ArtifactPromotion
