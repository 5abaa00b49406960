import ArtifactPromotion.Distributed.Protocol
import ArtifactPromotion.Engine.Trust

/-! The payloads of the protocol's messages and their codecs. -/

namespace ArtifactPromotion

namespace Protocol

def kMaxProvenanceList : Nat := 32
def kMaxDependencyList : Nat := 32
def kMaxHistoryRecords : Nat := 4096

def decodeWhole {α : Type} (read : Decode α) (bytes : ByteBuffer) : Result α := do
  let (value, reader) ← read { data := bytes }
  reader.requireFinished
  return value

structure HelloPayload where
  protocolVersion : UInt16 := kProtocolVersion
  coordinator : CoordinatorId := {}
  epoch : CoordinatorEpoch := {}
  maxFrameBytes : UInt64 := kMaxFrameBytes.toUInt64
  pendingPromotions : UInt64 := 0
  policyDigest : Digest := .zero
  policyGeneration : PolicyGeneration := {}

def encodeHello (payload : HelloPayload) : ByteBuffer :=
  Writer.u16 payload.protocolVersion ++ Writer.identity payload.coordinator ++
    Writer.counter payload.epoch ++ Writer.u64 payload.maxFrameBytes ++
    Writer.u64 payload.pendingPromotions ++ Writer.digest payload.policyDigest ++
    Writer.counter payload.policyGeneration

def readHello : Decode HelloPayload := do
  let protocolVersion ← Reader.u16
  if protocolVersion ≠ kProtocolVersion then
    Reader.fail .protocolError (text "peer speaks an unsupported protocol version")
  else
    let coordinator ← Reader.identity
    let epoch ← Reader.counter
    let maxFrameBytes ← Reader.u64
    let pendingPromotions ← Reader.u64
    let policyDigest ← Reader.digest
    let policyGeneration ← Reader.counter
    return { protocolVersion, coordinator, epoch, maxFrameBytes, pendingPromotions, policyDigest,
             policyGeneration }

def decodeHello (bytes : ByteBuffer) : Result HelloPayload := decodeWhole readHello bytes

structure RegisterArtifactPayload where
  artifact : ArtifactId := {}
  kind : ArtifactKind := .invalid
  digest : Digest := .zero
  sizeBytes : UInt64 := 0
  name : Text := []
  provenance : List ProvenanceRef := []
  dependencies : List Text := []

def writeRegisterArtifact (payload : RegisterArtifactPayload) : ByteBuffer :=
  Writer.identity payload.artifact ++ (Writer.u8 payload.kind.toByte ++
    (Writer.digest payload.digest ++ (Writer.u64 payload.sizeBytes ++
      (Writer.text payload.name kMaxNameLength ++
        (Writer.list payload.provenance Writer.identity ++
          Writer.list payload.dependencies fun name => Writer.text name kMaxNameLength)))))

def encodeRegisterArtifact (payload : RegisterArtifactPayload) : Result ByteBuffer := do
  rejectWhen (payload.name.length > kMaxNameLength || !isValidName payload.name) .invalidName
    "artifact name is empty, too long, or malformed"
  return writeRegisterArtifact payload

def readRegisterArtifact : Decode RegisterArtifactPayload := do
  let artifact ← Reader.identity
  let kind ← Codec.readEnum isValidArtifactKind ArtifactKind.ofByte .invalidEnum
    "artifact registration carries an unknown artifact class"
  let digest ← Reader.digest
  let sizeBytes ← Reader.u64
  let name ← Reader.text kMaxNameLength
  let provenance ← Codec.readList kMaxProvenanceList Reader.identity
  let dependencies ← Codec.readList kMaxDependencyList (Reader.text kMaxNameLength)
  return { artifact, kind, digest, sizeBytes, name, provenance, dependencies }

def decodeRegisterArtifact (bytes : ByteBuffer) : Result RegisterArtifactPayload :=
  decodeWhole readRegisterArtifact bytes

structure ArtifactResultPayload where
  outcome : PromotionOutcome := .invalid
  artifact : ArtifactRecord := {}
  hasArtifact : Bool := false
  reasons : List Reason := []

def writeResultReason (reason : Reason) : ByteBuffer :=
  Codec.writeErrorCode reason.code ++ Writer.text reason.text.view kMaxTextLength ++
    Writer.text reason.subject kMaxReferenceLength

def encodeArtifactResult (payload : ArtifactResultPayload) : ByteBuffer :=
  Writer.u8 payload.outcome.toByte ++ Writer.boolean payload.hasArtifact ++
    (if payload.hasArtifact then Codec.writeArtifact payload.artifact else []) ++
    Writer.list payload.reasons writeResultReason

def readProtocolCode (message : String) : Decode ErrorCode := do
  let raw ← Reader.u16
  if raw.toNat > ErrorCode.invariantViolation.ctorIdx then
    Reader.fail .protocolMalformed (text message)
  else return .ofNat raw.toNat

def readResultReason : Decode Reason := do
  let code ← readProtocolCode "reason carries an unknown error code"
  let message ← Reader.text kMaxTextLength
  let subject ← Reader.text kMaxReferenceLength
  return .of code message subject

def readArtifactResult : Decode ArtifactResultPayload := do
  let outcome ← Codec.readEnum isValidPromotionOutcome PromotionOutcome.ofByte .invalidEnum
    "artifact result carries an unknown outcome"
  let hasArtifact ← Reader.boolean
  let artifact ← if hasArtifact then Codec.readArtifact else pure {}
  let reasons ← Codec.readList 32 readResultReason
  return { outcome, artifact, hasArtifact, reasons }

def decodeArtifactResult (bytes : ByteBuffer) : Result ArtifactResultPayload :=
  decodeWhole readArtifactResult bytes

structure EvidencePayload where
  type : EvidenceType := .invalid
  producedUnixMillis : UInt64 := 0
  customType : Text := []
  subject : ArtifactId := {}
  subjectDigest : Digest := .zero
  subjectRevision : ArtifactRevision := {}
  result : EvidenceResult := .unknown
  confidenceMilli : UInt32 := 0
  measurement : Text := []
  detail : Text := []
  payloadDigest : Digest := .zero
  provenance : ProvenanceRef := {}
  hasValidityWindow : Bool := false
  validFromUnixMillis : UInt64 := 0
  validUntilUnixMillis : UInt64 := 0
  environment : Text := []
deriving DecidableEq

def encodeEvidenceSubmission (payload : EvidencePayload) : ByteBuffer :=
  Writer.u8 payload.type.toByte ++ (Writer.text payload.customType kMaxNameLength ++
    (Writer.identity payload.subject ++ (Writer.digest payload.subjectDigest ++
      (Writer.identity payload.subjectRevision ++ (Writer.u8 payload.result.toByte ++
        (Writer.u32 payload.confidenceMilli ++ (Writer.text payload.measurement kMaxTextLength ++
          (Writer.text payload.detail kMaxTextLength ++ (Writer.digest payload.payloadDigest ++
            (Writer.identity payload.provenance ++ (Writer.u64 payload.producedUnixMillis ++
              (Writer.boolean payload.hasValidityWindow ++
                (Writer.u64 payload.validFromUnixMillis ++
                  (Writer.u64 payload.validUntilUnixMillis ++
                    Writer.text payload.environment kMaxTextLength))))))))))))))

def readEvidenceSubmission : Decode EvidencePayload := do
  let type ← Codec.readEnum isValidEvidenceType EvidenceType.ofByte .invalidEnum
    "evidence submission carries an unknown evidence class"
  let customType ← Reader.text kMaxNameLength
  let subject ← Reader.identity
  let subjectDigest ← Reader.digest
  let subjectRevision ← Reader.identity
  let result ← Codec.readEnum isValidEvidenceResult EvidenceResult.ofByte .invalidEnum
    "evidence submission carries an unknown result class"
  let confidenceMilli ← Reader.u32
  if confidenceMilli > 1000 then
    Reader.fail .invalidArgument (text "evidence confidence exceeds the documented range")
  else
    let measurement ← Reader.text kMaxTextLength
    let detail ← Reader.text kMaxTextLength
    let payloadDigest ← Reader.digest
    let provenance ← Reader.identity
    let producedUnixMillis ← Reader.u64
    let hasValidityWindow ← Reader.boolean
    let validFromUnixMillis ← Reader.u64
    let validUntilUnixMillis ← Reader.u64
    let environment ← Reader.text kMaxTextLength
    return { type, producedUnixMillis, customType, subject, subjectDigest, subjectRevision, result,
             confidenceMilli, measurement, detail, payloadDigest, provenance, hasValidityWindow,
             validFromUnixMillis, validUntilUnixMillis, environment }

def decodeEvidenceSubmission (bytes : ByteBuffer) : Result EvidencePayload :=
  decodeWhole readEvidenceSubmission bytes

def encodeEvidenceRecord (record : EvidenceRecord) : ByteBuffer := Codec.writeEvidence record

def decodeEvidenceRecord (bytes : ByteBuffer) : Result EvidenceRecord :=
  decodeWhole Codec.readEvidence bytes

structure PromotionPayload where
  artifact : ArtifactId := {}
  revision : ArtifactRevision := {}
  digest : Digest := .zero
  requestedStage : Stage := .invalid
  commitImmediately : Bool := false
  planDigest : Digest := .zero

def encodePromotionRequest (payload : PromotionPayload) : ByteBuffer :=
  Writer.identity payload.artifact ++ Writer.identity payload.revision ++
    Writer.digest payload.digest ++ Writer.u8 payload.requestedStage.toByte ++
    Writer.boolean payload.commitImmediately ++ Writer.digest payload.planDigest

def readPromotionRequest : Decode PromotionPayload := do
  let artifact ← Reader.identity
  let revision ← Reader.identity
  let digest ← Reader.digest
  let requestedStage ← Codec.readEnum (fun raw => raw ≤ kStageMax) Stage.ofByte .invalidStage
    "promotion request carries an unknown lifecycle stage"
  let commitImmediately ← Reader.boolean
  let planDigest ← Reader.digest
  return { artifact, revision, digest, requestedStage, commitImmediately, planDigest }

def decodePromotionRequest (bytes : ByteBuffer) : Result PromotionPayload :=
  decodeWhole readPromotionRequest bytes

structure PromotionResultPayload where
  outcome : PromotionOutcome := .invalid
  decision : PromotionDecision := {}
  plan : PromotionPlan := {}
  hasPlan : Bool := false
  record : PromotionRecord := {}
  hasRecord : Bool := false
deriving DecidableEq

def encodePromotionResult (payload : PromotionResultPayload) : ByteBuffer :=
  Writer.u8 payload.outcome.toByte ++ (Codec.writeDecision payload.decision ++
    (Writer.boolean payload.hasPlan ++
      ((if payload.hasPlan then Codec.writePlan payload.plan else []) ++
        (Writer.boolean payload.hasRecord ++
          (if payload.hasRecord then Codec.writePromotionRecord payload.record else [])))))

def readPromotionResult : Decode PromotionResultPayload := do
  let outcome ← Codec.readEnum isValidPromotionOutcome PromotionOutcome.ofByte .invalidEnum
    "promotion response carries an unknown outcome"
  let decision ← Codec.readDecision
  let hasPlan ← Reader.boolean
  let plan ← if hasPlan then Codec.readPlan else pure {}
  let hasRecord ← Reader.boolean
  let record ← if hasRecord then Codec.readPromotionRecord else pure {}
  return { outcome, decision, plan, hasPlan, record, hasRecord }

def decodePromotionResult (bytes : ByteBuffer) : Result PromotionResultPayload :=
  decodeWhole readPromotionResult bytes

structure ArtifactStatePayload where
  artifact : ArtifactId := {}
  record : ArtifactRecord := {}
  evidenceCount : UInt32 := 0
  promotionRecordCount : UInt32 := 0
  hasActiveReservation : Bool := false

def encodeArtifactState (payload : ArtifactStatePayload) : ByteBuffer :=
  Writer.identity payload.artifact ++ Codec.writeArtifact payload.record ++
    Writer.u32 payload.evidenceCount ++ Writer.u32 payload.promotionRecordCount ++
    Writer.boolean payload.hasActiveReservation

def readArtifactState : Decode ArtifactStatePayload := do
  let artifact ← Reader.identity
  let record ← Codec.readArtifact
  let evidenceCount ← Reader.u32
  let promotionRecordCount ← Reader.u32
  let hasActiveReservation ← Reader.boolean
  return { artifact, record, evidenceCount, promotionRecordCount, hasActiveReservation }

def decodeArtifactState (bytes : ByteBuffer) : Result ArtifactStatePayload :=
  decodeWhole readArtifactState bytes

structure HistoryPayload where
  artifact : ArtifactId := {}
  records : List PromotionRecord := []

def encodeHistory (payload : HistoryPayload) : Result ByteBuffer := do
  rejectWhen (payload.records.length > kMaxHistoryRecords) .payloadTooLarge
    "history response exceeds the configured record bound"
  return Writer.identity payload.artifact ++
    Writer.list payload.records Codec.writePromotionRecord

def readHistory : Decode HistoryPayload := do
  let artifact ← Reader.identity
  let records ← Codec.readList kMaxHistoryRecords Codec.readPromotionRecord
  return { artifact, records }

def decodeHistory (bytes : ByteBuffer) : Result HistoryPayload := decodeWhole readHistory bytes

structure TrustPayload where
  artifact : ArtifactId := {}
  successor : ArtifactId := {}
  decision : PromotionDecisionId := {}
  evidence : EvidenceId := {}
  reasonClass : Text := []
  detail : Text := []

def encodeTrust (payload : TrustPayload) : ByteBuffer :=
  Writer.identity payload.artifact ++ Writer.identity payload.successor ++
    Writer.identity payload.decision ++ Writer.identity payload.evidence ++
    Writer.text payload.reasonClass kMaxNameLength ++ Writer.text payload.detail kMaxTextLength

def readTrust : Decode TrustPayload := do
  let artifact ← Reader.identity
  let successor ← Reader.identity
  let decision ← Reader.identity
  let evidence ← Reader.identity
  let reasonClass ← Reader.text kMaxNameLength
  let detail ← Reader.text kMaxTextLength
  return { artifact, successor, decision, evidence, reasonClass, detail }

def decodeTrust (bytes : ByteBuffer) : Result TrustPayload := decodeWhole readTrust bytes

def encodeStatus (code : ErrorCode) (message : Text) : ByteBuffer :=
  Codec.writeErrorCode code ++ Writer.text message kMaxTextLength

def readStatus : Decode Reason := do
  let code ← readProtocolCode "error payload carries an unknown error code"
  let message ← Reader.text kMaxTextLength
  return .of code message

def decodeStatus (bytes : ByteBuffer) : Result Reason := decodeWhole readStatus bytes

end Protocol

end ArtifactPromotion
