import ArtifactPromotion.Distributed.Payloads
import ArtifactPromotion.Distributed.WorkerBoots
import ArtifactPromotion.Engine.Inspection

/-! The coordinator's side of the protocol: what one decoded request makes the engine do, and what
is answered. -/

namespace ArtifactPromotion

open Protocol

/-- What `handle_frame` works on: the engine and the table of worker incarnations. -/
structure FrameServer where
  engine : Engine
  workerBoots : CoordinatorServer.WorkerBoots := ∅

/-- What the surroundings decide while a frame is handled: the clock readings, and how the write of
a requested snapshot ends. -/
structure Circumstances where
  now : UInt64
  later : UInt64
  saved : Result Unit := .ok ()

structure Answer where
  type : MessageType
  payload : ByteBuffer

namespace FrameServer

def requireCurrentAuthority (engine : Engine) (request : Frame) : Result Unit := do
  rejectWhen (!engine.admissionOpen) .shuttingDown "the coordinator is shutting down"
  rejectWhen (request.coordinator != engine.state.coordinator ||
      request.epoch != engine.state.epoch) .staleCoordinatorEpoch
    "request carries a stale coordinator identity or epoch"

/-- The shape of the mutating arms: the authority, the payload, and then the call. -/
def withAuthority {α : Type} (server : FrameServer) (request : Frame) (decode : ByteBuffer → Result α)
    (arm : α → Result Answer × Engine) : Result Answer × FrameServer :=
  match requireCurrentAuthority server.engine request with
  | .error status => (.error status, server)
  | .ok () =>
      match decode request.payload with
      | .error status => (.error status, server)
      | .ok payload =>
          let (answer, engine) := arm payload
          (answer, { server with engine })

def receivedProvenance (reference : ProvenanceRef) : ProvenanceRecord :=
  { reference, source := text "research-ledger", subject := text "ledger:" ++ reference.toText,
    resolution := .resolved }

def receivedRegistration (request : Frame) (payload : RegisterArtifactPayload) :
    ArtifactRegistration :=
  { id := payload.artifact, kind := payload.kind, digest := payload.digest,
    sizeBytes := payload.sizeBytes, name := payload.name,
    producer := ⟨request.worker, request.boot⟩,
    provenance := payload.provenance.map receivedProvenance,
    dependencies := payload.dependencies }

def receivedSubmission (request : Frame) (payload : EvidencePayload) : EvidenceSubmission :=
  { subject := payload.subject, subjectDigest := payload.subjectDigest,
    subjectRevision := payload.subjectRevision, type := payload.type,
    customType := payload.customType, producer := ⟨request.worker, request.boot⟩,
    result := payload.result, confidenceMilli := payload.confidenceMilli,
    measurement := payload.measurement, detail := payload.detail,
    payloadDigest := payload.payloadDigest, provenance := payload.provenance,
    producedUnixMillis := payload.producedUnixMillis,
    hasValidityWindow := payload.hasValidityWindow,
    validFromUnixMillis := payload.validFromUnixMillis,
    validUntilUnixMillis := payload.validUntilUnixMillis, environment := payload.environment }

def receivedPromotion (engine : Engine) (request : Frame) (payload : PromotionPayload) :
    PromotionRequest :=
  { artifact := payload.artifact, expectedRevision := payload.revision,
    expectedDigest := payload.digest, requestedStage := payload.requestedStage,
    request := request.request, attempt := ⟨request.request.high, request.request.low⟩,
    authority := engine.state.authority, requester := ⟨request.worker, request.boot⟩ }

def artifactAnswer (type : MessageType) (payload : ArtifactResultPayload) : Answer :=
  ⟨type, encodeArtifactResult payload⟩

def mutationAnswer (type : MessageType) (outcome : Result TrustMutation × Engine) :
    Result Answer × Engine :=
  (outcome.1.map fun mutation => artifactAnswer type
    { outcome := mutation.outcome, artifact := mutation.artifact,
      hasArtifact := mutation.artifact.id.valid, reasons := mutation.reasons }, outcome.2)

def evaluationPayload (result : EvaluationResult) : PromotionResultPayload :=
  { outcome := result.decision.outcome, decision := result.decision, plan := result.plan,
    hasPlan := result.hasPlan }

def promotionPayload (engine : Engine) (result : CommitResult) : PromotionResultPayload :=
  let plan := if result.decision.plan.valid then engine.inspectPlan result.decision.plan else none
  { outcome := result.outcome, decision := result.decision, plan := plan.getD {},
    hasPlan := plan.isSome, record := result.record, hasRecord := result.hasRecord }

def explanationPayload (decision : PromotionDecision) : PromotionResultPayload :=
  { outcome := decision.outcome, decision }

def decidePromotion (engine : Engine) (circumstances : Circumstances) (request : Frame)
    (payload : PromotionPayload) : Result Answer × Engine :=
  if !isValidStageValue payload.requestedStage.toByte.toNat then
    engine.refuse .invalidStage "promotion request names no destination stage"
      request.request.toText
  else
    let promotion := receivedPromotion engine request payload
    if request.type = .evaluateRequest then
      let (evaluated, engine) := engine.evaluate promotion circumstances.now
      (evaluated.map fun result =>
        ⟨.evaluateResponse, encodePromotionResult (evaluationPayload result)⟩, engine)
    else
      let (committed, engine) := engine.promote promotion circumstances.now circumstances.later
      (committed.map fun result =>
        ⟨.promotionResponse, encodePromotionResult (promotionPayload engine result)⟩, engine)

def query {α : Type} (server : FrameServer) (request : Frame) (decode : ByteBuffer → Result α)
    (arm : α → Result Answer) : Result Answer × FrameServer :=
  (decode request.payload >>= arm, server)

def helloAnswer (server : FrameServer) : Answer :=
  let state := server.engine.snapshot
  ⟨.helloResponse, encodeHello
    { coordinator := server.engine.state.coordinator, epoch := server.engine.state.epoch,
      pendingPromotions := state.pending.size.toUInt64,
      policyGeneration := state.activePolicyGeneration,
      policyDigest := state.activePolicyDigest }⟩

def stateAnswer (engine : Engine) (payload : PromotionPayload) : Result Answer :=
  match engine.inspectArtifact payload.artifact with
  | none => .error (.of .artifactNotFound (text "artifact identity is not registered"))
  | some view =>
      .ok ⟨.artifactStateResponse, encodeArtifactState
        { artifact := payload.artifact, record := view.artifact,
          evidenceCount := view.evidenceCount.toUInt32,
          promotionRecordCount := view.promotionRecordCount.toUInt32,
          hasActiveReservation := view.hasActiveReservation }⟩

def historyAnswer (engine : Engine) (payload : PromotionPayload) : Result Answer :=
  (encodeHistory
    { artifact := payload.artifact, records := engine.promotionHistory payload.artifact }).map
      fun bytes => ⟨.historyResponse, bytes⟩

def explainAnswer (engine : Engine) (circumstances : Circumstances) (payload : PromotionPayload) :
    Result Answer :=
  match engine.explain payload.artifact payload.requestedStage circumstances.now
      circumstances.later with
  | none => .error (.of .artifactNotFound (text "artifact identity is not registered"))
  | some decision =>
      .ok ⟨.explainResponse, encodePromotionResult (explanationPayload decision)⟩

def handleFrame (server : FrameServer) (circumstances : Circumstances) (request : Frame) :
    Result Answer × FrameServer :=
  let engine := server.engine
  let authority := engine.state.authority
  match request.type with
  | .helloRequest =>
      match CoordinatorServer.registerWorkerBoot server.workerBoots request.worker
          request.boot with
      | .error status => (.error status, server)
      | .ok workerBoots => (.ok server.helloAnswer, { server with workerBoots })
  | .registerArtifactRequest =>
      server.withAuthority request decodeRegisterArtifact fun payload =>
        let (registered, engine) :=
          engine.registerArtifact (receivedRegistration request payload) circumstances.now
        (registered.map fun record => artifactAnswer .registerArtifactResponse
          { outcome := .promotionCommitted, artifact := record, hasArtifact := true }, engine)
  | .submitEvidenceRequest =>
      server.withAuthority request decodeEvidenceSubmission fun payload =>
        let (stored, engine) := engine.submitEvidence (receivedSubmission request payload)
        (stored.map fun record => ⟨.submitEvidenceResponse, encodeEvidenceRecord record⟩, engine)
  | .promotionRequest | .evaluateRequest =>
      server.withAuthority request decodePromotionRequest fun payload =>
        decidePromotion engine circumstances request payload
  | .artifactStateRequest => server.query request decodePromotionRequest (stateAnswer engine)
  | .historyRequest => server.query request decodePromotionRequest (historyAnswer engine)
  | .explainRequest =>
      server.query request decodePromotionRequest (explainAnswer engine circumstances)
  | .quarantineRequest =>
      server.withAuthority request decodeTrust fun payload => mutationAnswer .quarantineResponse
        (engine.quarantine payload.artifact payload.reasonClass payload.detail authority)
  | .releaseQuarantineRequest =>
      server.withAuthority request decodeTrust fun payload => mutationAnswer .releaseQuarantineResponse
        (engine.releaseQuarantine payload.artifact authority circumstances.now
          circumstances.later)
  | .revokeRequest =>
      server.withAuthority request decodeTrust fun payload => mutationAnswer .revokeResponse
        (engine.revoke payload.artifact payload.decision payload.reasonClass payload.detail
          authority {} circumstances.now)
  | .revokeEvidenceRequest =>
      server.withAuthority request decodeTrust fun payload =>
        let (revoked, engine) := engine.revokeEvidence payload.evidence payload.detail authority
        (revoked.map fun mutation => artifactAnswer .revokeEvidenceResponse
          { outcome := mutation.outcome, reasons := mutation.reasons }, engine)
  | .supersedeRequest =>
      server.withAuthority request decodeTrust fun payload => mutationAnswer .supersedeResponse
        (engine.supersede payload.artifact payload.successor payload.detail authority
          circumstances.now)
  | .retireRequest =>
      server.withAuthority request decodeTrust fun payload => mutationAnswer .retireResponse
        (engine.retire payload.artifact authority circumstances.now)
  | .snapshotSaveRequest =>
      (circumstances.saved.map fun _ =>
        artifactAnswer .snapshotSaveResponse { outcome := .promotionCommitted }, server)
  | _ =>
      (.error (.of .protocolMalformed
        (text "a response message type was received as a request")), server)

end FrameServer

end ArtifactPromotion
