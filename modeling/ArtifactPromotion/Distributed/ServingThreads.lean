import ArtifactPromotion.Distributed.Answers
import ArtifactPromotion.Distributed.Connections
import ArtifactPromotion.Library.CriticalSections

/-! `serve_connection` and `handle_frame` section by section. Every connection has a thread; the
engine and the table of incarnations have a mutex each, and between two sections of one frame the
other threads go on. What a mutation does to the state file is left to the model of the writers. -/

namespace ArtifactPromotion

open CriticalSections Protocol Runs

inductive CoordinatorCall where
  | perform (op : Op)
  | registerWorkerBoot (worker : WorkerId) (boot : WorkerBootId)

inductive CoordinatorReply where
  | performed (reply : Reply)
  | boot (result : Result Unit)

/-! What a call returns, read off the reply. A call is never given the reply of another. -/

namespace CoordinatorReply

def registered : CoordinatorReply → Result ArtifactRecord
  | .performed (.registered result) => result
  | _ => .error {}

def submitted : CoordinatorReply → Result EvidenceRecord
  | .performed (.submitted result) => result
  | _ => .error {}

def evaluated : CoordinatorReply → Result EvaluationResult
  | .performed (.evaluated result) => result
  | _ => .error {}

def committed : CoordinatorReply → Result CommitResult
  | .performed (.committed result) => result
  | _ => .error {}

def mutated : CoordinatorReply → Result TrustMutation
  | .performed (.mutated result) => result
  | _ => .error {}

def accepted : CoordinatorReply → Result Unit
  | .boot result => result
  | _ => .error {}

end CoordinatorReply

abbrev ConnectionThread := Thread FrameServer CoordinatorCall CoordinatorReply

abbrev CoordinatorSection := Step FrameServer CoordinatorCall CoordinatorReply

structure Delivery where
  circumstances : Circumstances
  stream : ByteBuffer
  sent : Bool := true

namespace FrameServer

/-- One section; `none` where the source's behaviour is undefined. -/
def enter : Machine FrameServer CoordinatorCall CoordinatorReply
  | server, .perform op =>
      (server.engine.step op).map fun (reply, engine) => (.performed reply, { server with engine })
  | server, .registerWorkerBoot worker boot =>
      match CoordinatorServer.registerWorkerBoot server.workerBoots worker boot with
      | .error status => some (.boot (.error status), server)
      | .ok workerBoots => some (.boot (.ok ()), { server with workerBoots })

/-- `require_current_authority`: admission is read now, the authority when the frame came in. -/
def checkAuthority (admissionOpen : Bool) (authority : CoordinatorAuthority) (request : Frame) :
    Result Unit := do
  rejectWhen (!admissionOpen) .shuttingDown "the coordinator is shutting down"
  rejectWhen (request.coordinator != authority.coordinator || request.epoch != authority.epoch)
    .staleCoordinatorEpoch "request carries a stale coordinator identity or epoch"

def authorized {α : Type} (authority : CoordinatorAuthority) (request : Frame)
    (decode : ByteBuffer → Result α) (arm : α → ConnectionThread (Result Answer)) :
    ConnectionThread (Result Answer) :=
  .look fun server =>
    match checkAuthority server.engine.admissionOpen authority request with
    | .error status => .done (.error status)
    | .ok () =>
        match decode request.payload with
        | .error status => .done (.error status)
        | .ok payload => arm payload

def call (op : Op) (answer : CoordinatorReply → Result Answer) : ConnectionThread (Result Answer) :=
  .act (.perform op) fun reply => .done (answer reply)

def mutatedAnswer (type : MessageType) (reply : CoordinatorReply) : Result Answer :=
  reply.mutated.map fun mutation => artifactAnswer type
    { outcome := mutation.outcome, artifact := mutation.artifact,
      hasArtifact := mutation.artifact.id.valid, reasons := mutation.reasons }

def registeredAnswer (reply : CoordinatorReply) : Result Answer :=
  reply.registered.map fun record => artifactAnswer .registerArtifactResponse
    { outcome := .promotionCommitted, artifact := record, hasArtifact := true }

def submittedAnswer (reply : CoordinatorReply) : Result Answer :=
  reply.submitted.map fun record => ⟨.submitEvidenceResponse, encodeEvidenceRecord record⟩

def evidenceRevokedAnswer (reply : CoordinatorReply) : Result Answer :=
  reply.mutated.map fun mutation => artifactAnswer .revokeEvidenceResponse
    { outcome := mutation.outcome, reasons := mutation.reasons }

def evaluatedAnswer (reply : CoordinatorReply) : Result Answer :=
  reply.evaluated.map fun result =>
    ⟨.evaluateResponse, encodePromotionResult (evaluationPayload result)⟩

/-- `promote`, whose evaluation and commit lock the engine one after the other. -/
def promoting (promotion : PromotionRequest) (circumstances : Circumstances) :
    ConnectionThread (Result CommitResult) :=
  .act (.perform (.evaluate promotion circumstances.now)) fun reply =>
    match reply.evaluated with
    | .error status => .done (.error status)
    | .ok evaluated =>
        if !evaluated.hasPlan then
          .done (.ok { outcome := evaluated.decision.outcome, decision := evaluated.decision })
        else
          .act (.perform (.commit evaluated.plan circumstances.later)) fun reply =>
            .done reply.committed

def promotionOf (authority : CoordinatorAuthority) (request : Frame) (payload : PromotionPayload) :
    PromotionRequest :=
  { artifact := payload.artifact, expectedRevision := payload.revision,
    expectedDigest := payload.digest, requestedStage := payload.requestedStage,
    request := request.request, attempt := ⟨request.request.high, request.request.low⟩,
    authority, requester := ⟨request.worker, request.boot⟩ }

/-- The arm that serves both `EvaluateRequest` and `PromotionRequest`. The engine is only looked at
once more where the decision names a plan. -/
def deciding (authority : CoordinatorAuthority) (circumstances : Circumstances) (request : Frame)
    (payload : PromotionPayload) : ConnectionThread (Result Answer) :=
  if !isValidStageValue payload.requestedStage.toByte.toNat then
    .done (.error (.of .invalidStage (text "promotion request names no destination stage")
      request.request.toText))
  else
    let promotion := promotionOf authority request payload
    if request.type = .evaluateRequest then
      call (.evaluate promotion circumstances.now) evaluatedAnswer
    else
      (promoting promotion circumstances).bind fun committed =>
        .look fun server => .done (committed.map fun result =>
          ⟨.promotionResponse, encodePromotionResult (promotionPayload server.engine result)⟩)

def consulting {α : Type} (request : Frame) (decode : ByteBuffer → Result α)
    (arm : Engine → α → Result Answer) : ConnectionThread (Result Answer) :=
  .look fun server => .done (decode request.payload >>= arm server.engine)

def greeting (authority : CoordinatorAuthority) (state : CoordinatorState) : Answer :=
  ⟨.helloResponse, encodeHello
    { coordinator := authority.coordinator, epoch := authority.epoch,
      pendingPromotions := state.pending.size.toUInt64,
      policyGeneration := state.activePolicyGeneration,
      policyDigest := state.activePolicyDigest }⟩

/-- The handshake: the incarnation, and then the engine. -/
def welcoming (authority : CoordinatorAuthority) (request : Frame) :
    ConnectionThread (Result Answer) :=
  .act (.registerWorkerBoot request.worker request.boot) fun reply =>
    match reply.accepted with
    | .error status => .done (.error status)
    | .ok () => .look fun server => .done (.ok (greeting authority server.engine.snapshot))

/-- `handle_frame`, from the authority it reads first. -/
def dispatching (authority : CoordinatorAuthority) (circumstances : Circumstances)
    (request : Frame) : ConnectionThread (Result Answer) :=
  match request.type with
  | .helloRequest => welcoming authority request
  | .registerArtifactRequest => authorized authority request decodeRegisterArtifact fun payload =>
      call (.registerArtifact (receivedRegistration request payload) circumstances.now)
        registeredAnswer
  | .submitEvidenceRequest => authorized authority request decodeEvidenceSubmission fun payload =>
      call (.submitEvidence (receivedSubmission request payload)) submittedAnswer
  | .promotionRequest | .evaluateRequest =>
      authorized authority request decodePromotionRequest
        (deciding authority circumstances request)
  | .artifactStateRequest => consulting request decodePromotionRequest stateAnswer
  | .historyRequest => consulting request decodePromotionRequest historyAnswer
  | .explainRequest => consulting request decodePromotionRequest fun engine =>
      explainAnswer engine circumstances
  | .quarantineRequest => authorized authority request decodeTrust fun payload =>
      call (.quarantine payload.artifact payload.reasonClass payload.detail authority)
        (mutatedAnswer .quarantineResponse)
  | .releaseQuarantineRequest => authorized authority request decodeTrust fun payload =>
      call (.releaseQuarantine payload.artifact authority circumstances.now circumstances.later)
        (mutatedAnswer .releaseQuarantineResponse)
  | .revokeRequest => authorized authority request decodeTrust fun payload =>
      call (.revoke payload.artifact payload.decision payload.reasonClass payload.detail authority
        {} circumstances.now) (mutatedAnswer .revokeResponse)
  | .revokeEvidenceRequest => authorized authority request decodeTrust fun payload =>
      call (.revokeEvidence payload.evidence payload.detail authority) evidenceRevokedAnswer
  | .supersedeRequest => authorized authority request decodeTrust fun payload =>
      call (.supersede payload.artifact payload.successor payload.detail authority
        circumstances.now) (mutatedAnswer .supersedeResponse)
  | .retireRequest => authorized authority request decodeTrust fun payload =>
      call (.retire payload.artifact authority circumstances.now) (mutatedAnswer .retireResponse)
  | .snapshotSaveRequest => .done (circumstances.saved.map fun _ =>
      artifactAnswer .snapshotSaveResponse { outcome := .promotionCommitted })
  | _ => .done (.error (.of .protocolMalformed
      (text "a response message type was received as a request")))

def handling (circumstances : Circumstances) (request : Frame) : ConnectionThread (Result Answer) :=
  .look fun server => dispatching server.engine.state.authority circumstances request

def answeredTurn (authority : CoordinatorAuthority) (connection : Connection) (request : Frame)
    (answer : Result Answer) : Turn :=
  let response := handledResponse authority request answer
  let completed := request.type == .helloRequest && response.type == .helloResponse
  let noted := { connection with seenRequests := request.request :: connection.seenRequests }
  conclude { noted with handshakeCompleted := connection.handshakeCompleted || completed }
    response (some (request, answer))

def refusing (connection : Connection) (request : Frame) (code : ErrorCode) (message : String) :
    ConnectionThread Turn :=
  .look fun server => .done (conclude
    { connection with seenRequests := request.request :: connection.seenRequests }
    (errorResponse server.engine.state.authority request {} code (text message)))

def serving (connection : Connection) (circumstances : Circumstances) (request : Frame) :
    ConnectionThread Turn :=
  if request.type = .goodbye then .done {}
  else if connection.seenRequests.contains request.request then
    refusing connection request .duplicateRequest
      "this request identity was already received on this connection"
  else if !connection.handshakeCompleted && request.type != .helloRequest then
    refusing connection request .staleWorkerBoot
      "no handshake has been completed on this connection"
  else
    (handling circumstances request).bind fun answer => .look fun server =>
      .done (answeredTurn server.engine.state.authority connection request answer)

def receiving (connection : Connection) (delivery : Delivery) : ConnectionThread Turn :=
  match receiveFrame delivery.stream with
  | .ok (request, _) => serving connection delivery.circumstances request
  | .error (.refused status) => .look fun server => .done
      { reply := (encodeFrame (undecodedResponse server.engine.state.authority status)).toOption }
  | .error _ => .done {}

def connected : Connection → List Delivery → ConnectionThread (List Turn)
  | _, [] => .done []
  | connection, delivery :: rest =>
      (receiving connection delivery).bind fun turn =>
        match turn.connection with
        | none => .done [turn]
        | some next =>
            if delivery.sent then (connected next rest).bind fun turns => .done (turn :: turns)
            else .done [turn]

end FrameServer

end ArtifactPromotion
