import ArtifactPromotion.Distributed.Registrations
import ArtifactPromotion.Distributed.Sockets
import ArtifactPromotion.Distributed.Submissions

/-! The worker's side of the protocol: connecting, the handshake, and the calls, each of which is
one exchange of frames. -/

namespace ArtifactPromotion

open PartialTransfers Protocol

/-- One attempt to connect: no socket could be made, nobody accepts, or the connection stands. -/
inductive ConnectAttempt where
  | noSocket (reason : Text)
  | refused (reason : Text)
  | established

/-- `connect_loopback`: the first attempt that succeeds ends the loop, else the last failure is
reported. -/
def connectLoopback (attempts : List ConnectAttempt)
    (last : Status := .of .transportError (text "no connection attempt was made")) : Result Unit :=
  match attempts with
  | [] => .error last
  | .established :: _ => .ok ()
  | .noSocket reason :: rest =>
      connectLoopback rest (.of .transportError (text "cannot create a client socket: " ++ reason))
  | .refused reason :: rest =>
      connectLoopback rest (.of .transportError (text "connect failed: " ++ reason))

/-- What the system does with one exchange: how much `send` takes at each call, why it fails if it
does, and what can be received once these bytes went out. -/
structure Network where
  ready : List Nat
  reason : Text := []
  delivers : ByteBuffer → Incoming UInt8 SocketEnd

def Socket.closed : Socket := { valid := false, incoming := ⟨[], .closed, by simp⟩ }

/-- A client with what it keeps about its connection. -/
structure WorkerSession where
  worker : WorkerClient
  socket : Socket := .closed
  connected : Bool := false
  framesSent : UInt64 := 0

namespace WorkerClient

def adoptResponse (worker : WorkerClient) (response : Frame) : WorkerClient :=
  let worker :=
    if response.coordinator.valid && response.coordinator != worker.coordinator then
      { worker with coordinator := response.coordinator }
    else worker
  if response.epoch.valid &&
      (decide (response.epoch.value > worker.epoch.value) || response.epoch != worker.epoch) then
    { worker with epoch := response.epoch }
  else worker

def boundFrame (worker : WorkerClient) (type : MessageType) (request : PromotionRequestId)
    (flags : UInt32) (payload : ByteBuffer) : Frame :=
  { type, flags, request, coordinator := worker.coordinator, epoch := worker.epoch,
    worker := worker.worker, boot := worker.boot, payload }

/-- The handshake carries no authority: it is how the client learns the current one. -/
def helloFrame (worker : WorkerClient) : Frame :=
  { type := .helloRequest, request := worker.requestGenerator.next, worker := worker.worker,
    boot := worker.boot }

def advanced (worker : WorkerClient) : WorkerClient :=
  { worker with requestGenerator := worker.requestGenerator.advance }

end WorkerClient

namespace WorkerSession

/-- What an error response is turned into. A status with the code `Ok` is no failure. -/
def reported (response : Frame) : Result Frame :=
  match decodeStatus response.payload with
  | .error status => .error status
  | .ok reason =>
      if reason.code = .ok then .ok response
      else .error ⟨reason.code, reason.text, reason.subject⟩

def accept (session : WorkerSession) (request : Frame) (bytes : ByteBuffer) :
    Result Frame × WorkerSession :=
  match decodeFrame bytes with
  | .error status => (.error status, session)
  | .ok response =>
      if response.correlation ≠ request.request then
        (.error (.of .protocolError (text "the response does not correlate with the request")),
          session)
      else if response.type = .error then (reported response, session)
      else (.ok response, { session with worker := session.worker.adoptResponse response })

def receive (session : WorkerSession) (request : Frame) : Result Frame × WorkerSession :=
  match session.socket.receiveExactly kFrameHeaderSize with
  | .error status => (.error status, { session with connected := false })
  | .ok (header, socket) =>
      let declared := (loadU32 (header.drop 12)).toNat
      if declared > kMaxFrameBytes then
        (.error (.of .protocolOversized
          (text "the coordinator declared an oversized response frame")), { session with socket })
      else
        match socket.receiveExactly (declared + kFrameFooterSize) with
        | .error status => (.error status, { session with socket, connected := false })
        | .ok (rest, socket) => { session with socket }.accept request (header ++ rest)

def exchange (session : WorkerSession) (network : Network) (request : Frame) :
    Result Frame × WorkerSession :=
  match encodeFrame request with
  | .error status => (.error status, session)
  | .ok bytes =>
      match session.socket.sendAll network.ready network.reason bytes with
      | (_, .error status) => (.error status, { session with connected := false })
      | (written, .ok ()) =>
          { session with
            framesSent := session.framesSent + 1
            socket := { session.socket with incoming := network.delivers written } }.receive request

def handshake (session : WorkerSession) (network : Network) : Result Unit × WorkerSession :=
  if !session.connected then
    (.error (.of .connectionClosed (text "the worker is not connected to a coordinator")), session)
  else
    match { session with worker := session.worker.advanced }.exchange network
        session.worker.helloFrame with
    | (.error status, session) => (.error status, session)
    | (.ok response, session) =>
        if response.type ≠ .helloResponse then
          (.error (.of .protocolError
            (text "the coordinator did not answer the handshake with a hello response")), session)
        else
          match decodeHello response.payload with
          | .error status => (.error status, session)
          | .ok hello =>
              (.ok (), { session with worker := session.worker.adopt ⟨hello.coordinator, hello.epoch⟩ })

def dialled (session : WorkerSession) : WorkerSession :=
  { session with socket := { Socket.closed with valid := true }, connected := true }

def hungUp (session : WorkerSession) : WorkerSession :=
  { session with socket := .closed, connected := false }

def connect (session : WorkerSession) (attempts : List ConnectAttempt) (network : Network) :
    Result Unit × WorkerSession :=
  if session.connected then (.ok (), session)
  else
    match connectLoopback attempts with
    | .error status => (.error status, session)
    | .ok () =>
        match session.dialled.handshake network with
        | (.error status, session) => (.error status, session.hungUp)
        | (.ok (), session) => (.ok (), session)

def disconnect (session : WorkerSession) (network : Network) : ByteBuffer × WorkerSession :=
  if !session.connected then ([], session)
  else
    let goodbye := session.worker.boundFrame .goodbye session.worker.requestGenerator.next
      kFlagNone []
    let written := match encodeFrame goodbye with
      | .error _ => []
      | .ok bytes => (session.socket.sendAll network.ready network.reason bytes).1
    (written, { session with worker := session.worker.advanced }.hungUp)

end WorkerSession

/-- One kind of call: what is checked before anything is sent, the frame, the type of the response
that is expected, and how its payload is read. -/
structure Question (α : Type) where
  type : MessageType
  flags : UInt32 := kFlagNone
  /-- The identity of the request, where the caller chose a valid one. -/
  chosen : PromotionRequestId := {}
  checked : Result Unit := .ok ()
  payload : Result ByteBuffer := .ok []
  answered : MessageType
  unexpected : String
  read : ByteBuffer → Result α

namespace Question

variable {α β : Type}

def map (question : Question α) (change : α → β) : Question β :=
  { question with read := fun bytes => (question.read bytes).map change }

def frame (question : Question α) (worker : WorkerClient) : Result Frame × WorkerClient :=
  match question.checked with
  | .error status => (.error status, worker)
  | .ok () =>
      if question.chosen.valid then
        (question.payload.map (worker.boundFrame question.type question.chosen question.flags),
          worker)
      else
        (question.payload.map
          (worker.boundFrame question.type worker.requestGenerator.next question.flags),
          worker.advanced)

def answer (question : Question α) (response : Frame) : Result α := do
  rejectWhen (response.type != question.answered) .protocolError question.unexpected
  question.read response.payload

end Question

/-- The shape of the calls: the frame is made, exchanged, and the response is read. -/
def WorkerSession.ask {α : Type} (session : WorkerSession) (network : Network)
    (question : Question α) : Result α × WorkerSession :=
  match question.frame session.worker with
  | (.error status, worker) => (.error status, { session with worker })
  | (.ok request, worker) =>
      match { session with worker }.exchange network request with
      | (.error status, session) => (.error status, session)
      | (.ok response, session) => (question.answer response, session)

namespace WorkerClient

def registeredRecord (result : ArtifactResultPayload) : Result ArtifactRecord :=
  if !result.hasArtifact then
    .error (.of .artifactNotFound (text "the coordinator did not return an artifact record"))
  else .ok result.artifact

def registerArtifact (registration : ArtifactRegistration) : Question ArtifactRecord where
  type := .registerArtifactRequest
  checked := registration.validate
  payload := encodeRegisterArtifact (registrationPayload registration)
  answered := .registerArtifactResponse
  unexpected := "unexpected response type for an artifact registration"
  read bytes := decodeArtifactResult bytes >>= registeredRecord

def submitEvidence (submission : EvidenceSubmission) : Question EvidenceRecord where
  type := .submitEvidenceRequest
  checked := submission.validate
  payload := .ok (encodeEvidenceSubmission (evidencePayload submission))
  answered := .submitEvidenceResponse
  unexpected := "unexpected response type for an evidence submission"
  read := decodeEvidenceRecord

def makePromotionPayload (request : PromotionRequest) : PromotionPayload :=
  { artifact := request.artifact, revision := request.expectedRevision,
    digest := request.expectedDigest, requestedStage := request.requestedStage }

def evaluate (request : PromotionRequest) : Question EvaluationResult where
  type := .evaluateRequest
  chosen := request.request
  payload := .ok (encodePromotionRequest (makePromotionPayload request))
  answered := .evaluateResponse
  unexpected := "unexpected response type for an evaluation"
  read bytes := (decodePromotionResult bytes).map fun result =>
    { decision := result.decision, plan := result.plan, hasPlan := result.hasPlan }

/-- A promotion may already be committed when its answer is lost: it is marked as no call to retry
blindly. -/
def promote (request : PromotionRequest) : Question CommitResult where
  type := .promotionRequest
  flags := kFlagNonIdempotent
  chosen := request.request
  payload := .ok (encodePromotionRequest (makePromotionPayload request))
  answered := .promotionResponse
  unexpected := "unexpected response type for a promotion"
  read bytes := (decodePromotionResult bytes).map fun result =>
    { outcome := result.outcome, decision := result.decision, record := result.record,
      hasRecord := result.hasRecord }

def artifactState (artifact : ArtifactId) : Question ArtifactStatePayload where
  type := .artifactStateRequest
  payload := .ok (encodePromotionRequest (makePromotionPayload { artifact }))
  answered := .artifactStateResponse
  unexpected := "unexpected response type for an artifact state query"
  read := decodeArtifactState

def history (artifact : ArtifactId) : Question (List PromotionRecord) where
  type := .historyRequest
  payload := .ok (encodePromotionRequest (makePromotionPayload { artifact }))
  answered := .historyResponse
  unexpected := "unexpected response type for a history query"
  read bytes := (decodeHistory bytes).map HistoryPayload.records

def trustMutation (result : ArtifactResultPayload) : TrustMutation :=
  { outcome := result.outcome, artifact := result.artifact, reasons := result.reasons }

def quarantine (artifact : ArtifactId) (reasonClass detail : Text) : Question TrustMutation where
  type := .quarantineRequest
  flags := kFlagNonIdempotent
  payload := .ok (encodeTrust { artifact, reasonClass, detail })
  answered := .quarantineResponse
  unexpected := "unexpected response type for a quarantine request"
  read bytes := (decodeArtifactResult bytes).map trustMutation

def revoke (artifact : ArtifactId) (reasonClass detail : Text) : Question TrustMutation where
  type := .revokeRequest
  flags := kFlagNonIdempotent
  payload := .ok (encodeTrust { artifact, reasonClass, detail })
  answered := .revokeResponse
  unexpected := "unexpected response type for a revocation"
  read bytes := (decodeArtifactResult bytes).map trustMutation

def explain (artifact : ArtifactId) (destination : Stage) : Question PromotionDecision where
  type := .explainRequest
  payload := .ok (encodePromotionRequest
    (makePromotionPayload { artifact, requestedStage := destination }))
  answered := .explainResponse
  unexpected := "unexpected response type for an explanation"
  read bytes := (decodePromotionResult bytes).map PromotionResultPayload.decision

def requestSnapshotSave : Question Unit where
  type := .snapshotSaveRequest
  answered := .snapshotSaveResponse
  unexpected := "unexpected response type for a snapshot save request"
  read _ := .ok ()

end WorkerClient

inductive ClientCall where
  | registerArtifact (registration : ArtifactRegistration)
  | submitEvidence (submission : EvidenceSubmission)
  | evaluate (request : PromotionRequest)
  | promote (request : PromotionRequest)
  | artifactState (artifact : ArtifactId)
  | history (artifact : ArtifactId)
  | quarantine (artifact : ArtifactId) (reasonClass detail : Text)
  | revoke (artifact : ArtifactId) (reasonClass detail : Text)
  | explain (artifact : ArtifactId) (destination : Stage)
  | requestSnapshotSave

inductive ClientAnswer where
  | registered (record : ArtifactRecord)
  | submitted (record : EvidenceRecord)
  | evaluated (result : EvaluationResult)
  | promoted (result : CommitResult)
  | state (payload : ArtifactStatePayload)
  | history (records : List PromotionRecord)
  | trusted (mutation : TrustMutation)
  | explained (decision : PromotionDecision)
  | done

def ClientCall.question : ClientCall → Question ClientAnswer
  | .registerArtifact registration => (WorkerClient.registerArtifact registration).map .registered
  | .submitEvidence submission => (WorkerClient.submitEvidence submission).map .submitted
  | .evaluate request => (WorkerClient.evaluate request).map .evaluated
  | .promote request => (WorkerClient.promote request).map .promoted
  | .artifactState artifact => (WorkerClient.artifactState artifact).map .state
  | .history artifact => (WorkerClient.history artifact).map .history
  | .quarantine artifact reasonClass detail =>
      (WorkerClient.quarantine artifact reasonClass detail).map .trusted
  | .revoke artifact reasonClass detail =>
      (WorkerClient.revoke artifact reasonClass detail).map .trusted
  | .explain artifact destination => (WorkerClient.explain artifact destination).map .explained
  | .requestSnapshotSave => WorkerClient.requestSnapshotSave.map fun _ => .done

theorem WorkerClient.registerArtifact_frame (worker : WorkerClient)
    (registration : ArtifactRegistration) :
    ((WorkerClient.registerArtifact registration).frame worker).1 =
      worker.registerArtifactFrame registration := by
  unfold Question.frame WorkerClient.registerArtifact registerArtifactFrame
  dsimp only
  cases registration.validate with
  | error status => rfl
  | ok done =>
      cases encodeRegisterArtifact (registrationPayload registration) with
      | error status => rfl
      | ok payload => rfl

end ArtifactPromotion
