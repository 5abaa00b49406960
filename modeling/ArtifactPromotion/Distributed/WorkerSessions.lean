import ArtifactPromotion.Distributed.AnswerCodecs
import ArtifactPromotion.Distributed.Answers
import ArtifactPromotion.Distributed.Connections
import ArtifactPromotion.Distributed.FailureCodes
import ArtifactPromotion.Distributed.WorkerCalls
import ArtifactPromotion.Library.Runs

/-! A worker's session with the coordinator: connections that may break at any byte, calls on them,
and anything else that happens to the coordinator in between. -/

namespace ArtifactPromotion

open PartialTransfers Protocol Runs

/-- What a call is told when the connection failed. -/
def Status.Transport (status : Status) : Prop :=
  status.code = .transportError ∨ status.code = .connectionClosed

namespace Socket

variable {socket : Socket}

theorem sendAll_failure {ready : List Nat} {reason : Text} {data : ByteBuffer} {status : Status}
    (failed : (socket.sendAll ready reason data).2 = .error status) : status.Transport := by
  unfold sendAll at failed
  split at failed
  · cases failed
    exact .inl rfl
  · dsimp only at failed
    split at failed
    · cases failed
    · cases failed
      exact .inl rfl

theorem receiveExactly_failure {size : Nat} {status : Status}
    (failed : socket.receiveExactly size = .error status) : status.Transport := by
  unfold receiveExactly at failed
  split at failed
  · cases failed
    exact .inl rfl
  · split at failed
    · cases failed
    · cases failed
      exact .inr rfl
    · cases failed
      exact .inl rfl

theorem receiveExactly_valid {size : Nat} {bytes : ByteBuffer} {next : Socket}
    (received : socket.receiveExactly size = .ok (bytes, next)) : socket.valid = true := by
  cases valid : socket.valid with
  | true => rfl
  | false => simp [receiveExactly, valid] at received

end Socket

namespace WorkerSession

variable {session : WorkerSession} {network : Network} {request response : Frame}

def Lost {α : Type} (session : WorkerSession) (outcome : Result α × WorkerSession) : Prop :=
  ∃ status, outcome.1 = .error status ∧ status.Transport ∧ outcome.2.connected = false ∧
    outcome.2.worker = session.worker

theorem receive_cases (answers : Sendable response)
    (arrives : session.socket.incoming.content <+: frameBytes response) :
    session.Lost (session.receive request) ∨
    (session.socket.incoming.content = frameBytes response ∧ ∃ socket,
      session.receive request = { session with socket }.accept request (frameBytes response)) := by
  obtain ⟨rest, split⟩ := arrives
  have bounded := answers.bounded
  have whole := frameBytes_length response
  unfold receive
  cases first : session.socket.receiveExactly kFrameHeaderSize with
  | error status => exact .inl ⟨status, rfl, Socket.receiveExactly_failure first, rfl, rfl⟩
  | ok taken =>
      obtain ⟨header, socket⟩ := taken
      have valid := Socket.receiveExactly_valid first
      have enough : kFrameHeaderSize ≤ session.socket.incoming.content.length := by
        by_contra few
        obtain ⟨status, failed⟩ := Socket.receiveExactly_short (Nat.lt_of_not_le few)
        rw [first] at failed
        cases failed
      obtain ⟨next, exactly, nextValid, remaining⟩ := Socket.receiveExactly_enough valid enough
      rw [first, Except.ok.injEq, Prod.mk.injEq] at exactly
      obtain ⟨rfl, rfl⟩ := exactly
      have front : session.socket.incoming.content.take kFrameHeaderSize = response.header := by
        have same := congrArg (List.take kFrameHeaderSize) split
        rwa [List.take_append_of_le_length enough, frameBytes, Frame.content, List.append_assoc,
          List.take_left' (header_length response)] at same
      dsimp only
      rw [front, header_declares answers, if_neg (by omega)]
      cases second : socket.receiveExactly (response.payload.length + kFrameFooterSize) with
      | error status => exact .inl ⟨status, rfl, Socket.receiveExactly_failure second, rfl, rfl⟩
      | ok taken =>
          obtain ⟨body, last⟩ := taken
          have more : response.payload.length + kFrameFooterSize ≤
              socket.incoming.content.length := by
            by_contra few
            obtain ⟨status, failed⟩ := Socket.receiveExactly_short (Nat.lt_of_not_le few)
            rw [second] at failed
            cases failed
          obtain ⟨final, exactly, _, _⟩ := Socket.receiveExactly_enough nextValid more
          rw [second, Except.ok.injEq, Prod.mk.injEq] at exactly
          obtain ⟨rfl, rfl⟩ := exactly
          have complete : session.socket.incoming.content = frameBytes response := by
            rw [remaining, List.length_drop] at more
            have lengths := congrArg List.length split
            rw [List.length_append, whole] at lengths
            have nothing : rest = [] := List.eq_nil_of_length_eq_zero (by omega)
            rw [← split, nothing, List.append_nil]
          refine .inr ⟨complete, last, ?_⟩
          dsimp only
          rw [remaining, ← front, ← List.take_add, ← Nat.add_assoc, ← whole, complete,
            List.take_length]

theorem exchange_cases (sendable : Sendable request) (answers : Sendable response)
    (arrives : (network.delivers (frameBytes request)).content <+: frameBytes response) :
    session.Lost (session.exchange network request) ∨
    ((network.delivers (frameBytes request)).content = frameBytes response ∧ ∃ next : WorkerSession,
      next.worker = session.worker ∧ next.connected = session.connected ∧
      session.exchange network request = next.accept request (frameBytes response)) := by
  have encoded : encodeFrame request = .ok (frameBytes request) :=
    (encodeFrame_eq_ok _ _).mpr ⟨sendable, rfl⟩
  obtain ⟨left, split, sent⟩ := session.socket.sendAll_spec network.ready network.reason
    (frameBytes request)
  unfold exchange
  rw [encoded]
  dsimp only
  cases sending : session.socket.sendAll network.ready network.reason (frameBytes request) with
  | mk written status =>
      rw [sending] at split sent
      cases status with
      | error status =>
          exact .inl ⟨status, rfl, Socket.sendAll_failure (congrArg Prod.snd sending), rfl, rfl⟩
      | ok done =>
          obtain rfl := sent rfl
          obtain rfl : frameBytes request = written := by rwa [List.append_nil] at split
          rcases @receive_cases { session with
              framesSent := session.framesSent + 1
              socket := { session.socket with
                incoming := network.delivers (frameBytes request) } } request response
            answers arrives with lost | ⟨complete, socket, accepted⟩
          · exact .inl lost
          · refine .inr ⟨complete, _, ?_, ?_, accepted⟩
            · rfl
            · rfl

theorem accept_refusal {code : ErrorCode} {message : Text} (answers : Sendable response)
    (versioned : response.version = kProtocolVersion)
    (correlated : response.correlation = request.request) (typed : response.type = .error)
    (carries : response.payload = encodeStatus code message) (fails : code ≠ .ok)
    (fits : message.length ≤ kMaxTextLength) :
    session.accept request (frameBytes response) = (.error (.of code message), session) := by
  unfold accept reported
  rw [decodeFrame_frameBytes answers versioned]
  dsimp only
  rw [if_neg (not_not.mpr correlated), if_pos typed, carries, decode_encodeStatus code fits]
  dsimp only
  rw [if_neg (show (Reason.of code message).code ≠ .ok from fails)]
  rfl

theorem accept_answer (answers : Sendable response)
    (versioned : response.version = kProtocolVersion)
    (correlated : response.correlation = request.request) (typed : response.type ≠ .error) :
    session.accept request (frameBytes response) =
      (.ok response, { session with worker := session.worker.adoptResponse response }) := by
  unfold accept
  rw [decodeFrame_frameBytes answers versioned]
  dsimp only
  rw [if_neg (not_not.mpr correlated), if_neg typed]

end WorkerSession

namespace FrameServer

variable {server : FrameServer} {connection : Connection} {circumstances : Circumstances}
  {request : Frame}

def noted (connection : Connection) (request : Frame) : Connection :=
  { connection with seenRequests := request.request :: connection.seenRequests }

/-- How one turn over a frame that arrived completely ends. -/
inductive Served (server : FrameServer) (connection : Connection) (circumstances : Circumstances)
    (request : Frame) : Turn × FrameServer → Frame → Prop
  | repeated : request.request ∈ connection.seenRequests →
      Served server connection circumstances request
        (conclude (noted connection request) (errorResponse server.engine.state.authority request {}
          .duplicateRequest (text "this request identity was already received on this connection")),
          server)
        (errorResponse server.engine.state.authority request {} .duplicateRequest
          (text "this request identity was already received on this connection"))
  | early : connection.handshakeCompleted = false → request.type ≠ .helloRequest →
      Served server connection circumstances request
        (conclude (noted connection request) (errorResponse server.engine.state.authority request {}
          .staleWorkerBoot (text "no handshake has been completed on this connection")), server)
        (errorResponse server.engine.state.authority request {} .staleWorkerBoot
          (text "no handshake has been completed on this connection"))
  | handled (answer : Result Answer) (after : FrameServer) (response : Frame) :
      request.request ∉ connection.seenRequests →
      server.handleFrame circumstances request = (answer, after) →
      response = handledResponse after.engine.state.authority request answer →
      Served server connection circumstances request
        (conclude { noted connection request with
            handshakeCompleted := connection.handshakeCompleted ||
              (request.type == .helloRequest && response.type == .helloResponse) }
          response (some (request, answer)), after) response

theorem serveRequest_served (stays : request.type ≠ .goodbye) :
    ∃ response, Served server connection circumstances request
      (server.serveRequest connection circumstances request) response := by
  unfold serveRequest
  dsimp only
  rw [if_neg stays]
  by_cases repeated : connection.seenRequests.contains request.request = true
  · rw [if_pos repeated]
    exact ⟨_, .repeated (by simpa using repeated)⟩
  rw [if_neg repeated]
  have unseen : request.request ∉ connection.seenRequests := by simpa using repeated
  by_cases early : (!connection.handshakeCompleted && request.type != .helloRequest) = true
  · rw [if_pos early]
    simp only [Bool.and_eq_true, Bool.not_eq_true', bne_iff_ne] at early
    exact ⟨_, .early early.1 early.2⟩
  rw [if_neg early]
  exact ⟨_, .handled _ _ _ unseen rfl rfl⟩

theorem served_response {outcome : Turn × FrameServer} {response : Frame}
    (served : Served server connection circumstances request outcome response) :
    response.version = kProtocolVersion ∧ response.correlation = request.request := by
  cases served with
  | repeated => exact ⟨rfl, rfl⟩
  | early => exact ⟨rfl, rfl⟩
  | handled answer after response _ _ made =>
      subst made
      cases answer <;> exact ⟨rfl, rfl⟩

def responseType : MessageType → MessageType
  | .helloRequest => .helloResponse
  | .registerArtifactRequest => .registerArtifactResponse
  | .submitEvidenceRequest => .submitEvidenceResponse
  | .evaluateRequest => .evaluateResponse
  | .promotionRequest => .promotionResponse
  | .artifactStateRequest => .artifactStateResponse
  | .historyRequest => .historyResponse
  | .explainRequest => .explainResponse
  | .quarantineRequest => .quarantineResponse
  | .releaseQuarantineRequest => .releaseQuarantineResponse
  | .revokeRequest => .revokeResponse
  | .revokeEvidenceRequest => .revokeEvidenceResponse
  | .supersedeRequest => .supersedeResponse
  | .retireRequest => .retireResponse
  | .snapshotSaveRequest => .snapshotSaveResponse
  | _ => .invalid

theorem handleFrame_type {answer : Answer} {next : FrameServer}
    (served : server.handleFrame circumstances request = (.ok answer, next)) :
    answer.type = responseType request.type := by
  have mutation {type : MessageType} {arm : TrustPayload → Result TrustMutation × Engine}
      (answered : server.withAuthority request decodeTrust
        (fun payload => mutationAnswer type (arm payload)) = (.ok answer, next)) :
      answer.type = type := by
    obtain ⟨payload, made⟩ := withAuthority_answered answered
    exact answered_type (fun _ => rfl) made
  unfold handleFrame at served
  cases asked : request.type
  all_goals simp only [asked] at served
  case helloRequest =>
    split at served
    · cases served
    · cases served
      rfl
  case registerArtifactRequest | submitEvidenceRequest | revokeEvidenceRequest =>
    obtain ⟨payload, made⟩ := withAuthority_answered served
    exact answered_type (fun _ => rfl) made
  case evaluateRequest | promotionRequest =>
    obtain ⟨payload, made⟩ := withAuthority_answered served
    unfold decidePromotion at made
    split at made
    · cases made
    · simp only [asked, reduceCtorEq, if_false] at made
      exact answered_type (fun _ => rfl) made
  case artifactStateRequest =>
    obtain ⟨payload, _, answered⟩ := (bind_eq_ok _ _ _).mp (congrArg Prod.fst served)
    unfold stateAnswer at answered
    split at answered
    · cases answered
    · cases answered
      rfl
  case historyRequest =>
    obtain ⟨payload, _, answered⟩ := (bind_eq_ok _ _ _).mp (congrArg Prod.fst served)
    exact answered_type (fun _ => rfl) answered
  case explainRequest =>
    obtain ⟨payload, _, answered⟩ := (bind_eq_ok _ _ _).mp (congrArg Prod.fst served)
    unfold explainAnswer at answered
    split at answered
    · cases answered
    · cases answered
      rfl
  case quarantineRequest | releaseQuarantineRequest | revokeRequest | supersedeRequest |
      retireRequest => exact mutation served
  case snapshotSaveRequest =>
    exact answered_type (fun _ => rfl) (congrArg Prod.fst served)
  all_goals cases served

end FrameServer

theorem Question.frame_made {α : Type} {question : Question α} {worker next : WorkerClient}
    {request : Frame} (made : question.frame worker = (.ok request, next)) :
    (∃ id payload, request = worker.boundFrame question.type id question.flags payload) ∧
      next.coordinator = worker.coordinator ∧ next.epoch = worker.epoch := by
  have shaped {id : PromotionRequestId}
      (mapped : question.payload.map (worker.boundFrame question.type id question.flags) =
        .ok request) :
      ∃ id payload, request = worker.boundFrame question.type id question.flags payload := by
    cases encoded : question.payload with
    | error status =>
        rw [encoded] at mapped
        cases mapped
    | ok payload =>
        rw [encoded] at mapped
        cases mapped
        exact ⟨id, payload, rfl⟩
  unfold frame at made
  split at made
  · cases made
  split at made
  · obtain ⟨mapped, rfl⟩ := Prod.mk.inj made
    exact ⟨shaped mapped, rfl, rfl⟩
  · obtain ⟨mapped, rfl⟩ := Prod.mk.inj made
    exact ⟨shaped mapped, rfl, rfl⟩

namespace ClientCall

theorem question_answered (call : ClientCall) :
    call.question.answered = FrameServer.responseType call.question.type := by
  cases call <;> rfl

theorem question_typed (call : ClientCall) :
    call.question.type ≠ .goodbye ∧ call.question.type ≠ .helloRequest := by
  cases call <;> exact ⟨nofun, nofun⟩

def told (call : ClientCall) : Result Answer → Result ClientAnswer
  | .error status => .error (.of status.code status.message.view)
  | .ok answer => call.question.read answer.payload

end ClientCall

/-- What surrounds one exchange: how the coordinator finds its surroundings, what `send` takes of
the request at each call and how much of it arrives, and what comes back of the reply. A transfer
that stops short is the end of the connection. -/
structure Passage where
  circumstances : Circumstances
  saves : Failing circumstances.saved
  ready : List Nat
  reason : Text := []
  arrived : Nat
  returned : ByteBuffer → Incoming UInt8 SocketEnd
  honest : ∀ bytes, (returned bytes).content <+: bytes

/-- The network during an exchange in which the coordinator's thread takes this turn. -/
def Passage.network (passage : Passage) (turn : FrameServer.Turn) : Network :=
  { ready := passage.ready, reason := passage.reason
    delivers := fun _ => passage.returned (turn.reply.getD []) }

/-- A client, the coordinator, and the thread that serves the client's connection, if there is
one. -/
structure RemoteSystem where
  session : WorkerSession
  server : FrameServer
  link : Option Connection := none

inductive SessionMove where
  | connect (attempts : List ConnectAttempt) (passage : Passage)
  | handshake (passage : Passage)
  | call (call : ClientCall) (passage : Passage)
  | disconnect (passage : Passage)
  | dropped
  | others (server : FrameServer)

/-- What came of a move: the frame that was made, what the handler was given and answered, and what
the caller was told. -/
structure Outcome where
  made : Option Frame := none
  handled : Option (Frame × Result Answer) := none
  result : Result ClientAnswer := .ok .done

namespace RemoteSystem

/-- The coordinator's part in an exchange. A frame that cannot be encoded never leaves the
client. -/
def exchanged (system : RemoteSystem) (passage : Passage) (request : Frame) :
    FrameServer.Turn × FrameServer :=
  match encodeFrame request, system.link with
  | .error _, _ => ({ connection := system.link }, system.server)
  | .ok _, none => ({}, system.server)
  | .ok bytes, some connection =>
      system.server.serveConnection connection passage.circumstances
        ((system.session.socket.sendAll passage.ready passage.reason bytes).1.take passage.arrived)

/-- The end of an exchange: a client that saw its connection fail has none. -/
def concluded (turn : FrameServer.Turn) (server : FrameServer) (session : WorkerSession) :
    RemoteSystem :=
  { session, server, link := if session.connected then turn.connection else none }

def greet (system : RemoteSystem) (passage : Passage)
    (greeting : Network → Result Unit × WorkerSession) : Outcome × RemoteSystem :=
  let request := system.session.worker.helloFrame
  let (turn, server) := system.exchanged passage request
  let (greeted, session) := greeting (passage.network turn)
  ({ made := some request, handled := turn.handled, result := greeted.map fun _ => .done },
    concluded turn server session)

def call (system : RemoteSystem) (call : ClientCall) (passage : Passage) : Outcome × RemoteSystem :=
  match call.question.frame system.session.worker with
  | (.error status, worker) =>
      ({ result := .error status }, { system with session := { system.session with worker } })
  | (.ok request, _) =>
      let (turn, server) := system.exchanged passage request
      let (result, session) := system.session.ask (passage.network turn) call.question
      ({ made := some request, handled := turn.handled, result }, concluded turn server session)

def connect (system : RemoteSystem) (attempts : List ConnectAttempt) (passage : Passage) :
    Outcome × RemoteSystem :=
  if system.session.connected then ({}, system)
  else
    match connectLoopback attempts with
    | .error status => ({ result := .error status }, system)
    | .ok () =>
        { system with session := system.session.dialled, link := some {} }.greet passage
          (system.session.connect attempts)

def step (system : RemoteSystem) : SessionMove → Option (Outcome × RemoteSystem)
  | .connect attempts passage => some (system.connect attempts passage)
  | .handshake passage =>
      if system.session.connected then some (system.greet passage system.session.handshake)
      else some ({ result := (system.session.handshake (passage.network {})).1.map fun _ => .done },
        system)
  | .call call passage => some (system.call call passage)
  | .disconnect passage =>
      some ({}, { system with
        session := (system.session.disconnect (passage.network {})).2, link := none })
  | .dropped => some ({}, { system with link := none })
  | .others server => some ({}, { system with server })

section Exchanges

open FrameServer

variable {system : RemoteSystem} {passage : Passage} {session : WorkerSession} {request : Frame}

/-- The frame was handed to the handler, or the coordinator did not notice it. -/
def Applied (server : FrameServer) (circumstances : Circumstances) (request : Frame)
    (outcome : Turn × FrameServer) : Prop :=
  (outcome.1.handled = none ∧ outcome.2 = server) ∨
    (outcome.1.handled = some (request, (server.handleFrame circumstances request).1) ∧
      outcome.2 = (server.handleFrame circumstances request).2)

theorem served_applied {server : FrameServer} {connection : Connection}
    {circumstances : Circumstances} {outcome : Turn × FrameServer} {response : Frame}
    (served : Served server connection circumstances request outcome response) :
    Applied server circumstances request outcome := by
  cases served with
  | repeated => exact .inl ⟨conclude_handled _ _, rfl⟩
  | early => exact .inl ⟨conclude_handled _ _, rfl⟩
  | handled answer after _ _ handled =>
      rw [Applied, handled]
      exact .inr ⟨conclude_handled _ _, rfl⟩

theorem serveConnection_cases {server : FrameServer} {connection : Connection}
    {circumstances : Circumstances} {stream : ByteBuffer} (sendable : Sendable request)
    (versioned : request.version = kProtocolVersion) (stays : request.type ≠ .goodbye)
    (arrives : stream <+: frameBytes request) :
    server.serveConnection connection circumstances stream = ({}, server) ∨
    ∃ response, Served server connection circumstances request
      (server.serveConnection connection circumstances stream) response := by
  by_cases short : stream.length < (frameBytes request).length
  · have unfinished : stream <+: frameBytes request ++ [] := by rwa [List.append_nil]
    unfold serveConnection
    rcases receiveFrame_partial sendable unfinished short with closed | truncated
    · rw [closed]
      exact .inl rfl
    · rw [truncated]
      exact .inl rfl
  · obtain rfl : stream = frameBytes request := arrives.eq_of_length_le (Nat.le_of_not_lt short)
    have received := receiveFrame_frameBytes sendable versioned []
    rw [List.append_nil] at received
    unfold serveConnection
    rw [received]
    exact .inr (serveRequest_served stays)

theorem served_replied {server : FrameServer} {connection : Connection}
    {circumstances : Circumstances} {outcome : Turn × FrameServer} {response : Frame}
    (served : Served server connection circumstances request outcome response) :
    outcome.1.reply = none ∨
    Sendable response ∧ outcome.1.reply = some (frameBytes response) ∧
      ∃ next, outcome.1.connection = some next ∧
        (next.handshakeCompleted = true ↔ connection.handshakeCompleted = true ∨
          request.type = .helloRequest ∧ response.type = .helloResponse) := by
  have concluded (connection : Connection) (handled : Option (Frame × Result Answer)) :
      (conclude connection response handled).reply = none ∨ Sendable response ∧
        (conclude connection response handled).reply = some (frameBytes response) ∧
        (conclude connection response handled).connection = some connection := by
    unfold conclude
    cases encoded : encodeFrame response with
    | error status => exact .inl rfl
    | ok bytes =>
        obtain ⟨sendable, rfl⟩ := (encodeFrame_eq_ok _ _).mp encoded
        exact .inr ⟨sendable, rfl, rfl⟩
  cases served with
  | repeated =>
      refine (concluded _ _).imp_right ?_
      rintro ⟨sendable, replied, kept⟩
      exact ⟨sendable, replied, _, kept, by simp [noted, errorResponse]⟩
  | early =>
      refine (concluded _ _).imp_right ?_
      rintro ⟨sendable, replied, kept⟩
      exact ⟨sendable, replied, _, kept, by simp [noted, errorResponse]⟩
  | handled =>
      refine (concluded _ _).imp_right ?_
      rintro ⟨sendable, replied, kept⟩
      exact ⟨sendable, replied, _, kept, by simp⟩

/-- One exchange is lost, whether or not the frame was handled, or the client looks at the very
response that the coordinator's thread made of its frame. -/
theorem exchanged_cases (sendable : Sendable request)
    (versioned : request.version = kProtocolVersion) (stays : request.type ≠ .goodbye) :
    session.Lost (session.exchange (passage.network (system.exchanged passage request).1) request) ∧
      Applied system.server passage.circumstances request (system.exchanged passage request) ∨
    ∃ connection response next after, system.link = some connection ∧
      Served system.server connection passage.circumstances request
        (system.exchanged passage request) response ∧
      Sendable response ∧ (system.exchanged passage request).1.connection = some after ∧
      (after.handshakeCompleted = true ↔ connection.handshakeCompleted = true ∨
        request.type = .helloRequest ∧ response.type = .helloResponse) ∧
      next.worker = session.worker ∧ next.connected = session.connected ∧
      session.exchange (passage.network (system.exchanged passage request).1) request =
        WorkerSession.accept next request (frameBytes response) := by
  have lost {turn : Turn} (silent : turn.reply = none) :
      session.Lost (session.exchange (passage.network turn) request) := by
    have nothing : ((passage.network turn).delivers (frameBytes request)).content <+: [] := by
      simpa [Passage.network, silent] using passage.honest []
    rcases @WorkerSession.exchange_cases session _ _ _ sendable sendable
      (nothing.trans List.nil_prefix) with lost | ⟨complete, _⟩
    · exact lost
    · have size := congrArg List.length complete
      rw [List.prefix_nil.mp nothing, frameBytes_length] at size
      simp [kFrameFooterSize] at size
  have encoded : encodeFrame request = .ok (frameBytes request) :=
    (encodeFrame_eq_ok _ _).mpr ⟨sendable, rfl⟩
  unfold exchanged
  rw [encoded]
  cases linked : system.link with
  | none => exact .inl ⟨lost rfl, .inl ⟨rfl, rfl⟩⟩
  | some connection =>
      dsimp only
      have arrives : ((system.session.socket.sendAll passage.ready passage.reason
          (frameBytes request)).1.take passage.arrived) <+: frameBytes request := by
        obtain ⟨left, split, _⟩ := system.session.socket.sendAll_spec passage.ready passage.reason
          (frameBytes request)
        refine (List.take_prefix _ _).trans ⟨left, split.symm⟩
      rcases serveConnection_cases sendable versioned stays arrives with
        silent | ⟨response, served⟩
      · rw [silent]
        exact .inl ⟨lost rfl, .inl ⟨rfl, rfl⟩⟩
      · rcases served_replied served with silent | ⟨answers, replied, after, kept, completed⟩
        · exact .inl ⟨lost silent, served_applied served⟩
        · have returns : ((passage.network (system.server.serveConnection connection
              passage.circumstances ((system.session.socket.sendAll passage.ready passage.reason
                (frameBytes request)).1.take passage.arrived)).1).delivers
              (frameBytes request)).content <+: frameBytes response := by
            simpa [Passage.network, replied] using passage.honest (frameBytes response)
          rcases @WorkerSession.exchange_cases session _ _ _ sendable answers returns with
            lost | ⟨_, next, sameWorker, sameConnected, accepted⟩
          · exact .inl ⟨lost, served_applied served⟩
          · exact .inr ⟨connection, response, next, after, rfl, served, answers, kept, completed,
              sameWorker, sameConnected, accepted⟩

end Exchanges

end RemoteSystem

end ArtifactPromotion
