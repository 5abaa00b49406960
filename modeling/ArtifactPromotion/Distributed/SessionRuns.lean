import ArtifactPromotion.Distributed.WorkerSessions

/-! Whole sessions: how every call of a worker ends, whatever happens to the connection and to the
coordinator between the calls. -/

namespace ArtifactPromotion

open Protocol Runs

def WorkerSession.known (session : WorkerSession) : CoordinatorAuthority :=
  ⟨session.worker.coordinator, session.worker.epoch⟩

def CoordinatorAuthority.adopted (known reported : CoordinatorAuthority) : CoordinatorAuthority :=
  ⟨if reported.coordinator.valid then reported.coordinator else known.coordinator,
    if reported.epoch.valid then reported.epoch else known.epoch⟩

inductive CallEnds (before : RemoteSystem) (call : ClientCall) (circumstances : Circumstances)
    (outcome : Outcome) (after : RemoteSystem) : Prop
  /-- Nothing was sent: the client itself refuses the call. -/
  | unsent (status : Status) :
      ((call.question.frame before.session.worker).1 = .error status ∨
        ∃ request, (call.question.frame before.session.worker).1 = .ok request ∧
          encodeFrame request = .error status) →
      outcome.result = .error status → outcome.handled = none → after.server = before.server →
      after.session.known = before.session.known → CallEnds before call circumstances outcome after
  /-- The connection failed, and nobody can tell whether the coordinator acted. -/
  | lost (request : Frame) (status : Status) :
      (call.question.frame before.session.worker).1 = .ok request →
      outcome.result = .error status → status.Transport →
      RemoteSystem.Applied before.server circumstances request
        ({ handled := outcome.handled }, after.server) →
      after.link = none → after.session.connected = false →
      after.session.known = before.session.known → CallEnds before call circumstances outcome after
  /-- The identity of the request was used before on the connection. -/
  | repeated (request : Frame) (connection : Connection) :
      (call.question.frame before.session.worker).1 = .ok request →
      before.link = some connection → request.request ∈ connection.seenRequests →
      outcome.result = .error (.of .duplicateRequest
        (text "this request identity was already received on this connection")) →
      outcome.handled = none → after.server = before.server →
      after.session.known = before.session.known → CallEnds before call circumstances outcome after
  /-- The coordinator handled the frame, and the caller is told its answer. -/
  | answered (request : Frame) (connection : Connection) (answer : Result Answer) :
      (call.question.frame before.session.worker).1 = .ok request →
      before.link = some connection → request.request ∉ connection.seenRequests →
      before.server.handleFrame circumstances request = (answer, after.server) →
      outcome.handled = some (request, answer) → outcome.result = call.told answer →
      after.session.known = (match answer with
        | .error _ => before.session.known
        | .ok _ => before.session.known.adopted after.server.engine.state.authority) →
      CallEnds before call circumstances outcome after

namespace RemoteSystem

/-- A thread serves the connection of a client only after a handshake. -/
def Greeted (system : RemoteSystem) : Prop :=
  ∀ connection, system.link = some connection →
    connection.handshakeCompleted = true ∧ system.session.connected = true

end RemoteSystem

namespace WorkerClient

theorem adoptResponse_known (worker : WorkerClient) (response : Frame) :
    (⟨(worker.adoptResponse response).coordinator, (worker.adoptResponse response).epoch⟩ :
      CoordinatorAuthority) =
      CoordinatorAuthority.adopted ⟨worker.coordinator, worker.epoch⟩
        ⟨response.coordinator, response.epoch⟩ := by
  unfold adoptResponse CoordinatorAuthority.adopted
  dsimp only
  cases response.coordinator.valid <;> cases response.epoch.valid <;>
    by_cases same : response.coordinator = worker.coordinator <;>
    by_cases again : response.epoch = worker.epoch <;> simp [same, again]

theorem helloFrame_sendable (worker : WorkerClient) : Sendable worker.helloFrame where
  typed := nofun
  flagged := show kFlagNone &&& ~~~kFlagNonIdempotent = 0 by decide
  bounded := Nat.zero_le _
  identified := by
    simp [helloFrame, Identity.invalid, IdentityGenerator.next_valid]

end WorkerClient

namespace WorkerSession

variable {session : WorkerSession} {request response : Frame}

theorem accept_ok {accepted : Frame} {next : WorkerSession} (answers : Sendable response)
    (versioned : response.version = kProtocolVersion)
    (taken : session.accept request (frameBytes response) = (.ok accepted, next)) :
    accepted = response := by
  unfold accept reported at taken
  rw [decodeFrame_frameBytes answers versioned] at taken
  dsimp only at taken
  split at taken
  · cases taken
  split at taken
  · split at taken
    · cases taken
    · split at taken
      · cases taken
        rfl
      · cases taken
  · cases taken
    rfl

theorem handshake_ok {network : Network} {next : WorkerSession}
    (greeted : session.handshake network = (.ok (), next)) :
    session.connected = true ∧ ∃ response middle,
      ({ session with worker := session.worker.advanced } : WorkerSession).exchange network
        session.worker.helloFrame = (.ok response, middle) ∧
      response.type = .helloResponse ∧ next.connected = middle.connected := by
  unfold handshake at greeted
  split at greeted
  · cases greeted
  rename_i up
  refine ⟨by simpa using up, ?_⟩
  split at greeted
  · cases greeted
  rename_i response middle exchanged
  split at greeted
  · cases greeted
  rename_i typed
  split at greeted
  · cases greeted
  · cases greeted
    exact ⟨response, middle, exchanged, not_not.mp typed, rfl⟩

theorem handshake_connected {network : Network} (up : session.connected = true) :
    (session.handshake network).2.connected =
      (({ session with worker := session.worker.advanced } : WorkerSession).exchange network
        session.worker.helloFrame).2.connected := by
  unfold handshake
  rw [up]
  simp only [Bool.not_true, Bool.false_eq_true, if_false]
  split
  · rename_i exchanged
    rw [exchanged]
  · rename_i exchanged
    rw [exchanged]
    split
    · rfl
    split
    · rfl
    · rfl

end WorkerSession

namespace RemoteSystem

open FrameServer

variable {system next : RemoteSystem} {passage : Passage} {move : SessionMove} {outcome : Outcome}

/-- A handshake, on a new connection or again on one that stands, leaves a connection only after the
coordinator has answered it. -/
theorem greet_greeted {session : WorkerSession} (up : session.connected = true)
    {turn : Turn} {server : FrameServer}
    (served : system.exchanged passage session.worker.helloFrame = (turn, server))
    (standing : (session.handshake (passage.network turn)).1 = .ok () ∨
      ∀ connection, system.link = some connection → connection.handshakeCompleted = true) :
    (concluded turn server (session.handshake (passage.network turn)).2).Greeted := by
  intro connection linked
  unfold concluded at linked
  have connected : (session.handshake (passage.network turn)).2.connected = true := by
    by_contra down
    rw [if_neg down] at linked
    cases linked
  rw [if_pos connected] at linked
  refine ⟨?_, connected⟩
  have sendable := session.worker.helloFrame_sendable
  have cases_ := @exchanged_cases system passage
    { session with worker := session.worker.advanced } _ sendable rfl nofun
  rw [served] at cases_
  rcases cases_ with ⟨⟨_, _, _, broken, _⟩, _⟩ |
    ⟨before, response, middle, after, stood, turned, answers, kept, completed, _, _, accepted⟩
  · rw [WorkerSession.handshake_connected up, broken] at connected
    cases connected
  · rw [kept, Option.some.injEq] at linked
    subst linked
    rw [completed]
    rcases standing with greeted | standing
    · right
      obtain ⟨_, welcomed, last, exchanged, typed, _⟩ := WorkerSession.handshake_ok
        (Prod.ext greeted rfl : session.handshake _ = (.ok (), _))
      rw [accepted] at exchanged
      obtain rfl := WorkerSession.accept_ok answers (served_response turned).1 exchanged
      exact ⟨rfl, typed⟩
    · exact .inl (standing before stood)

theorem sent_ends {call : ClientCall} {request : Frame} {worker : WorkerClient} {turn : Turn}
    {server : FrameServer} (greeted : system.Greeted)
    (framed : call.question.frame system.session.worker = (.ok request, worker))
    (sendable : Sendable request)
    (served : system.exchanged passage request = (turn, server)) :
    CallEnds system call passage.circumstances
      { made := some request, handled := turn.handled
        result := (system.session.ask (passage.network turn) call.question).1 }
      (concluded turn server (system.session.ask (passage.network turn) call.question).2) := by
  obtain ⟨⟨id, payload, shape⟩, sameCoordinator, sameEpoch⟩ := Question.frame_made framed
  have typed : request.type = call.question.type := by rw [shape]; rfl
  have stays : request.type ≠ .goodbye := typed ▸ call.question_typed.1
  have foreign : request.type ≠ .helloRequest := typed ▸ call.question_typed.2
  have versioned : request.version = kProtocolVersion := by rw [shape]; rfl
  have made : (call.question.frame system.session.worker).1 = .ok request := by rw [framed]
  have knows : (⟨worker.coordinator, worker.epoch⟩ : CoordinatorAuthority) =
      system.session.known := by rw [sameCoordinator, sameEpoch]; rfl
  have cases_ := @exchanged_cases system passage
    { system.session with worker } _ sendable versioned stays
  rw [served] at cases_
  unfold WorkerSession.ask
  rw [framed]
  dsimp only at cases_ ⊢
  rcases cases_ with ⟨⟨status, failed, transport, broken, same⟩, applied⟩ |
    ⟨connection, response, next, after, linked, turned, answers, kept, completed, sameWorker,
      sameConnected, accepted⟩
  · generalize ({ system.session with worker } : WorkerSession).exchange (passage.network turn)
      request = exchange at failed broken same ⊢
    obtain ⟨result, last⟩ := exchange
    dsimp only at failed broken same ⊢
    subst failed
    refine .lost request status made rfl transport applied ?_ broken ?_
    · simp [concluded, broken]
    · rw [← knows]
      simp [concluded, WorkerSession.known, same]
  · rw [accepted]
    have correlated := (served_response turned).2
    have current := (served_response turned).1
    have refused {code : ErrorCode} {message : Text} (wrong : response.type = .error)
        (carries : response.payload = encodeStatus code message) (fails : code ≠ .ok)
        (fits : message.length ≤ kMaxTextLength) :=
      @WorkerSession.accept_refusal next _ _ _ _ answers current correlated wrong carries fails
        fits
    have unchanged : next.known = system.session.known := by
      rw [← knows, WorkerSession.known, sameWorker]
    cases turned with
    | repeated seen =>
        rw [refused rfl rfl (by decide) (by decide)]
        exact .repeated request connection made linked seen rfl (conclude_handled _ _) rfl unchanged
    | early fresh =>
        rw [(greeted connection linked).1] at fresh
        cases fresh
    | handled answer _ _ unseen handling response_eq =>
        have handled : (conclude { noted connection request with
            handshakeCompleted := connection.handshakeCompleted ||
              (request.type == .helloRequest && response.type == .helloResponse) } response
            (some (request, answer))).handled = some (request, answer) := conclude_handled _ _
        cases answer with
        | error status =>
            have fails := @handleFrame_failing system.server _ request
              passage.saves status (by rw [handling])
            subst response_eq
            rw [refused rfl rfl fails (Nat.le_trans status.message.bounded (by decide))]
            exact .answered request connection _ made linked unseen handling handled rfl unchanged
        | ok answer =>
            have answered := handleFrame_type handling
            subst response_eq
            have expected : answer.type = call.question.answered := by
              rw [answered, typed, ClientCall.question_answered]
            have healthy : answer.type ≠ .error := by
              rw [expected]
              cases call <;> exact nofun
            rw [WorkerSession.accept_answer answers current correlated healthy]
            have told : call.question.answer (handledResponse server.engine.state.authority request
                (.ok answer)) = call.told (.ok answer) := by
              unfold Question.answer
              rw [show (handledResponse server.engine.state.authority request (.ok answer)).type =
                call.question.answered from expected]
              simp only [bne_self_eq_false, rejectWhen, Bool.false_eq_true, if_false]
              rfl
            refine .answered request connection _ made linked unseen handling handled told ?_
            unfold concluded WorkerSession.known
            dsimp only
            rw [WorkerClient.adoptResponse_known, sameWorker, knows]
            rfl

theorem call_ends (call : ClientCall) (greeted : system.Greeted) :
    CallEnds system call passage.circumstances (system.call call passage).1
      (system.call call passage).2 := by
  unfold RemoteSystem.call
  rcases framed : call.question.frame system.session.worker with ⟨status | request, worker⟩
  · refine .unsent status (.inl (by rw [framed])) rfl rfl rfl ?_
    unfold Question.frame at framed
    split at framed
    · obtain ⟨_, rfl⟩ := Prod.mk.inj framed
      rfl
    split at framed
    · obtain ⟨_, rfl⟩ := Prod.mk.inj framed
      rfl
    · obtain ⟨_, rfl⟩ := Prod.mk.inj framed
      rfl
  · dsimp only
    rcases served : system.exchanged passage request with ⟨turn, server⟩
    cases encoded : encodeFrame request with
    | error status =>
        have idle := served
        unfold exchanged at idle
        rw [encoded] at idle
        cases idle
        have asked : system.session.ask (passage.network { connection := system.link })
            call.question = (.error status, { system.session with worker }) := by
          unfold WorkerSession.ask WorkerSession.exchange
          rw [framed]
          dsimp only
          rw [encoded]
        dsimp only
        rw [asked]
        refine .unsent status (.inr ⟨request, by rw [framed], encoded⟩) rfl rfl rfl ?_
        obtain ⟨_, sameCoordinator, sameEpoch⟩ := Question.frame_made framed
        unfold concluded WorkerSession.known
        dsimp only
        rw [sameCoordinator, sameEpoch]
    | ok bytes =>
        exact sent_ends greeted framed ((encodeFrame_eq_ok _ _).mp encoded).1 served

theorem call_greeted (call : ClientCall) (greeted : system.Greeted) :
    (system.call call passage).2.Greeted := by
  unfold RemoteSystem.call
  rcases framed : call.question.frame system.session.worker with ⟨status | request, worker⟩
  · exact greeted
  dsimp only
  rcases served : system.exchanged passage request with ⟨turn, server⟩
  intro connection linked
  unfold concluded at linked
  have connected : (system.session.ask (passage.network turn) call.question).2.connected = true := by
    by_contra down
    dsimp only at linked
    rw [if_neg down] at linked
    cases linked
  refine ⟨?_, connected⟩
  dsimp only at linked
  rw [if_pos connected] at linked
  cases encoded : encodeFrame request with
  | error status =>
      unfold exchanged at served
      rw [encoded] at served
      cases served
      exact (greeted connection linked).1
  | ok bytes =>
      obtain ⟨⟨id, payload, shape⟩, _⟩ := Question.frame_made framed
      have stays : request.type ≠ .goodbye := by
        rw [shape]
        exact call.question_typed.1
      have cases_ := @exchanged_cases system passage
        { system.session with worker } _ ((encodeFrame_eq_ok _ _).mp encoded).1
        (by rw [shape]; rfl) stays
      rw [served] at cases_
      rcases cases_ with ⟨⟨status, failed, _, broken, _⟩, _⟩ |
        ⟨before, response, next, after, stood, _, _, kept, completed, _⟩
      · unfold WorkerSession.ask at connected
        rw [framed] at connected
        dsimp only at connected failed broken
        generalize ({ system.session with worker } : WorkerSession).exchange
          (passage.network turn) request = exchange at failed broken connected
        obtain ⟨result, last⟩ := exchange
        dsimp only at failed broken connected
        subst failed
        rw [broken] at connected
        cases connected
      · rw [kept, Option.some.injEq] at linked
        subst linked
        exact completed.mpr (.inl (greeted before stood).1)

theorem step_greeted (greeted : system.Greeted) (moved : system.step move = some (outcome, next)) :
    next.Greeted := by
  cases move with
  | connect attempts passage =>
      obtain rfl : (system.connect attempts passage).2 = next :=
        congrArg Prod.snd (Option.some.inj moved)
      unfold RemoteSystem.connect
      by_cases up : system.session.connected = true
      · rw [if_pos up]
        exact greeted
      rw [if_neg up]
      cases dialled : connectLoopback attempts with
      | error status => exact greeted
      | ok done =>
          dsimp only [greet]
          rcases served : ({ system with session := system.session.dialled, link := some {} } :
            RemoteSystem).exchanged passage system.session.dialled.worker.helloFrame with
            ⟨turn, server⟩
          dsimp only
          have connects : (system.session.connect attempts (passage.network turn)).2 =
              if (system.session.dialled.handshake (passage.network turn)).1 = .ok () then
                (system.session.dialled.handshake (passage.network turn)).2
              else (system.session.dialled.handshake (passage.network turn)).2.hungUp := by
            unfold WorkerSession.connect
            rw [if_neg up, dialled]
            dsimp only
            rcases system.session.dialled.handshake (passage.network turn) with
              ⟨status | done, last⟩
            · rfl
            · rfl
          rw [connects]
          split
          · rename_i welcomed
            exact greet_greeted rfl served (.inl welcomed)
          · intro connection linked
            cases linked
  | handshake passage =>
      simp only [RemoteSystem.step] at moved
      split at moved
      · rename_i up
        obtain rfl : (system.greet passage system.session.handshake).2 = next :=
          congrArg Prod.snd (Option.some.inj moved)
        exact greet_greeted up rfl (.inr fun connection linked => (greeted connection linked).1)
      · cases moved
        exact greeted
  | call call passage =>
      obtain rfl : (system.call call passage).2 = next :=
        congrArg Prod.snd (Option.some.inj moved)
      exact call_greeted call greeted
  | disconnect passage =>
      cases moved
      intro connection linked
      cases linked
  | dropped =>
      cases moved
      intro connection linked
      cases linked
  | others server =>
      cases moved
      exact greeted

/-- In every session, whatever happens to the connection and to the coordinator, every call is
refused by the client itself, or fails with its connection, or repeats a request identity, or
returns what the handler answered to exactly its frame. -/
theorem session_calls {start final : RemoteSystem}
    {trace : List (Runs.Step RemoteSystem SessionMove Outcome)}
    (session : Run RemoteSystem.step start trace final) (unlinked : start.link = none)
    {executed : Runs.Step RemoteSystem SessionMove Outcome} (inside : executed ∈ trace)
    {call : ClientCall} (called : executed.input = .call call passage) :
    CallEnds executed.before call passage.circumstances executed.output executed.after := by
  obtain ⟨past, future, rfl⟩ := List.append_of_mem inside
  obtain ⟨earlier, moved, _⟩ := session.cut
  have fresh : start.Greeted := by
    intro connection linked
    rw [unlinked] at linked
    cases linked
  have greeted : executed.before.Greeted :=
    earlier.invariant Greeted (fun _ _ _ _ => step_greeted) fresh
  rw [called] at moved
  have ended := @call_ends _ passage call greeted
  have same : executed.before.call call passage = (executed.output, executed.after) :=
    Option.some.inj moved
  rwa [same] at ended

def clearPassage : Passage where
  circumstances := ⟨0, 0, .ok ()⟩
  saves := .success ()
  ready := [4096]
  arrived := 4096
  returned bytes := ⟨if bytes = [] then [] else [bytes], .closed, by
    intro piece inside
    split at inside
    · cases inside
    · rename_i present
      rwa [List.mem_singleton.mp inside]⟩
  honest bytes := by
    unfold PartialTransfers.Incoming.content
    split
    · exact List.nil_prefix
    · simp

def restingSystem : RemoteSystem where
  session := { worker := WorkerClient.construct ⟨0, 7⟩ (CoordinatorServer.readingsFrom 1000) }
  server := { engine := Engine.sampleEngine }

theorem step_connect (system : RemoteSystem) (attempts : List ConnectAttempt) (passage : Passage) :
    system.step (.connect attempts passage) =
      some ((system.connect attempts passage).1, (system.connect attempts passage).2) := rfl

theorem step_call (system : RemoteSystem) (call : ClientCall) (passage : Passage) :
    system.step (.call call passage) =
      some ((system.call call passage).1, (system.call call passage).2) := rfl

theorem session_calls_explained : ∃ connected explained : Outcome × RemoteSystem,
    restingSystem.connect [.refused (text "timed out"), .established] clearPassage = connected ∧
      connected.2.call (.explain ⟨0, 5⟩ .candidate) clearPassage = explained ∧
      CallEnds connected.2 (.explain ⟨0, 5⟩ .candidate) clearPassage.circumstances explained.1
        explained.2 := by
  obtain ⟨connected, dialled⟩ : ∃ connected,
      restingSystem.connect [.refused (text "timed out"), .established] clearPassage =
        connected := ⟨_, rfl⟩
  obtain ⟨explained, asked⟩ : ∃ explained,
      connected.2.call (.explain ⟨0, 5⟩ .candidate) clearPassage = explained := ⟨_, rfl⟩
  have first := step_connect restingSystem [.refused (text "timed out"), .established] clearPassage
  have second := step_call connected.2 (.explain ⟨0, 5⟩ .candidate) clearPassage
  rw [dialled] at first
  rw [asked] at second
  exact ⟨connected, explained, dialled, asked, session_calls (.cons first (.cons second (.nil _)))
    rfl (List.mem_cons_of_mem _ List.mem_cons_self) rfl⟩

/-- Only the handler's arms under `withAuthority` change the coordinator. -/
def BoundToAuthority (type : MessageType) : Prop :=
  type = .registerArtifactRequest ∨ type = .submitEvidenceRequest ∨ type = .evaluateRequest ∨
    type = .promotionRequest ∨ type = .quarantineRequest ∨ type = .revokeRequest

theorem handleFrame_stale {server : FrameServer} {circumstances : Circumstances} {request : Frame}
    (bound : BoundToAuthority request.type)
    (stale : (⟨request.coordinator, request.epoch⟩ : CoordinatorAuthority) ≠
      server.engine.state.authority) :
    ∃ status, server.handleFrame circumstances request = (.error status, server) ∧
      (status.code = .staleCoordinatorEpoch ∨ status.code = .shuttingDown) := by
  have refused : ∃ status, requireCurrentAuthority server.engine request = .error status ∧
      (status.code = .staleCoordinatorEpoch ∨ status.code = .shuttingDown) := by
    unfold requireCurrentAuthority
    cases server.engine.admissionOpen with
    | false => exact ⟨_, rfl, .inr rfl⟩
    | true =>
        have differs : (request.coordinator != server.engine.state.coordinator ||
            request.epoch != server.engine.state.epoch) = true := by
          by_contra same
          simp only [Bool.or_eq_true, bne_iff_ne, not_or, not_not] at same
          exact stale (by rw [same.1, same.2]; rfl)
        rw [differs]
        exact ⟨_, rfl, .inl rfl⟩
  obtain ⟨status, refused, coded⟩ := refused
  refine ⟨status, ?_, coded⟩
  unfold handleFrame
  dsimp only
  rcases bound with typed | typed | typed | typed | typed | typed <;>
  · rw [typed]
    simp only [withAuthority, refused]

/-- A move that neither moves the coordinator's authority nor asks for anything but a change. -/
def Persists (executed : Runs.Step RemoteSystem SessionMove Outcome) : Prop :=
  match executed.input with
  | .call call _ => BoundToAuthority call.question.type
  | .others server =>
      server.engine.state.authority = executed.before.server.engine.state.authority
  | .dropped | .disconnect _ => True
  | .connect .. | .handshake _ => False

def Fenced (executed : Runs.Step RemoteSystem SessionMove Outcome) : Prop :=
  executed.after.server = executed.before.server ∧
    ∃ status, executed.output.result = .error status ∧
      ∀ request answer, executed.output.handled = some (request, answer) →
        status.code = .staleCoordinatorEpoch ∨ status.code = .shuttingDown ∨ status.Transport

theorem stale_call {executed : Runs.Step RemoteSystem SessionMove Outcome} {call : ClientCall}
    (bound : BoundToAuthority call.question.type)
    (stale : executed.before.session.known ≠ executed.before.server.engine.state.authority)
    (ended : CallEnds executed.before call passage.circumstances executed.output executed.after) :
    executed.after.session.known = executed.before.session.known ∧ Fenced executed := by
  have refused {request : Frame}
      (framed : (call.question.frame executed.before.session.worker).1 = .ok request) :
      ∃ status, executed.before.server.handleFrame passage.circumstances request =
          (.error status, executed.before.server) ∧
        (status.code = .staleCoordinatorEpoch ∨ status.code = .shuttingDown) := by
    obtain ⟨⟨id, payload, shape⟩, _⟩ := Question.frame_made
      (Prod.ext framed rfl : call.question.frame _ = (.ok request, _))
    refine handleFrame_stale ?_ ?_
    · rw [shape]
      exact bound
    · rw [shape]
      exact stale
  cases ended with
  | unsent status _ told idle same kept =>
      exact ⟨kept, same, status, told, by simp [idle]⟩
  | lost request status framed told transport applied _ _ kept =>
      refine ⟨kept, ?_, status, told, fun _ _ _ => .inr (.inr transport)⟩
      obtain ⟨_, handling, _⟩ := refused framed
      rcases applied with ⟨_, same⟩ | ⟨_, same⟩
      · exact same
      · rw [handling] at same
        exact same
  | repeated _ _ _ _ _ told idle same kept =>
      exact ⟨kept, same, _, told, by simp [idle]⟩
  | answered request connection answer framed _ _ handling handled told kept =>
      obtain ⟨status, refusing, coded⟩ := refused framed
      rw [refusing] at handling
      obtain ⟨rfl, same⟩ := Prod.mk.inj handling
      exact ⟨kept, same.symm, _, told, fun _ _ _ => coded.imp id .inl⟩

theorem disconnect_known (session : WorkerSession) (network : Network) :
    (session.disconnect network).2.known = session.known := by
  unfold WorkerSession.disconnect
  split
  · rfl
  · rfl

/-- A worker whose coordinator moved on while the connection stood stays fenced for as long as it
only asks for changes: no refusal tells it the current authority, and none of its calls has an
effect. -/
theorem stale_worker_fenced {start final : RemoteSystem}
    {trace : List (Runs.Step RemoteSystem SessionMove Outcome)}
    (session : Run RemoteSystem.step start trace final) (greeted : start.Greeted)
    (stale : start.session.known ≠ start.server.engine.state.authority)
    (persists : ∀ executed ∈ trace, Persists executed) :
    final.session.known = start.session.known ∧
      ∀ executed ∈ trace, ∀ call passage, executed.input = .call call passage →
        Fenced executed := by
  let holds (system : RemoteSystem) : Prop := system.Greeted ∧
    system.session.known = start.session.known ∧
    system.server.engine.state.authority = start.server.engine.state.authority
  have called {executed : Runs.Step RemoteSystem SessionMove Outcome} {call : ClientCall}
      {passage : Passage} (standing : holds executed.before) (allowed : Persists executed)
      (asked : executed.input = .call call passage)
      (moved : executed.before.step executed.input = some (executed.output, executed.after)) :
      executed.after.session.known = executed.before.session.known ∧ Fenced executed := by
    obtain ⟨handshaken, known, authority⟩ := standing
    rw [asked] at moved
    rw [Persists, asked] at allowed
    have ended := @call_ends _ passage call handshaken
    have same : executed.before.call call passage = (executed.output, executed.after) :=
      Option.some.inj moved
    rw [same] at ended
    exact stale_call allowed (by rw [known, authority]; exact stale) ended
  have kept (executed : Runs.Step RemoteSystem SessionMove Outcome) (standing : holds executed.before)
      (allowed : Persists executed)
      (moved : executed.before.step executed.input = some (executed.output, executed.after)) :
      holds executed.after := by
    refine ⟨step_greeted standing.1 moved, ?_⟩
    cases asked : executed.input with
    | connect attempts passage =>
        rw [Persists, asked] at allowed
        exact allowed.elim
    | handshake passage =>
        rw [Persists, asked] at allowed
        exact allowed.elim
    | call call passage =>
        obtain ⟨known, same, _⟩ := called standing allowed asked moved
        exact ⟨known.trans standing.2.1, by rw [same]; exact standing.2.2⟩
    | disconnect passage =>
        rw [asked] at moved
        obtain ⟨_, reached⟩ := Prod.mk.inj (Option.some.inj moved)
        rw [← reached]
        exact ⟨(disconnect_known _ _).trans standing.2.1, standing.2.2⟩
    | dropped =>
        rw [asked] at moved
        obtain ⟨_, reached⟩ := Prod.mk.inj (Option.some.inj moved)
        rw [← reached]
        exact standing.2
    | others server =>
        rw [asked] at moved
        rw [Persists, asked] at allowed
        obtain ⟨_, reached⟩ := Prod.mk.inj (Option.some.inj moved)
        rw [← reached]
        exact ⟨standing.2.1, allowed.trans standing.2.2⟩
  have initially : holds start := ⟨greeted, rfl, rfl⟩
  constructor
  · exact (session.guarded holds Persists kept initially persists).2.1
  · intro executed inside call passage asked
    have standing := (session.throughout holds Persists kept initially persists executed inside).1
    exact (called standing (persists executed inside) asked (session.moved inside)).2

def staleSystem : RemoteSystem where
  session := { restingSystem.session.dialled with
    worker := restingSystem.session.worker.adopt ⟨⟨0, 1⟩, ⟨77⟩⟩ }
  server := restingSystem.server
  link := some { handshakeCompleted := true }

def busierServer : FrameServer :=
  { restingSystem.server with
    engine := (restingSystem.server.engine.registerArtifact (Engine.sampleRegistration 1) 0).2 }

theorem stale_worker_fenced_quarantines : ∃ quarantined revoked : Outcome × RemoteSystem,
    staleSystem.call (.quarantine ⟨0, 5⟩ (text "leak") []) clearPassage = quarantined ∧
      { quarantined.2 with server := busierServer }.call (.revoke ⟨0, 5⟩ (text "leak") [])
        clearPassage = revoked ∧
      revoked.2.session.known = staleSystem.session.known ∧
      quarantined.2.server = staleSystem.server ∧ revoked.2.server = busierServer ∧
      (∃ status, quarantined.1.result = .error status) ∧
      ∃ status, revoked.1.result = .error status := by
  obtain ⟨quarantined, asked⟩ : ∃ quarantined,
      staleSystem.call (.quarantine ⟨0, 5⟩ (text "leak") []) clearPassage = quarantined := ⟨_, rfl⟩
  obtain ⟨revoked, again⟩ : ∃ revoked, { quarantined.2 with server := busierServer }.call
      (.revoke ⟨0, 5⟩ (text "leak") []) clearPassage = revoked := ⟨_, rfl⟩
  have first := step_call staleSystem (.quarantine ⟨0, 5⟩ (text "leak") []) clearPassage
  have between : quarantined.2.step (.others busierServer) =
      some ({}, { quarantined.2 with server := busierServer }) := rfl
  have second := step_call { quarantined.2 with server := busierServer }
    (.revoke ⟨0, 5⟩ (text "leak") []) clearPassage
  rw [asked] at first
  rw [again] at second
  have greeted : staleSystem.Greeted := by
    rintro connection ⟨⟩
    exact ⟨rfl, rfl⟩
  have quarantines : BoundToAuthority .quarantineRequest :=
    .inr (.inr (.inr (.inr (.inl rfl))))
  have revokes : BoundToAuthority .revokeRequest := .inr (.inr (.inr (.inr (.inr rfl))))
  have left : quarantined.2.server = staleSystem.server :=
    ((stale_worker_fenced (.cons first (.nil _)) greeted (by decide)
      (List.forall_mem_singleton.mpr quarantines)).2 _ List.mem_cons_self _ _ rfl).1
  have unmoved : busierServer.engine.state.authority =
      quarantined.2.server.engine.state.authority := by
    rw [left]
    decide +kernel
  obtain ⟨known, fenced⟩ := stale_worker_fenced (.cons first (.cons between (.cons second (.nil _))))
    greeted (by decide) (List.forall_mem_cons.mpr ⟨quarantines,
      List.forall_mem_cons.mpr ⟨unmoved, List.forall_mem_singleton.mpr revokes⟩⟩)
  obtain ⟨_, refused, told, _⟩ := fenced _ List.mem_cons_self _ _ rfl
  obtain ⟨same, refusedAgain, toldAgain, _⟩ :=
    fenced _ (List.mem_cons_of_mem _ (List.mem_cons_of_mem _ List.mem_cons_self)) _ _ rfl
  exact ⟨quarantined, revoked, asked, again, known, left, same, ⟨refused, told⟩, refusedAgain,
    toldAgain⟩

end RemoteSystem

end ArtifactPromotion
