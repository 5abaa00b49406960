import ArtifactPromotion.Distributed.Connections
import ArtifactPromotion.Distributed.Frames

/-! The whole life of one connection: which frames reach the handler, in what order, and what is
sent back for them. -/

namespace ArtifactPromotion

open Protocol

/-- What one turn of the loop meets: the server as the other connections have left it, the bytes
that the socket delivers, and whether the reply gets out. -/
structure Arrival where
  server : FrameServer
  circumstances : Circumstances
  stream : ByteBuffer
  sent : Bool := true

namespace FrameServer

structure Exchange where
  arrival : Arrival
  turn : Turn

def serveArrivals : Connection → List Arrival → List Exchange
  | _, [] => []
  | connection, arrival :: rest =>
      let turn := (arrival.server.serveConnection connection arrival.circumstances arrival.stream).1
      { arrival, turn } ::
        match turn.connection with
        | none => []
        | some next => if arrival.sent then serveArrivals next rest else []

namespace Exchange

def Passes (exchange : Exchange) (request : Frame) : Prop :=
  ∃ answer, exchange.turn.handled = some (request, answer)

def Greets (exchange : Exchange) : Prop :=
  ∃ hello bytes response, exchange.Passes hello ∧ hello.type = .helloRequest ∧
    exchange.turn.reply = some bytes ∧ exchange.arrival.sent = true ∧
    decodeFrame bytes = .ok response ∧ response.type = .helloResponse

def Correlates (exchange : Exchange) : Prop :=
  ∀ request rest bytes, receiveFrame exchange.arrival.stream = .ok (request, rest) →
    exchange.turn.reply = some bytes →
      ∃ response, decodeFrame bytes = .ok response ∧ response.correlation = request.request

end Exchange

structure Orderly (connection : Connection) (request : Frame) (turn : Turn) : Prop where
  passed : ∀ frame answer, turn.handled = some (frame, answer) → frame = request ∧
    request.request ∉ connection.seenRequests ∧
    (connection.handshakeCompleted = true ∨ request.type = .helloRequest)
  noted : ∀ next, turn.connection = some next →
    next.seenRequests = request.request :: connection.seenRequests
  greeted : ∀ next, turn.connection = some next → next.handshakeCompleted = true →
    connection.handshakeCompleted = true ∨ ∃ answer bytes response,
      turn.handled = some (request, answer) ∧ request.type = .helloRequest ∧
      turn.reply = some bytes ∧ decodeFrame bytes = .ok response ∧ response.type = .helloResponse
  correlated : ∀ bytes, turn.reply = some bytes →
    ∃ response, decodeFrame bytes = .ok response ∧ response.correlation = request.request

variable {server : FrameServer} {connection : Connection} {circumstances : Circumstances}
  {request : Frame}

theorem conclude_cases {response : Frame} {handled : Option (Frame × Result Answer)}
    (versioned : response.version = kProtocolVersion) :
    conclude connection response handled = { handled } ∨
    ∃ bytes, decodeFrame bytes = .ok response ∧ conclude connection response handled =
      { handled, reply := some bytes, connection := some connection } := by
  unfold conclude
  cases encoded : encodeFrame response with
  | error status => exact .inl rfl
  | ok bytes =>
      obtain ⟨sendable, rfl⟩ := (encodeFrame_eq_ok _ _).mp encoded
      exact .inr ⟨_, decodeFrame_frameBytes sendable versioned, rfl⟩

theorem conclude_orderly {response : Frame} (versioned : response.version = kProtocolVersion)
    (correlated : response.correlation = request.request) :
    Orderly connection request (conclude { connection with
      seenRequests := request.request :: connection.seenRequests } response) := by
  rcases conclude_cases versioned with closed | ⟨bytes, decoded, kept⟩
  · rw [closed]
    constructor <;> simp
  · rw [kept]
    constructor
    · simp
    · rintro next ⟨⟩
      rfl
    · rintro next ⟨⟩ completed
      exact .inl completed
    · rintro _ ⟨⟩
      exact ⟨response, decoded, correlated⟩

theorem serveRequest_orderly :
    Orderly connection request
      (server.serveRequest connection circumstances request).1 := by
  unfold serveRequest
  dsimp only
  by_cases leaving : request.type = .goodbye
  · rw [if_pos leaving]
    constructor <;> simp
  rw [if_neg leaving]
  by_cases repeated : connection.seenRequests.contains request.request = true
  · rw [if_pos repeated]
    exact conclude_orderly rfl rfl
  rw [if_neg repeated]
  by_cases early : (!connection.handshakeCompleted && request.type != .helloRequest) = true
  · rw [if_pos early]
    exact conclude_orderly rfl rfl
  rw [if_neg early]
  have unseen : request.request ∉ connection.seenRequests := by simpa using repeated
  have admitted : connection.handshakeCompleted = true ∨ request.type = .helloRequest := by
    cases completed : connection.handshakeCompleted with
    | true => exact .inl rfl
    | false => simpa [completed] using early
  generalize server.handleFrame circumstances request = outcome
  obtain ⟨answer, after⟩ := outcome
  dsimp only
  generalize response_eq : handledResponse after.engine.state.authority request answer = response
  have versioned : response.version = kProtocolVersion := by
    subst response_eq
    cases answer <;> rfl
  have correlated : response.correlation = request.request := by
    subst response_eq
    cases answer <;> rfl
  rcases conclude_cases versioned with closed | ⟨bytes, decoded, kept⟩
  · rw [closed]
    constructor
    · rintro frame result ⟨⟩
      exact ⟨rfl, unseen, admitted⟩
    · simp
    · simp
    · simp
  · rw [kept]
    constructor
    · rintro frame result ⟨⟩
      exact ⟨rfl, unseen, admitted⟩
    · rintro next ⟨⟩
      rfl
    · rintro next ⟨⟩ completed
      simp only [Bool.or_eq_true, Bool.and_eq_true, beq_iff_eq] at completed
      rcases completed with already | ⟨hello, welcomed⟩
      · exact .inl already
      · exact .inr ⟨answer, bytes, response, rfl, hello, rfl, decoded, welcomed⟩
    · rintro _ ⟨⟩
      exact ⟨response, decoded, correlated⟩

theorem serveConnection_orderly (arrival : Arrival) (connection : Connection) :
    (∃ request rest, receiveFrame arrival.stream = .ok (request, rest) ∧
      Orderly connection request
        (arrival.server.serveConnection connection arrival.circumstances arrival.stream).1) ∨
    ((∀ received, receiveFrame arrival.stream ≠ .ok received) ∧
      (arrival.server.serveConnection connection arrival.circumstances arrival.stream).1.handled =
        none ∧
      (arrival.server.serveConnection connection arrival.circumstances arrival.stream).1.connection =
        none) := by
  unfold serveConnection
  cases received : receiveFrame arrival.stream with
  | ok taken => exact .inl ⟨taken.1, taken.2, rfl, serveRequest_orderly⟩
  | error failure =>
      refine .inr ⟨by simp, ?_⟩
      cases failure <;> exact ⟨rfl, rfl⟩

section Turns

variable {arrival : Arrival} {turn : Turn}
  (turned : turn =
    (arrival.server.serveConnection connection arrival.circumstances arrival.stream).1)

include turned

theorem passed_orderly {answer : Result Answer} (handled : turn.handled = some (request, answer)) :
    Orderly connection request turn := by
  rcases serveConnection_orderly arrival connection with
    ⟨frame, _, _, orderly⟩ | ⟨_, unhandled, _⟩
  · rw [← turned] at orderly
    obtain ⟨rfl, _⟩ := orderly.passed _ _ handled
    exact orderly
  · rw [← turned, handled] at unhandled
    cases unhandled

theorem kept_orderly {next : Connection} (kept : turn.connection = some next) :
    ∃ request, Orderly connection request turn := by
  rcases serveConnection_orderly arrival connection with
    ⟨frame, _, _, orderly⟩ | ⟨_, _, closed⟩
  · rw [← turned] at orderly
    exact ⟨frame, orderly⟩
  · rw [← turned, kept] at closed
    cases closed

end Turns

theorem serveArrivals_cons (connection : Connection) (arrival : Arrival) (rest : List Arrival) :
    ∃ turn others, serveArrivals connection (arrival :: rest) = ⟨arrival, turn⟩ :: others ∧
      turn = (arrival.server.serveConnection connection arrival.circumstances arrival.stream).1 ∧
      (others = [] ∨ ∃ next, turn.connection = some next ∧ arrival.sent = true ∧
        others = serveArrivals next rest) := by
  refine ⟨_, _, rfl, rfl, ?_⟩
  cases kept : (arrival.server.serveConnection connection arrival.circumstances
      arrival.stream).1.connection with
  | none => exact .inl rfl
  | some next =>
      cases sent : arrival.sent with
      | true => exact .inr ⟨next, rfl, rfl, by simp⟩
      | false => exact .inl (by simp)

theorem passed_unseen {arrivals : List Arrival} {exchange : Exchange}
    (served : exchange ∈ serveArrivals connection arrivals) (passes : exchange.Passes request) :
    request.request ∉ connection.seenRequests := by
  induction arrivals generalizing connection with
  | nil => cases served
  | cons arrival rest ih =>
      obtain ⟨turn, others, whole, turned, continued⟩ := serveArrivals_cons connection arrival rest
      rw [whole, List.mem_cons] at served
      rcases served with rfl | later
      · obtain ⟨answer, handled⟩ := passes
        exact ((passed_orderly turned handled).passed _ _ handled).2.1
      · rcases continued with rfl | ⟨next, kept, _, rfl⟩
        · cases later
        · obtain ⟨frame, orderly⟩ := kept_orderly turned kept
          have unseen := ih later
          rw [orderly.noted next kept, List.mem_cons, not_or] at unseen
          exact unseen.2

theorem passed_once (arrivals : List Arrival) (connection : Connection) :
    (serveArrivals connection arrivals).Pairwise fun earlier later =>
      ∀ first second, earlier.Passes first → later.Passes second →
        first.request ≠ second.request := by
  induction arrivals generalizing connection with
  | nil => exact .nil
  | cons arrival rest ih =>
      obtain ⟨turn, others, whole, turned, continued⟩ := serveArrivals_cons connection arrival rest
      rw [whole]
      rcases continued with rfl | ⟨next, kept, _, rfl⟩
      · exact List.pairwise_singleton _ _
      refine .cons ?_ (ih next)
      rintro later inside first second ⟨answer, handled⟩ passes same
      have unseen := passed_unseen inside passes
      rw [(passed_orderly turned handled).noted next kept, List.mem_cons, not_or] at unseen
      exact unseen.1 same.symm

theorem passed_greeted {arrivals : List Arrival} {past future : List Exchange} {exchange : Exchange}
    (served : serveArrivals connection arrivals = past ++ exchange :: future)
    (passes : exchange.Passes request) (other : request.type ≠ .helloRequest) :
    connection.handshakeCompleted = true ∨ ∃ earlier ∈ past, earlier.Greets := by
  induction arrivals generalizing connection past with
  | nil => exact absurd served (by simp [serveArrivals])
  | cons arrival rest ih =>
      obtain ⟨turn, others, whole, turned, continued⟩ := serveArrivals_cons connection arrival rest
      rw [whole] at served
      cases past with
      | nil =>
          obtain ⟨rfl, -⟩ := List.cons_eq_cons.mp served
          obtain ⟨answer, handled⟩ := passes
          have admitted := ((passed_orderly turned handled).passed _ _ handled).2.2
          exact .inl (admitted.resolve_right other)
      | cons first past =>
          obtain ⟨rfl, same⟩ := List.cons_eq_cons.mp served
          rcases continued with rfl | ⟨next, kept, sent, rfl⟩
          · exact absurd same (by simp)
          rcases ih same with completed | ⟨earlier, inside, greets⟩
          · obtain ⟨frame, orderly⟩ := kept_orderly turned kept
            rcases orderly.greeted next kept completed with
              already | ⟨answer, bytes, response, handled, hello, replied, decoded, welcome⟩
            · exact .inl already
            · exact .inr ⟨_, List.mem_cons_self, frame, bytes, response, ⟨answer, handled⟩,
                hello, replied, sent, decoded, welcome⟩
          · exact .inr ⟨earlier, List.mem_cons_of_mem _ inside, greets⟩

theorem replies_correlate (arrivals : List Arrival) (connection : Connection) :
    ∀ exchange ∈ serveArrivals connection arrivals, exchange.Correlates := by
  induction arrivals generalizing connection with
  | nil => exact List.forall_mem_nil _
  | cons arrival rest ih =>
      obtain ⟨turn, others, whole, turned, continued⟩ := serveArrivals_cons connection arrival rest
      rw [whole, List.forall_mem_cons]
      constructor
      · intro request tail bytes received replied
        rcases serveConnection_orderly arrival connection with
          ⟨frame, _, taken, orderly⟩ | ⟨undecoded, _, _⟩
        · rw [← turned] at orderly
          rw [taken] at received
          cases received
          exact orderly.correlated bytes replied
        · exact absurd received (undecoded _)
      · rcases continued with rfl | ⟨next, _, _, rfl⟩
        · exact List.forall_mem_nil _
        · exact ih next

/-- Whatever arrives on a connection, and whatever the other connections do meanwhile: no identity
is passed to the handler twice, nothing but a HelloRequest before a HelloRequest was answered, and
every reply to a frame that could be decoded names that frame. -/
theorem connection_discipline (arrivals : List Arrival) :
    ((serveArrivals {} arrivals).Pairwise fun earlier later =>
      ∀ first second, earlier.Passes first → later.Passes second →
        first.request ≠ second.request) ∧
    (∀ past exchange future, serveArrivals {} arrivals = past ++ exchange :: future →
      ∀ request, exchange.Passes request → request.type ≠ .helloRequest →
        ∃ earlier ∈ past, earlier.Greets) ∧
    ∀ exchange ∈ serveArrivals {} arrivals, exchange.Correlates := by
  refine ⟨passed_once arrivals {}, ?_, replies_correlate arrivals {}⟩
  intro past exchange future served request passes other
  exact (passed_greeted served passes other).resolve_left (by decide)

end FrameServer

end ArtifactPromotion
