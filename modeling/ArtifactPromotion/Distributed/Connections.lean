import ArtifactPromotion.Distributed.Server

/-! The loop of `serve_connection`: which of the frames that arrive on a connection are handed to
the handler, and what is sent back. -/

namespace ArtifactPromotion

open Protocol

/-- What a connection remembers between two frames. `seenRequests` lists what the set holds. -/
structure Connection where
  seenRequests : List PromotionRequestId := []
  handshakeCompleted : Bool := false

namespace FrameServer

def fillResponseHeader (authority : CoordinatorAuthority) (request response : Frame) : Frame :=
  { response with
    correlation := request.request, coordinator := authority.coordinator,
    epoch := authority.epoch, worker := request.worker, boot := request.boot }

def errorResponse (authority : CoordinatorAuthority) (request response : Frame) (code : ErrorCode)
    (message : Text) : Frame :=
  { fillResponseHeader authority request response with
    type := .error, payload := encodeStatus code message }

def undecodedResponse (authority : CoordinatorAuthority) (status : Status) : Frame :=
  errorResponse authority { request := ⟨1, 1⟩ } {} status.code status.message.view

def handledResponse (authority : CoordinatorAuthority) (request : Frame) :
    Result Answer → Frame
  | .error status =>
      errorResponse authority request { request := request.request } status.code
        status.message.view
  | .ok answer =>
      fillResponseHeader authority request
        { request := request.request, type := answer.type, payload := answer.payload }

/-- One turn of the loop: the frame that was handed to the handler with what came of it, what is
sent back, and the connection unless it is closed. -/
structure Turn where
  handled : Option (Frame × Result Answer) := none
  reply : Option ByteBuffer := none
  connection : Option Connection := none

/-- The end of a turn: a response that cannot be sent closes the connection. -/
def conclude (connection : Connection) (response : Frame)
    (handled : Option (Frame × Result Answer) := none) : Turn :=
  match encodeFrame response with
  | .error _ => { handled }
  | .ok bytes => { handled, reply := some bytes, connection := some connection }

def serveRequest (server : FrameServer) (connection : Connection) (circumstances : Circumstances)
    (request : Frame) : Turn × FrameServer :=
  let authority := server.engine.state.authority
  let noted := { connection with seenRequests := request.request :: connection.seenRequests }
  if request.type = .goodbye then ({}, server)
  else if connection.seenRequests.contains request.request then
    (conclude noted (errorResponse authority request {} .duplicateRequest
      (text "this request identity was already received on this connection")), server)
  else if !connection.handshakeCompleted && request.type != .helloRequest then
    (conclude noted (errorResponse authority request {} .staleWorkerBoot
      (text "no handshake has been completed on this connection")), server)
  else
    let (answer, after) := server.handleFrame circumstances request
    let response := handledResponse after.engine.state.authority request answer
    let completed := request.type == .helloRequest && response.type == .helloResponse
    (conclude { noted with handshakeCompleted := connection.handshakeCompleted || completed }
      response (some (request, answer)), after)

def serveConnection (server : FrameServer) (connection : Connection)
    (circumstances : Circumstances) (stream : ByteBuffer) : Turn × FrameServer :=
  match receiveFrame stream with
  | .ok (request, _) => server.serveRequest connection circumstances request
  | .error (.refused status) =>
      ({ reply := (encodeFrame (undecodedResponse server.engine.state.authority status)).toOption },
        server)
  | .error _ => ({}, server)

variable {server : FrameServer} {connection : Connection} {circumstances : Circumstances}

@[simp] theorem conclude_handled (response : Frame) (handled : Option (Frame × Result Answer)) :
    (conclude connection response handled).handled = handled := by
  unfold conclude
  split <;> rfl

end FrameServer

end ArtifactPromotion
