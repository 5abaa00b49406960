import ArtifactPromotion.Persist.Snapshot

/-! The framed binary protocol: frames, their codec, and how a peer takes frames off a stream. -/

namespace ArtifactPromotion

namespace Protocol

def kFrameMagic : UInt32 := 0x41504652
def kProtocolVersion : UInt16 := 1
def kFrameHeaderSize : Nat := 4 + 2 + 2 + 4 + 4 + 16 + 16 + 16 + 8 + 16 + 16
def kFrameFooterSize : Nat := 32
def kMaxFrameBytes : Nat := 4 * 1024 * 1024

def kFlagNone : UInt32 := 0
def kFlagNonIdempotent : UInt32 := 1

inductive MessageType where
  | invalid
  | helloRequest
  | helloResponse
  | registerArtifactRequest
  | registerArtifactResponse
  | submitEvidenceRequest
  | submitEvidenceResponse
  | promotionRequest
  | promotionResponse
  | evaluateRequest
  | evaluateResponse
  | artifactStateRequest
  | artifactStateResponse
  | historyRequest
  | historyResponse
  | quarantineRequest
  | quarantineResponse
  | releaseQuarantineRequest
  | releaseQuarantineResponse
  | revokeRequest
  | revokeResponse
  | revokeEvidenceRequest
  | revokeEvidenceResponse
  | supersedeRequest
  | supersedeResponse
  | retireRequest
  | retireResponse
  | snapshotSaveRequest
  | snapshotSaveResponse
  | explainRequest
  | explainResponse
  | error
  | goodbye
deriving DecidableEq

namespace MessageType

def value : MessageType → UInt16
  | invalid => 0
  | helloRequest => 1
  | helloResponse => 2
  | registerArtifactRequest => 10
  | registerArtifactResponse => 11
  | submitEvidenceRequest => 20
  | submitEvidenceResponse => 21
  | promotionRequest => 30
  | promotionResponse => 31
  | evaluateRequest => 32
  | evaluateResponse => 33
  | artifactStateRequest => 40
  | artifactStateResponse => 41
  | historyRequest => 50
  | historyResponse => 51
  | quarantineRequest => 60
  | quarantineResponse => 61
  | releaseQuarantineRequest => 62
  | releaseQuarantineResponse => 63
  | revokeRequest => 64
  | revokeResponse => 65
  | revokeEvidenceRequest => 66
  | revokeEvidenceResponse => 67
  | supersedeRequest => 68
  | supersedeResponse => 69
  | retireRequest => 70
  | retireResponse => 71
  | snapshotSaveRequest => 80
  | snapshotSaveResponse => 81
  | explainRequest => 90
  | explainResponse => 91
  | error => 100
  | goodbye => 101

def known : List MessageType :=
  [helloRequest, helloResponse, registerArtifactRequest, registerArtifactResponse,
    submitEvidenceRequest, submitEvidenceResponse, promotionRequest, promotionResponse,
    evaluateRequest, evaluateResponse, artifactStateRequest, artifactStateResponse,
    historyRequest, historyResponse, quarantineRequest, quarantineResponse,
    releaseQuarantineRequest, releaseQuarantineResponse, revokeRequest, revokeResponse,
    revokeEvidenceRequest, revokeEvidenceResponse, supersedeRequest, supersedeResponse,
    retireRequest, retireResponse, snapshotSaveRequest, snapshotSaveResponse, explainRequest,
    explainResponse, error, goodbye]

/-- The cast back from the wire, for the values `is_valid_message_type` accepts. -/
def ofValue (raw : UInt16) : Option MessageType := known.find? fun type => type.value == raw

theorem ofValue_value (type : MessageType) (valid : type ≠ invalid) :
    ofValue type.value = some type := by
  cases type with
  | invalid => exact absurd rfl valid
  | _ => decide

theorem value_of_ofValue {raw : UInt16} {type : MessageType} (found : ofValue raw = some type) :
    type.value = raw ∧ type ≠ invalid := by
  constructor
  · simpa using List.find?_some found
  · rintro rfl
    exact absurd (List.mem_of_find?_eq_some found) (by decide)

end MessageType

structure Frame where
  version : UInt16 := kProtocolVersion
  type : MessageType := .invalid
  flags : UInt32 := kFlagNone
  request : PromotionRequestId := {}
  correlation : PromotionRequestId := {}
  coordinator : CoordinatorId := {}
  epoch : CoordinatorEpoch := {}
  worker : WorkerId := {}
  boot : WorkerBootId := {}
  payload : ByteBuffer := []
deriving DecidableEq

namespace Frame

def header (frame : Frame) : ByteBuffer :=
  Writer.u32 kFrameMagic ++ (Writer.u16 frame.version ++ (Writer.u16 frame.type.value ++
    (Writer.u32 frame.flags ++ (Writer.u32 frame.payload.length.toUInt32 ++
      (Writer.identity frame.request ++ (Writer.identity frame.correlation ++
        (Writer.identity frame.coordinator ++ (Writer.counter frame.epoch ++
          (Writer.identity frame.worker ++ Writer.identity frame.boot)))))))))

def content (frame : Frame) : ByteBuffer := frame.header ++ frame.payload

end Frame

def encodeFrame (frame : Frame) : Result ByteBuffer := do
  rejectWhen (frame.type == .invalid) .protocolMalformed "frame carries an unknown message type"
  rejectWhen (frame.flags &&& ~~~kFlagNonIdempotent != 0) .protocolMalformed
    "frame carries unknown flag bits"
  rejectWhen (frame.payload.length > kMaxFrameBytes) .protocolOversized
    "frame payload exceeds the configured bound"
  rejectWhen (frame.request.invalid && frame.correlation.invalid) .protocolMalformed
    "frame carries neither a request nor a correlation identity"
  rejectWhen (frame.content.length != kFrameHeaderSize + frame.payload.length) .internalError
    "frame header size does not match the declared layout"
  return frame.content ++ Writer.digest (sha256 frame.content)

/-- `Digest::from_raw` over the last bytes of the buffer. -/
def storedFooter (bytes : ByteBuffer) : Digest :=
  ⟨(bytes.drop (bytes.length - kFrameFooterSize) ++ List.replicate 32 0).take 32, by simp⟩

open StatePersistence (rejectDecode)

def readFrame (bytes : ByteBuffer) : Decode Frame := do
  let magic ← Reader.u32
  rejectDecode (magic != kFrameMagic) .protocolMalformed
    "frame does not begin with the expected magic"
  let version ← Reader.u16
  if version ≠ kProtocolVersion then
    Reader.fail .protocolError (text "frame protocol version " ++
      text (toString version.toNat) ++ text " is not supported")
  else
    let raw ← Reader.u16
    match MessageType.ofValue raw with
    | none => Reader.fail .protocolMalformed (text "frame carries an unknown message type")
    | some type =>
        let flags ← Reader.u32
        rejectDecode (flags &&& ~~~kFlagNonIdempotent != 0) .protocolMalformed
          "frame carries unknown flag bits"
        let length ← Reader.u32
        rejectDecode (length.toNat > kMaxFrameBytes) .protocolOversized
          "declared frame payload exceeds the configured bound"
        rejectDecode (kFrameHeaderSize + length.toNat + kFrameFooterSize != bytes.length)
          .protocolMalformed "declared frame length does not match the received byte count"
        let request ← Reader.identity
        let correlation ← Reader.identity
        rejectDecode (request.invalid && correlation.invalid) .protocolMalformed
          "frame carries neither a request nor a correlation identity"
        let coordinator ← Reader.identity
        let epoch ← Reader.counter
        let worker ← Reader.identity
        let boot ← Reader.identity
        rejectDecode (storedFooter bytes != sha256 (bytes.take (bytes.length - kFrameFooterSize)))
          .protocolMalformed "frame footer digest does not match the frame content"
        let payload ← Reader.raw length.toNat
        rejectDecode (kFrameHeaderSize + length.toNat > bytes.length ||
            bytes.length - (kFrameHeaderSize + length.toNat) != kFrameFooterSize)
          .protocolMalformed "frame contains trailing bytes after its declared content"
        return { version, type, flags, request, correlation, coordinator, epoch, worker, boot,
                 payload }

def decodeFrame (bytes : ByteBuffer) : Result Frame :=
  if bytes.length < kFrameHeaderSize + kFrameFooterSize then
    .error (.of .protocolTruncated (text "frame is shorter than the minimum frame size"))
  else (readFrame bytes { data := bytes }).map Prod.fst

/-- Why a peer stops taking frames off a stream. -/
inductive ReceiveFailure where
  | closed
  | oversized
  | truncated
  | refused (status : Status)
deriving DecidableEq

def receiveFrame (stream : ByteBuffer) : Except ReceiveFailure (Frame × ByteBuffer) :=
  if stream.length < kFrameHeaderSize then .error .closed
  else
    let header := stream.take kFrameHeaderSize
    let declared := (loadU32 (header.drop 12)).toNat
    if declared > kMaxFrameBytes then .error .oversized
    else
      let size := kFrameHeaderSize + declared + kFrameFooterSize
      if stream.length < size then .error .truncated
      else
        match decodeFrame (stream.take size) with
        | .error status => .error (.refused status)
        | .ok frame => .ok (frame, stream.drop size)

theorem receiveFrame_shorter {stream rest : ByteBuffer} {frame : Frame}
    (received : receiveFrame stream = .ok (frame, rest)) : rest.length < stream.length := by
  have header : 0 < kFrameHeaderSize := by decide
  unfold receiveFrame at received
  split at received
  · cases received
  · dsimp only at received
    split at received
    · cases received
    · split at received
      · cases received
      · split at received
        · cases received
        · cases received
          rw [List.length_drop]
          omega

/-- The frames taken off a stream until the loop stops, and why it does. -/
def receiveFrames (stream : ByteBuffer) : List Frame × ReceiveFailure :=
  match received : receiveFrame stream with
  | .error failure => ([], failure)
  | .ok (frame, rest) =>
      have _shorter := receiveFrame_shorter received
      let (frames, failure) := receiveFrames rest
      (frame :: frames, failure)
termination_by stream.length

end Protocol

end ArtifactPromotion
