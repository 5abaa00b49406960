import ArtifactPromotion.Distributed.Frames
import ArtifactPromotion.Library.PartialTransfers

/-! Sockets: the loops of `send_all` and `receive_exactly` over a system that moves as much as it
likes at a time, and the frames that get through them. -/

namespace ArtifactPromotion

open PartialTransfers Protocol

namespace Protocol

theorem receiveFrame_partial {frame : Frame} {stream more : ByteBuffer} (sendable : Sendable frame)
    (arrived : stream <+: frameBytes frame ++ more)
    (short : stream.length < (frameBytes frame).length) :
    receiveFrame stream = .error .closed ∨ receiveFrame stream = .error .truncated := by
  unfold receiveFrame
  by_cases few : stream.length < kFrameHeaderSize
  · rw [if_pos few]
    exact .inl rfl
  have header : stream.take kFrameHeaderSize = frame.header := by
    obtain ⟨rest, split⟩ := arrived
    have front := congrArg (List.take kFrameHeaderSize) split
    rw [List.take_append_of_le_length (Nat.le_of_not_lt few), frameBytes, Frame.content,
      List.append_assoc, List.append_assoc, List.take_left' (header_length frame)] at front
    exact front
  have bounded := sendable.bounded
  rw [frameBytes_length] at short
  rw [if_neg few, header]
  dsimp only
  rw [header_declares sendable, if_neg (by omega), if_pos short]
  exact .inr rfl

theorem receiveFrames_stop {stream : ByteBuffer} {failure : ReceiveFailure}
    (failed : receiveFrame stream = .error failure) : receiveFrames stream = ([], failure) := by
  rw [receiveFrames.eq_def]
  split
  · rename_i received
    rw [failed] at received
    cases received
    rfl
  · rename_i received
    rw [failed] at received
    cases received

theorem receiveFrames_next {stream rest : ByteBuffer} {frame : Frame}
    (taken : receiveFrame stream = .ok (frame, rest)) :
    receiveFrames stream = (frame :: (receiveFrames rest).1, (receiveFrames rest).2) := by
  rw [receiveFrames.eq_def]
  split
  · rename_i received
    rw [taken] at received
    cases received
  · rename_i received
    rw [taken] at received
    cases received
    rfl

/-- Of sent frames those are taken off the stream that have arrived completely, in their order. -/
theorem receiveFrames_arrived {frames : List Frame} {stream : ByteBuffer}
    (sendable : ∀ frame ∈ frames, Sendable frame)
    (versioned : ∀ frame ∈ frames, frame.version = kProtocolVersion)
    (arrived : stream <+: frames.flatMap frameBytes) :
    ∃ count failure, receiveFrames stream = (frames.take count, failure) ∧
      (failure = .closed ∨ failure = .truncated) ∧
      (frames.take count).flatMap frameBytes <+: stream ∧
      (count < frames.length →
        stream.length < ((frames.take (count + 1)).flatMap frameBytes).length) := by
  induction frames generalizing stream with
  | nil =>
      obtain rfl : stream = [] := List.prefix_nil.mp arrived
      exact ⟨0, .closed, receiveFrames_stop rfl, .inl rfl, List.nil_prefix, by simp⟩
  | cons first rest ih =>
      obtain ⟨firstSendable, restSendable⟩ := List.forall_mem_cons.mp sendable
      obtain ⟨firstVersioned, restVersioned⟩ := List.forall_mem_cons.mp versioned
      rw [List.flatMap_cons] at arrived
      by_cases short : stream.length < (frameBytes first).length
      · have waits : 0 < (first :: rest).length →
            stream.length < (((first :: rest).take 1).flatMap frameBytes).length := by
          intro _
          simpa using short
        rcases receiveFrame_partial firstSendable arrived short with closed | truncated
        · exact ⟨0, .closed, receiveFrames_stop closed, .inl rfl, List.nil_prefix, waits⟩
        · exact ⟨0, .truncated, receiveFrames_stop truncated, .inr rfl, List.nil_prefix, waits⟩
      · obtain ⟨tail, rfl⟩ : frameBytes first <+: stream :=
          List.prefix_of_prefix_length_le (List.prefix_append ..) arrived (Nat.le_of_not_lt short)
        obtain ⟨count, failure, received, stopped, whole, next⟩ := ih restSendable restVersioned
          ((List.prefix_append_right_inj _).mp arrived)
        refine ⟨count + 1, failure, ?_, stopped, ?_, fun more => ?_⟩
        · rw [receiveFrames_next (receiveFrame_frameBytes firstSendable firstVersioned tail),
            received]
          rfl
        · rw [List.take_succ_cons, List.flatMap_cons]
          exact (List.prefix_append_right_inj _).mpr whole
        · have shorter := next (by simpa using more)
          rw [List.take_succ_cons, List.flatMap_cons, List.length_append, List.length_append]
          omega

theorem mapM_encodeFrame_eq {frames : List Frame} {encodings : List ByteBuffer}
    (encoded : frames.mapM encodeFrame = .ok encodings) :
    (∀ frame ∈ frames, Sendable frame) ∧ encodings = frames.map frameBytes := by
  induction frames generalizing encodings with
  | nil =>
      cases encoded
      simp
  | cons first rest ih =>
      rw [List.mapM_cons] at encoded
      obtain ⟨bytes, firstEncoded, encoded⟩ := (bind_eq_ok _ _ _).mp encoded
      obtain ⟨others, restEncoded, encoded⟩ := (bind_eq_ok _ _ _).mp encoded
      cases encoded
      obtain ⟨sendable, rfl⟩ := (encodeFrame_eq_ok _ _).mp firstEncoded
      obtain ⟨restSendable, rfl⟩ := ih restEncoded
      exact ⟨List.forall_mem_cons.mpr ⟨sendable, restSendable⟩, rfl⟩

end Protocol

def kMaxChunk : Nat := 0x7FFFFFFF

theorem kMaxChunk_pos : 0 < kMaxChunk := by decide

inductive SocketEnd where
  | closed
  | failed (reason : Text)

structure Socket where
  valid : Bool := true
  incoming : Incoming UInt8 SocketEnd

namespace Socket

/-- `send_all`: the bytes that went out, and the status; `reason` is why a call failed, if one did. -/
def sendAll (socket : Socket) (ready : List Nat) (reason : Text) (data : ByteBuffer) :
    ByteBuffer × Result Unit :=
  if !socket.valid then
    ([], .error (.of .transportError (text "send attempted on a closed socket")))
  else
    let (written, complete) := writeAll kMaxChunk ready data
    (written, if complete then .ok ()
      else .error (.of .transportError (text "send failed: " ++ reason)))

def receiveExactly (socket : Socket) (size : Nat) : Result (ByteBuffer × Socket) :=
  if !socket.valid then
    .error (.of .transportError (text "receive attempted on a closed socket"))
  else
    match socket.incoming.readExactly kMaxChunk kMaxChunk_pos size with
    | .ok (bytes, incoming) => .ok (bytes, { socket with incoming })
    | .error .closed =>
        .error (.of .connectionClosed (text "peer closed the connection mid-frame"))
    | .error (.failed reason) =>
        .error (.of .transportError (text "receive failed: " ++ reason))

def receiveFrame (socket : Socket) : Except ReceiveFailure (Frame × Socket) :=
  match socket.receiveExactly kFrameHeaderSize with
  | .error _ => .error .closed
  | .ok (header, socket) =>
      let declared := (loadU32 (header.drop 12)).toNat
      if declared > kMaxFrameBytes then .error .oversized
      else
        match socket.receiveExactly (declared + kFrameFooterSize) with
        | .error _ => .error .truncated
        | .ok (rest, socket) =>
            match decodeFrame (header ++ rest) with
            | .error status => .error (.refused status)
            | .ok frame => .ok (frame, socket)

variable {socket : Socket}

theorem sendAll_spec (ready : List Nat) (reason : Text) (data : ByteBuffer) :
    ∃ left, data = (socket.sendAll ready reason data).1 ++ left ∧
      ((socket.sendAll ready reason data).2 = .ok () → left = []) := by
  unfold sendAll
  split
  · exact ⟨data, rfl, by simp⟩
  · obtain ⟨left, split, done⟩ := writeAll_spec kMaxChunk ready data
    refine ⟨left, split, fun sent => done.mp ?_⟩
    dsimp only at sent
    split at sent
    · assumption
    · cases sent

theorem receiveExactly_enough (valid : socket.valid = true) {size : Nat}
    (enough : size ≤ socket.incoming.content.length) : ∃ next,
    socket.receiveExactly size = .ok (socket.incoming.content.take size, next) ∧
      next.valid = true ∧ next.incoming.content = socket.incoming.content.drop size := by
  obtain ⟨incoming, read, rest, _⟩ :=
    (Incoming.readExactly_spec kMaxChunk kMaxChunk_pos socket.incoming size).1 enough
  refine ⟨{ socket with incoming }, ?_, valid, rest⟩
  simp only [receiveExactly, valid, Bool.not_true, Bool.false_eq_true, if_false, read]

theorem receiveExactly_short {size : Nat} (short : socket.incoming.content.length < size) :
    ∃ status, socket.receiveExactly size = .error status := by
  have read := (Incoming.readExactly_spec kMaxChunk kMaxChunk_pos socket.incoming size).2 short
  unfold receiveExactly
  split
  · exact ⟨_, rfl⟩
  · rw [read]
    cases socket.incoming.ending with
    | closed => exact ⟨_, rfl⟩
    | failed reason => exact ⟨_, rfl⟩

theorem receiveFrame_stream (valid : socket.valid = true) :
    (∃ failure, socket.receiveFrame = .error failure ∧
      Protocol.receiveFrame socket.incoming.content = .error failure) ∨
    ∃ frame next, socket.receiveFrame = .ok (frame, next) ∧ next.valid = true ∧
      Protocol.receiveFrame socket.incoming.content = .ok (frame, next.incoming.content) := by
  unfold receiveFrame Protocol.receiveFrame
  by_cases few : socket.incoming.content.length < kFrameHeaderSize
  · obtain ⟨status, failed⟩ := receiveExactly_short few
    rw [failed, if_pos few]
    exact .inl ⟨_, rfl, rfl⟩
  obtain ⟨after, header, still, rest⟩ := receiveExactly_enough valid (Nat.le_of_not_lt few)
  rw [header, if_neg few]
  dsimp only
  generalize declares : (loadU32 ((socket.incoming.content.take kFrameHeaderSize).drop 12)).toNat =
    declared
  by_cases oversized : declared > kMaxFrameBytes
  · rw [if_pos oversized, if_pos oversized]
    exact .inl ⟨_, rfl, rfl⟩
  rw [if_neg oversized, if_neg oversized]
  have remaining : after.incoming.content.length =
      socket.incoming.content.length - kFrameHeaderSize := by
    rw [rest, List.length_drop]
  by_cases short : socket.incoming.content.length < kFrameHeaderSize + declared + kFrameFooterSize
  · obtain ⟨status, failed⟩ := @receiveExactly_short after
      (declared + kFrameFooterSize) (by omega)
    rw [failed, if_pos short]
    exact .inl ⟨_, rfl, rfl⟩
  obtain ⟨last, body, open_, left⟩ := @receiveExactly_enough after still
    (declared + kFrameFooterSize) (by omega)
  have whole : socket.incoming.content.take kFrameHeaderSize ++
      after.incoming.content.take (declared + kFrameFooterSize) =
        socket.incoming.content.take (kFrameHeaderSize + declared + kFrameFooterSize) := by
    rw [rest, ← List.take_add, Nat.add_assoc]
  have beyond : last.incoming.content =
      socket.incoming.content.drop (kFrameHeaderSize + declared + kFrameFooterSize) := by
    rw [left, rest, List.drop_drop, Nat.add_assoc]
  rw [body, if_neg short]
  dsimp only
  rw [whole]
  cases decodeFrame
      (socket.incoming.content.take (kFrameHeaderSize + declared + kFrameFooterSize)) with
  | error status => exact .inl ⟨_, rfl, rfl⟩
  | ok frame => exact .inr ⟨frame, last, rfl, open_, by rw [beyond]⟩

theorem receiveFrame_valid {outcome : Frame × Socket}
    (received : socket.receiveFrame = .ok outcome) : socket.valid = true := by
  cases valid : socket.valid with
  | true => rfl
  | false => simp [receiveFrame, receiveExactly, valid] at received

theorem receiveFrame_progress {frame : Frame} {next : Socket}
    (received : socket.receiveFrame = .ok (frame, next)) :
    next.incoming.content.length < socket.incoming.content.length := by
  rcases receiveFrame_stream (receiveFrame_valid received) with
    ⟨failure, failed, _⟩ | ⟨_, _, taken, _, streamed⟩
  · rw [received] at failed
    cases failed
  · rw [received] at taken
    cases taken
    exact receiveFrame_shorter streamed

def receiveFrames (socket : Socket) : List Frame × ReceiveFailure :=
  match received : socket.receiveFrame with
  | .error failure => ([], failure)
  | .ok (frame, next) =>
      have _shorter : next.incoming.content.length < socket.incoming.content.length :=
        receiveFrame_progress received
      let (frames, failure) := next.receiveFrames
      (frame :: frames, failure)
termination_by socket.incoming.content.length

theorem receiveFrames_stream (valid : socket.valid = true) :
    socket.receiveFrames = Protocol.receiveFrames socket.incoming.content := by
  induction socket using receiveFrames.induct with
  | case1 socket failure failed =>
      rw [receiveFrames.eq_def]
      split
      · rename_i received
        rcases receiveFrame_stream valid with ⟨_, same, streamed⟩ | ⟨_, _, taken, _⟩
        · rw [received] at same
          cases same
          rw [receiveFrames_stop streamed]
        · rw [received] at taken
          cases taken
      · rename_i received
        rw [failed] at received
        cases received
  | case2 socket frame next received shorter _ _ _ ih =>
      rcases receiveFrame_stream valid with ⟨_, failed, _⟩ | ⟨_, _, taken, still, streamed⟩
      · rw [received] at failed
        cases failed
      · rw [received] at taken
        cases taken
        rw [receiveFrames.eq_def]
        split
        · rename_i failed
          rw [received] at failed
          cases failed
        · rename_i again
          rw [received] at again
          cases again
          rw [receiveFrames_next streamed, ih still]

end Socket

structure Sending where
  bytes : ByteBuffer
  ready : List Nat
  reason : Text := []

/-- What goes out when buffers are sent one after the other until a call fails. -/
def Socket.sendEach (socket : Socket) : List Sending → ByteBuffer
  | [] => []
  | first :: rest =>
      match socket.sendAll first.ready first.reason first.bytes with
      | (written, .error _) => written
      | (written, .ok _) => written ++ socket.sendEach rest

theorem Socket.sendEach_prefix (socket : Socket) (sendings : List Sending) :
    socket.sendEach sendings <+: (sendings.map Sending.bytes).flatten := by
  induction sendings with
  | nil => exact List.nil_prefix
  | cons first rest ih =>
      obtain ⟨left, split, sent⟩ := socket.sendAll_spec first.ready first.reason first.bytes
      rw [List.map_cons, List.flatten_cons, sendEach]
      split
      · rename_i written status answered
        rw [answered] at split
        rw [split, List.append_assoc]
        exact List.prefix_append ..
      · rename_i written answered
        rw [answered] at split sent
        obtain rfl := sent rfl
        rw [List.append_nil] at split
        rw [split]
        exact (List.prefix_append_right_inj _).mpr ih

/-- Frames are handed to the system in any portions, and a part from the front of what went out
arrives in any pieces: the receiver gets exactly the frames that arrive completely, in order. -/
theorem transport_exact {frames : List Frame} {sendings : List Sending} (sender receiver : Socket)
    (versioned : ∀ frame ∈ frames, frame.version = kProtocolVersion)
    (encoded : frames.mapM encodeFrame = .ok (sendings.map Sending.bytes))
    (valid : receiver.valid = true)
    (arrives : receiver.incoming.content <+: sender.sendEach sendings) :
    ∃ count failure, receiver.receiveFrames = (frames.take count, failure) ∧
      (failure = .closed ∨ failure = .truncated) ∧
      ((sendings.take count).map Sending.bytes).flatten <+: receiver.incoming.content ∧
      (count < frames.length → receiver.incoming.content.length <
        ((sendings.take (count + 1)).map Sending.bytes).flatten.length) := by
  obtain ⟨sendable, same⟩ := mapM_encodeFrame_eq encoded
  have parts (count : Nat) : ((sendings.take count).map Sending.bytes).flatten =
      (frames.take count).flatMap frameBytes := by
    rw [List.map_take, same, ← List.map_take, List.flatMap_def]
  have whole := sender.sendEach_prefix sendings
  rw [same, ← List.flatMap_def] at whole
  rw [Socket.receiveFrames_stream valid]
  obtain ⟨count, failure, received, stopped, complete, next⟩ :=
    receiveFrames_arrived sendable versioned (arrives.trans whole)
  exact ⟨count, failure, received, stopped, by rw [parts]; exact complete,
    by rw [parts]; exact next⟩

theorem transport_exact_goodbye : ∃ (sender receiver : Socket) (sendings : List Sending),
    [sampleGoodbye, sampleGoodbye].mapM encodeFrame = .ok (sendings.map Sending.bytes) ∧
      receiver.incoming.pieces.length = 2 ∧
      receiver.incoming.content = sender.sendEach sendings ∧
      receiver.receiveFrames.1 = [sampleGoodbye] := by
  have size : (frameBytes sampleGoodbye).length = 136 := frameBytes_length sampleGoodbye
  have encoded : encodeFrame sampleGoodbye = .ok (frameBytes sampleGoodbye) :=
    (encodeFrame_eq_ok _ _).mpr ⟨⟨by decide, by decide, by decide, by decide⟩, rfl⟩
  have both : [sampleGoodbye, sampleGoodbye].mapM encodeFrame =
      .ok [frameBytes sampleGoodbye, frameBytes sampleGoodbye] := by
    simp [encoded, bind, Except.bind, pure, Except.pure]
  generalize frameBytes sampleGoodbye = bytes at size both
  let sender : Socket := { incoming := ⟨[], .closed, nofun⟩ }
  let receiver : Socket := { incoming := ⟨[bytes.take 50, bytes.drop 50], .closed, by
    simp only [List.forall_mem_cons, List.not_mem_nil, false_implies, implies_true, and_true]
    constructor
    · exact List.ne_nil_of_length_pos (by rw [List.length_take]; omega)
    · exact List.ne_nil_of_length_pos (by rw [List.length_drop]; omega)⟩ }
  let sendings : List Sending :=
    [⟨bytes, [bytes.length], []⟩, ⟨bytes, [], text "connection reset"⟩]
  have content : receiver.incoming.content = bytes := by
    show [bytes.take 50, bytes.drop 50].flatten = bytes
    rw [List.flatten_cons, List.flatten_singleton, List.take_append_drop]
  have sent : sender.sendEach sendings = bytes := by
    have first : sender.sendAll [bytes.length] [] bytes = (bytes, .ok ()) := by
      have once := writeAll_at_once (show bytes.length ≤ kMaxChunk by rw [size]; decide) []
      simp [Socket.sendAll, sender, once]
    have second : sender.sendAll [] (text "connection reset") bytes =
        ([], .error (.of .transportError (text "send failed: connection reset"))) := by
      cases bytes with
      | nil => cases size
      | cons => rfl
    simp only [sendings, Socket.sendEach, first, second, List.append_nil]
  obtain ⟨count, failure, received, _, complete, next⟩ :=
    @transport_exact [sampleGoodbye, sampleGoodbye] sendings sender receiver (by decide) both rfl
      ⟨[], (List.append_nil _).trans (content.trans sent.symm)⟩
  refine ⟨sender, receiver, sendings, both, rfl, content.trans sent.symm, ?_⟩
  rw [content] at complete next
  have few := complete.length_le
  match count with
  | 0 =>
      have more := next (by decide)
      simp [sendings] at more
  | 1 => rw [received]; rfl
  | count + 2 =>
      have all : sendings.take (count + 2) = sendings := List.take_of_length_le (Nat.le_add_left ..)
      simp only [all, sendings, List.map_cons, List.map_nil, List.flatten_cons, List.flatten_nil,
        List.append_nil, List.length_append] at few
      omega

end ArtifactPromotion
