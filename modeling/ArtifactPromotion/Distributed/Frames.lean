import ArtifactPromotion.Distributed.Protocol
import ArtifactPromotion.Persist.Reading

/-! The frame codec loses nothing and accepts nothing twice, and frames sent one after the other
are taken off the stream one after the other. -/

namespace ArtifactPromotion

open Decoding

namespace Protocol

open StatePersistence (rejectDecode rejectDecode_answers)
open Reader (view)

theorem rejectDecode_passed {α : Type} {bad : Bool} {code : ErrorCode} {message : String}
    {next : Unit → Decode α} {reader final : Reader} {result : α}
    (answer : (rejectDecode bad code message >>= next) reader = .ok (result, final)) :
    bad = false ∧ next () reader = .ok (result, final) := by
  obtain ⟨done, middle, tested, continued⟩ := bind_answers.mp answer
  obtain ⟨passes, rfl⟩ := rejectDecode_answers.mp tested
  exact ⟨passes, continued⟩

theorem rejectDecode_yields {bad : Bool} {code : ErrorCode} {message : String}
    (passes : bad = false) : Yields view (rejectDecode bad code message) [] () :=
  fun reader _ sound unread => ⟨reader, rejectDecode_answers.mpr ⟨passes, rfl⟩, sound, unread⟩

structure Sendable (frame : Frame) : Prop where
  typed : frame.type ≠ .invalid
  flagged : frame.flags &&& ~~~kFlagNonIdempotent = 0
  bounded : frame.payload.length ≤ kMaxFrameBytes
  identified : (frame.request.invalid && frame.correlation.invalid) = false

theorem header_length (frame : Frame) : frame.header.length = kFrameHeaderSize := by
  simp [Frame.header, Writer.u32, Writer.u16, Writer.identity, Writer.counter, Writer.u64,
    kFrameHeaderSize]

theorem content_length (frame : Frame) :
    frame.content.length = kFrameHeaderSize + frame.payload.length := by
  rw [Frame.content, List.length_append, header_length]

def frameBytes (frame : Frame) : ByteBuffer :=
  frame.content ++ Writer.digest (sha256 frame.content)

theorem frameBytes_length (frame : Frame) : (frameBytes frame).length =
    kFrameHeaderSize + frame.payload.length + kFrameFooterSize := by
  rw [frameBytes, List.length_append, content_length]
  exact congrArg _ (sha256 frame.content).sized

theorem encodeFrame_eq_ok (frame : Frame) (bytes : ByteBuffer) :
    encodeFrame frame = .ok bytes ↔ Sendable frame ∧ bytes = frameBytes frame := by
  unfold encodeFrame
  simp only [bind_eq_ok, rejectWhen_eq_ok, content_length, bne_self_eq_false, exists_and_left]
  constructor
  · rintro ⟨typed, flagged, bounded, identified, -, -, -, -, -, -, encoded⟩
    cases encoded
    exact ⟨⟨by simpa using typed, by simpa using flagged, by simpa using bounded, identified⟩, rfl⟩
  · rintro ⟨sendable, rfl⟩
    exact ⟨by simpa using sendable.typed, by simpa using sendable.flagged,
      by simpa using sendable.bounded, sendable.identified, trivial, (), (), (), (), (), rfl⟩

theorem content_eq (frame : Frame) : frame.content =
    Writer.u32 kFrameMagic ++ (Writer.u16 frame.version ++ (Writer.u16 frame.type.value ++
      (Writer.u32 frame.flags ++ (Writer.u32 frame.payload.length.toUInt32 ++
        (Writer.identity frame.request ++ (Writer.identity frame.correlation ++
          (Writer.identity frame.coordinator ++ (Writer.counter frame.epoch ++
            (Writer.identity frame.worker ++ (Writer.identity frame.boot ++
              frame.payload)))))))))) := by
  simp only [Frame.content, Frame.header, List.append_assoc]

theorem frameBytes_content (frame : Frame) :
    (frameBytes frame).take ((frameBytes frame).length - kFrameFooterSize) = frame.content := by
  rw [frameBytes_length, ← content_length, Nat.add_sub_cancel]
  exact List.take_left' rfl

theorem frameBytes_footer (frame : Frame) :
    storedFooter (frameBytes frame) = sha256 frame.content := by
  have starts : (frameBytes frame).length - kFrameFooterSize = frame.content.length := by
    rw [frameBytes_length, ← content_length, Nat.add_sub_cancel]
  have footer : (frameBytes frame).drop ((frameBytes frame).length - kFrameFooterSize) =
      (sha256 frame.content).bytes := by
    rw [starts]
    exact List.drop_left' rfl
  apply Digest.eq_of_bytes
  change ((frameBytes frame).drop ((frameBytes frame).length - kFrameFooterSize) ++ _).take 32 = _
  rw [footer, List.take_left' (sha256 frame.content).sized]

theorem payloadLength_toNat {frame : Frame} (sendable : Sendable frame) :
    frame.payload.length.toUInt32.toNat = frame.payload.length := by
  have bounded := sendable.bounded
  have limit : kMaxFrameBytes < 2 ^ 32 := by decide
  exact Reader.toUInt32_toNat (by omega)

theorem readFrame_yields {frame : Frame} (sendable : Sendable frame)
    (versioned : frame.version = kProtocolVersion) :
    Yields view (readFrame (frameBytes frame)) frame.content frame := by
  have length := payloadLength_toNat sendable
  rw [content_eq]
  unfold readFrame
  refine yields_bind (Reader.u32_yields _) ?_
  refine yields_check (rejectDecode_yields (bne_self_eq_false _)) ?_
  refine yields_bind (Reader.u16_yields _) ?_
  rw [if_neg (not_not_intro versioned)]
  refine yields_bind (Reader.u16_yields _) ?_
  simp only [MessageType.ofValue_value _ sendable.typed]
  refine yields_bind (Reader.u32_yields _) ?_
  refine yields_check (rejectDecode_yields (by simpa using sendable.flagged)) ?_
  refine yields_bind (Reader.u32_yields _) ?_
  rw [length]
  refine yields_check (rejectDecode_yields (by simpa using sendable.bounded)) ?_
  refine yields_check (rejectDecode_yields (by simp [frameBytes_length])) ?_
  refine yields_bind (Reader.identity_yields _) ?_
  refine yields_bind (Reader.identity_yields _) ?_
  refine yields_check (rejectDecode_yields sendable.identified) ?_
  refine yields_bind (Reader.identity_yields _) ?_
  refine yields_bind (Reader.counter_yields _) ?_
  refine yields_bind (Reader.identity_yields _) ?_
  refine yields_bind (Reader.identity_yields _) ?_
  refine yields_check (rejectDecode_yields ?_) ?_
  · rw [frameBytes_content, frameBytes_footer]
    exact bne_self_eq_false _
  · refine yields_last (Reader.raw_yields rfl) ?_
    refine yields_check (rejectDecode_yields ?_) (yields_pure _)
    rw [frameBytes_length, Nat.add_sub_cancel_left]
    simp

theorem decodeFrame_frameBytes {frame : Frame} (sendable : Sendable frame)
    (versioned : frame.version = kProtocolVersion) : decodeFrame (frameBytes frame) = .ok frame := by
  obtain ⟨next, read, -, -⟩ := readFrame_yields sendable versioned { data := frameBytes frame }
    (Writer.digest (sha256 frame.content)) (Nat.zero_le _) rfl
  have enough : ¬(frameBytes frame).length < kFrameHeaderSize + kFrameFooterSize := by
    rw [frameBytes_length]
    omega
  rw [decodeFrame, if_neg enough, read]
  rfl

theorem readFrame_recovers {bytes : ByteBuffer} {reader final : Reader} {frame : Frame}
    (sound : view.sound reader) (read : readFrame bytes reader = .ok (frame, final)) :
    Sendable frame ∧ frame.version = kProtocolVersion ∧
      view.unread reader = frame.content ++ view.unread final ∧
      kFrameHeaderSize + frame.payload.length + kFrameFooterSize = bytes.length ∧
      storedFooter bytes = sha256 (bytes.take (bytes.length - kFrameFooterSize)) := by
  unfold readFrame at read
  obtain ⟨magic, _, sound, magicUnread, -, read⟩ := Reader.u32_recovers.bind sound read
  obtain ⟨isMagic, read⟩ := rejectDecode_passed read
  obtain ⟨version, _, sound, versionUnread, -, read⟩ := Reader.u16_recovers.bind sound read
  split at read
  · cases read
  · rename_i versioned
    obtain ⟨raw, _, sound, typeUnread, -, read⟩ := Reader.u16_recovers.bind sound read
    cases typed : MessageType.ofValue raw with
    | none => simp [typed, Reader.fail] at read
    | some type =>
        obtain ⟨rfl, valid⟩ := MessageType.value_of_ofValue typed
        simp only [typed] at read
        obtain ⟨flags, _, sound, flagsUnread, -, read⟩ := Reader.u32_recovers.bind sound read
        obtain ⟨flagged, read⟩ := rejectDecode_passed read
        obtain ⟨length, _, sound, lengthUnread, -, read⟩ := Reader.u32_recovers.bind sound read
        obtain ⟨bounded, read⟩ := rejectDecode_passed read
        obtain ⟨sized, read⟩ := rejectDecode_passed read
        obtain ⟨request, _, sound, requestUnread, -, read⟩ :=
          Reader.identity_recovers.bind sound read
        obtain ⟨correlation, _, sound, correlationUnread, -, read⟩ :=
          Reader.identity_recovers.bind sound read
        obtain ⟨identified, read⟩ := rejectDecode_passed read
        obtain ⟨coordinator, _, sound, coordinatorUnread, -, read⟩ :=
          Reader.identity_recovers.bind sound read
        obtain ⟨epoch, _, sound, epochUnread, -, read⟩ := Reader.counter_recovers.bind sound read
        obtain ⟨worker, _, sound, workerUnread, -, read⟩ :=
          Reader.identity_recovers.bind sound read
        obtain ⟨boot, _, sound, bootUnread, -, read⟩ := Reader.identity_recovers.bind sound read
        obtain ⟨footed, read⟩ := rejectDecode_passed read
        obtain ⟨payload, _, sound, payloadUnread, payloadRead, read⟩ :=
          (Reader.raw_recovers _).bind sound read
        obtain ⟨-, read⟩ := rejectDecode_passed read
        obtain ⟨rfl, rfl⟩ := pure_answers.mp read
        have measured := Reader.raw_length payloadRead
        have declared : payload.length.toUInt32 = length := by simp [measured]
        refine ⟨⟨valid, by simpa using flagged, ?_, identified⟩, not_not.mp versioned, ?_, ?_, ?_⟩
        · simpa [measured] using bounded
        · rw [magicUnread, versionUnread, typeUnread, flagsUnread, lengthUnread, requestUnread,
            correlationUnread, coordinatorUnread, epochUnread, workerUnread, bootUnread,
            payloadUnread, content_eq]
          simp only [List.append_assoc, declared, id, bne_eq_false_iff_eq.mp isMagic]
        · rw [measured]
          exact bne_eq_false_iff_eq.mp sized
        · exact bne_eq_false_iff_eq.mp footed

theorem decodeFrame_recovers {bytes : ByteBuffer} {frame : Frame}
    (decoded : decodeFrame bytes = .ok frame) :
    Sendable frame ∧ frame.version = kProtocolVersion ∧ bytes = frameBytes frame := by
  unfold decodeFrame at decoded
  split at decoded
  · cases decoded
  · cases read : readFrame bytes { data := bytes } with
    | error status => simp [read, Except.map] at decoded
    | ok reply =>
        obtain ⟨found, final⟩ := reply
        rw [read] at decoded
        obtain rfl : found = frame := by simpa [Except.map] using decoded
        obtain ⟨sendable, versioned, unread, sized, footed⟩ :=
          readFrame_recovers (Nat.zero_le _) read
        have whole : bytes = found.content ++ view.unread final := unread
        have starts : bytes.length - kFrameFooterSize = found.content.length := by
          rw [content_length]
          omega
        have footer : (view.unread final).length = 32 := by
          have lengths := congrArg List.length whole
          have size : kFrameFooterSize = 32 := rfl
          rw [List.length_append, content_length] at lengths
          omega
        have content : bytes.take (bytes.length - kFrameFooterSize) = found.content := by
          rw [starts]
          conv => lhs; rw [whole]
          exact List.take_left' rfl
        have tail : bytes.drop (bytes.length - kFrameFooterSize) = view.unread final := by
          rw [starts]
          conv => lhs; rw [whole]
          exact List.drop_left' rfl
        rw [content] at footed
        have sealed := congrArg Digest.bytes footed
        change (bytes.drop (bytes.length - kFrameFooterSize) ++ _).take 32 = _ at sealed
        rw [tail, List.take_left' footer] at sealed
        refine ⟨sendable, versioned, ?_⟩
        rw [whole, sealed]
        rfl

theorem header_declares {frame : Frame} (sendable : Sendable frame) :
    (loadU32 (frame.header.drop 12)).toNat = frame.payload.length := by
  have place : frame.header.drop 12 = storeU32 frame.payload.length.toUInt32 ++
      (Writer.identity frame.request ++ (Writer.identity frame.correlation ++
        (Writer.identity frame.coordinator ++ (Writer.counter frame.epoch ++
          (Writer.identity frame.worker ++ Writer.identity frame.boot))))) := rfl
  rw [place, loadU32_storeU32, payloadLength_toNat sendable]

theorem receiveFrame_frameBytes {frame : Frame} (sendable : Sendable frame)
    (versioned : frame.version = kProtocolVersion) (rest : ByteBuffer) :
    receiveFrame (frameBytes frame ++ rest) = .ok (frame, rest) := by
  have header : (frameBytes frame ++ rest).take kFrameHeaderSize = frame.header := by
    rw [frameBytes, Frame.content, List.append_assoc, List.append_assoc]
    exact List.take_left' (header_length frame)
  have size := frameBytes_length frame
  have bounded := sendable.bounded
  unfold receiveFrame
  rw [header]
  dsimp only
  rw [header_declares sendable, ← size, List.length_append, List.take_left' rfl,
    List.drop_left' rfl, decodeFrame_frameBytes sendable versioned, if_neg (by omega),
    if_neg (by omega), if_neg (by omega)]

theorem receiveFrames_frameBytes {frames : List Frame} (sendable : ∀ frame ∈ frames, Sendable frame)
    (versioned : ∀ frame ∈ frames, frame.version = kProtocolVersion) :
    receiveFrames (frames.flatMap frameBytes) = (frames, .closed) := by
  induction frames with
  | nil =>
      have empty : receiveFrame [] = .error .closed := rfl
      rw [List.flatMap_nil, receiveFrames.eq_def]
      split
      · rename_i failure received
        rw [empty] at received
        cases received
        rfl
      · rename_i received
        rw [empty] at received
        cases received
  | cons first rest ih =>
      obtain ⟨firstSendable, restSendable⟩ := List.forall_mem_cons.mp sendable
      obtain ⟨firstVersioned, restVersioned⟩ := List.forall_mem_cons.mp versioned
      have taken := receiveFrame_frameBytes firstSendable firstVersioned (rest.flatMap frameBytes)
      rw [List.flatMap_cons, receiveFrames.eq_def]
      split
      · rename_i received
        rw [taken] at received
        cases received
      · rename_i received
        rw [taken] at received
        cases received
        rw [ih restSendable restVersioned]

theorem mapM_encodeFrame {frames : List Frame} {encodings : List ByteBuffer}
    (encoded : frames.mapM encodeFrame = .ok encodings) :
    (∀ frame ∈ frames, Sendable frame) ∧ encodings.flatten = frames.flatMap frameBytes := by
  induction frames generalizing encodings with
  | nil =>
      cases encoded
      simp
  | cons first rest ih =>
      rw [List.mapM_cons] at encoded
      obtain ⟨bytes, firstEncoded, encoded⟩ := (bind_eq_ok _ _ _).mp encoded
      obtain ⟨others, restEncoded, encoded⟩ := (bind_eq_ok _ _ _).mp encoded
      cases encoded
      obtain ⟨sendable, rfl⟩ := (encodeFrame_eq_ok _ _).mp firstEncoded
      obtain ⟨restSendable, flattened⟩ := ih restEncoded
      exact ⟨List.forall_mem_cons.mpr ⟨sendable, restSendable⟩, by simp [flattened]⟩

/-- Sent frames come back, accepted buffers have one spelling, and frames sent one after the
other are taken off the stream in that order. -/
theorem frame_codec_exact :
    (∀ frame bytes, frame.version = kProtocolVersion → encodeFrame frame = .ok bytes →
      decodeFrame bytes = .ok frame) ∧
    (∀ bytes frame, decodeFrame bytes = .ok frame → encodeFrame frame = .ok bytes) ∧
    (∀ frames encodings, (∀ frame ∈ frames, frame.version = kProtocolVersion) →
      frames.mapM encodeFrame = .ok encodings →
      receiveFrames encodings.flatten = (frames, .closed)) := by
  refine ⟨?_, ?_, ?_⟩
  · intro frame bytes versioned encoded
    obtain ⟨sendable, rfl⟩ := (encodeFrame_eq_ok frame bytes).mp encoded
    exact decodeFrame_frameBytes sendable versioned
  · intro bytes frame decoded
    obtain ⟨sendable, -, spelled⟩ := decodeFrame_recovers decoded
    exact (encodeFrame_eq_ok frame bytes).mpr ⟨sendable, spelled⟩
  · intro frames encodings versioned encoded
    obtain ⟨sendable, flattened⟩ := mapM_encodeFrame encoded
    rw [flattened]
    exact receiveFrames_frameBytes sendable versioned

def sampleGoodbye : Frame := { type := .goodbye, request := ⟨1, 1⟩, worker := ⟨7, 7⟩, boot := ⟨9, 9⟩ }

theorem frame_codec_exact_goodbye :
    ∃ bytes, encodeFrame sampleGoodbye = .ok bytes ∧ decodeFrame bytes = .ok sampleGoodbye ∧
      receiveFrames (bytes ++ bytes) = ([sampleGoodbye, sampleGoodbye], .closed) := by
  have encoded : encodeFrame sampleGoodbye = .ok (frameBytes sampleGoodbye) :=
    (encodeFrame_eq_ok _ _).mpr ⟨⟨by decide, by decide, by decide, by decide⟩, rfl⟩
  obtain ⟨decodes, -, streams⟩ := frame_codec_exact
  refine ⟨_, encoded, decodes sampleGoodbye _ rfl encoded, ?_⟩
  have taken := streams [sampleGoodbye, sampleGoodbye] [frameBytes sampleGoodbye,
    frameBytes sampleGoodbye] (by decide) (by simp [encoded, bind, Except.bind, pure, Except.pure])
  simpa using taken

end Protocol

end ArtifactPromotion
