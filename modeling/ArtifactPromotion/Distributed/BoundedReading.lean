import ArtifactPromotion.Distributed.Frames
import ArtifactPromotion.Distributed.Payloads
import ArtifactPromotion.Persist.SnapshotPrograms

/-! Bounded reading: no sequence of calls takes a reader out of its region, and the decoders of
frames, payloads and snapshots end on every input without an access outside it. -/

namespace ArtifactPromotion

namespace Protocol

open StatePersistence (rejectDecode reject answer_reject fits_reject)

def frameProgram (size : Nat) : Program Frame :=
  if size < kFrameHeaderSize + kFrameFooterSize then
    .fail (.of .protocolTruncated (text "frame is shorter than the minimum frame size"))
  else do
    let magic ← .ask .u32
    reject (magic != kFrameMagic) .protocolMalformed "frame does not begin with the expected magic"
    let version ← .ask .u16
    if version ≠ kProtocolVersion then
      .fail (.of .protocolError (text "frame protocol version " ++
        text (toString version.toNat) ++ text " is not supported"))
    else
      let raw ← .ask .u16
      match MessageType.ofValue raw with
      | none => .fail (.of .protocolMalformed (text "frame carries an unknown message type"))
      | some type =>
          let flags ← .ask .u32
          reject (flags &&& ~~~kFlagNonIdempotent != 0) .protocolMalformed
            "frame carries unknown flag bits"
          let length ← .ask .u32
          reject (length.toNat > kMaxFrameBytes) .protocolOversized
            "declared frame payload exceeds the configured bound"
          reject (kFrameHeaderSize + length.toNat + kFrameFooterSize != size) .protocolMalformed
            "declared frame length does not match the received byte count"
          let request ← .ask (.identity _)
          let correlation ← .ask (.identity _)
          reject (request.invalid && correlation.invalid) .protocolMalformed
            "frame carries neither a request nor a correlation identity"
          let coordinator ← .ask (.identity _)
          let epoch ← .ask (.counter _)
          let worker ← .ask (.identity _)
          let boot ← .ask (.identity _)
          let stored ← .look (size - kFrameFooterSize) kFrameFooterSize
          let content ← .look 0 (size - kFrameFooterSize)
          reject (Digest.fromRaw stored != sha256 content) .protocolMalformed
            "frame footer digest does not match the frame content"
          let payload ← .ask (.raw length.toNat)
          reject (kFrameHeaderSize + length.toNat > size ||
              size - (kFrameHeaderSize + length.toNat) != kFrameFooterSize)
            .protocolMalformed "frame contains trailing bytes after its declared content"
          return { version, type, flags, request, correlation, coordinator, epoch, worker, boot,
                   payload }

def Agrees {α : Type} (buffer : ByteBuffer) (program : Program α) (decode : Decode α) : Prop :=
  ∀ reader : Reader, reader.data = buffer →
    program.answer reader = (decode reader).map Prod.fst

section

variable {α β : Type} {buffer : ByteBuffer}

theorem agrees_ask (op : ReaderOp β) {next : β → Program α} {decode : β → Decode α}
    (continued : ∀ value, Agrees buffer (next value) (decode value)) :
    Agrees buffer (.ask op >>= next) (op.model >>= decode) := by
  intro reader here
  rw [Program.answer_ask]
  change _ = (op.model reader >>= fun reply => decode reply.1 reply.2).map Prod.fst
  cases read : op.model reader with
  | error status => rfl
  | ok reply =>
      obtain ⟨value, rest⟩ := reply
      apply continued value rest
      rw [op.advances _ _ _ read]
      exact here

theorem agrees_look {position size : Nat} {next : ByteBuffer → Program α} {decode : Decode α}
    (continued : Agrees buffer (next ((buffer.drop position).take size)) decode) :
    Agrees buffer (.look position size >>= next) decode := by
  intro reader here
  rw [Program.answer_look, here]
  exact continued reader here

theorem agrees_reject {bad : Bool} {code : ErrorCode} {message : String}
    {next : Unit → Program α} {decode : Unit → Decode α}
    (continued : ∀ done, Agrees buffer (next done) (decode done)) :
    Agrees buffer (reject bad code message >>= next)
      (rejectDecode bad code message >>= decode) := by
  intro reader here
  rw [answer_reject]
  cases bad with
  | false => exact continued () reader here
  | true => rfl

end

theorem frameProgram_agrees {buffer : ByteBuffer}
    (long : ¬buffer.length < kFrameHeaderSize + kFrameFooterSize) :
    Agrees buffer (frameProgram buffer.length) (readFrame buffer) := by
  have footer : (buffer.drop (buffer.length - kFrameFooterSize)).take kFrameFooterSize =
      buffer.drop (buffer.length - kFrameFooterSize) := by
    apply List.take_of_length_le
    rw [List.length_drop]
    omega
  rw [frameProgram, if_neg long, readFrame]
  refine agrees_ask .u32 fun magic => agrees_reject fun _ => ?_
  refine agrees_ask .u16 fun version => ?_
  by_cases spoken : version ≠ kProtocolVersion
  · rw [if_pos spoken, if_pos spoken]
    exact fun reader _ => rfl
  · rw [if_neg spoken, if_neg spoken]
    refine agrees_ask .u16 fun raw => ?_
    cases MessageType.ofValue raw with
    | none => exact fun reader _ => rfl
    | some type =>
        refine agrees_ask .u32 fun flags => agrees_reject fun _ => ?_
        refine agrees_ask .u32 fun length => agrees_reject fun _ => agrees_reject fun _ => ?_
        refine agrees_ask (.identity _) fun request => agrees_ask (.identity _) fun correlation => ?_
        refine agrees_reject fun _ => ?_
        refine agrees_ask (.identity _) fun coordinator => agrees_ask (.counter _) fun epoch => ?_
        refine agrees_ask (.identity _) fun worker => agrees_ask (.identity _) fun boot => ?_
        refine agrees_look (agrees_look ?_)
        rw [footer, List.drop_zero]
        refine agrees_reject fun _ => agrees_ask (.raw _) fun payload => ?_
        exact agrees_reject fun _ reader _ => rfl

theorem frameProgram_answer (buffer : ByteBuffer) :
    (frameProgram buffer.length).answer { data := buffer } = decodeFrame buffer := by
  rw [decodeFrame]
  by_cases short : buffer.length < kFrameHeaderSize + kFrameFooterSize
  · rw [if_pos short, frameProgram, if_pos short]
    rfl
  · rw [if_neg short]
    exact frameProgram_agrees short _ rfl

open Program in
theorem frameProgram_fits (size : Nat) : (frameProgram size).Fits size := by
  rw [frameProgram]
  by_cases short : size < kFrameHeaderSize + kFrameFooterSize
  · rw [if_pos short]
    trivial
  · rw [if_neg short]
    refine fits_ask fun magic => fits_reject fun _ => fits_ask fun version => ?_
    by_cases spoken : version ≠ kProtocolVersion
    · rw [if_pos spoken]
      trivial
    · rw [if_neg spoken]
      refine fits_ask fun raw => ?_
      cases MessageType.ofValue raw with
      | none => trivial
      | some type =>
          refine fits_ask fun flags => fits_reject fun _ => ?_
          refine fits_ask fun length => fits_reject fun _ => fits_reject fun _ => ?_
          refine fits_ask fun request => fits_ask fun correlation => fits_reject fun _ => ?_
          refine fits_ask fun coordinator => fits_ask fun epoch => ?_
          refine fits_ask fun worker => fits_ask fun boot => ?_
          refine fits_look (by omega) fun stored => fits_look (by omega) fun content => ?_
          refine fits_reject fun _ => fits_ask fun payload => ?_
          exact fits_reject fun _ => trivial

theorem decodeFrame_runs : Program.RunsInBounds frameProgram decodeFrame :=
  Program.runsInBounds frameProgram_fits frameProgram_answer

def wholeProgram {α : Type} (read : Decode α) [Programmed read] : Program α := do
  let value ← Programmed.program read
  .ask .requireFinished
  return value

theorem decodeWhole_runs {α : Type} (read : Decode α) [Programmed read] :
    Program.RunsInBounds (fun _ => wholeProgram read) (decodeWhole read) := by
  refine Program.runsInBounds (fun size => ?_) fun buffer => ?_
  · refine Program.fits_bind (Programmed.fits_any read size) fun value => ?_
    exact Program.fits_ask fun _ => trivial
  · rw [wholeProgram, Program.answer_bind, Programmed.model_eq, decodeWhole]
    refine bind_congr ?_
    rintro ⟨value, rest⟩
    exact Program.answer_requireFinished _ rest

instance : Programmed readHello := by delta readHello; infer_instance

instance : Programmed readRegisterArtifact := by delta readRegisterArtifact; infer_instance

instance {message : String} : Programmed (readProtocolCode message) := by
  delta readProtocolCode
  infer_instance

instance : Programmed readResultReason := by delta readResultReason; infer_instance

instance : Programmed readArtifactResult := by delta readArtifactResult; infer_instance

instance : Programmed readEvidenceSubmission := by delta readEvidenceSubmission; infer_instance

instance : Programmed readPromotionRequest := by delta readPromotionRequest; infer_instance

instance : Programmed readPromotionResult := by delta readPromotionResult; infer_instance

instance : Programmed readArtifactState := by delta readArtifactState; infer_instance

instance : Programmed readHistory := by delta readHistory; infer_instance

instance : Programmed readTrust := by delta readTrust; infer_instance

instance : Programmed readStatus := by delta readStatus; infer_instance

end Protocol

open Protocol Program in
/-- No sequence of operations, on any readers over one allocation and whatever fails on the way,
moves a cursor out of its region or touches a byte outside it. So the decoders, which reach their
input through readers and through pointers they have checked, end on every buffer. -/
theorem bounded_reading :
    (∀ buffer : ByteBuffer, buffer.length < 2 ^ 64 → (RawReader.ofBuffer buffer).Sound buffer ∧
      (RawReader.ofBuffer buffer).toReader buffer = { data := buffer }) ∧
    (∀ (memory : ByteBuffer) (readers : List RawReader) (calls : List (Nat × ReaderCall)),
      (∀ raw ∈ readers, raw.Sound memory) →
      ∃ events final, ReaderCall.runCalls memory readers calls = some (events, final) ∧
        (∀ event ∈ events, event.Bounded memory) ∧ (∀ raw ∈ final, raw.Sound memory) ∧
        ∀ (place : Nat) (raw : RawReader), readers[place]? = some raw →
          ∃ after, final[place]? = some after ∧ raw.Follows after) ∧
    RunsInBounds frameProgram decodeFrame ∧
    RunsInBounds (fun _ => wholeProgram readHello) decodeHello ∧
    RunsInBounds (fun _ => wholeProgram readRegisterArtifact) decodeRegisterArtifact ∧
    RunsInBounds (fun _ => wholeProgram readArtifactResult) decodeArtifactResult ∧
    RunsInBounds (fun _ => wholeProgram readEvidenceSubmission) decodeEvidenceSubmission ∧
    RunsInBounds (fun _ => wholeProgram Codec.readEvidence) decodeEvidenceRecord ∧
    RunsInBounds (fun _ => wholeProgram readPromotionRequest) decodePromotionRequest ∧
    RunsInBounds (fun _ => wholeProgram readPromotionResult) decodePromotionResult ∧
    RunsInBounds (fun _ => wholeProgram readArtifactState) decodeArtifactState ∧
    RunsInBounds (fun _ => wholeProgram readHistory) decodeHistory ∧
    RunsInBounds (fun _ => wholeProgram readTrust) decodeTrust ∧
    RunsInBounds (fun _ => wholeProgram readStatus) decodeStatus ∧
    RunsInBounds StatePersistence.fileProgram StatePersistence.decode := by
  refine ⟨?_, ?_, decodeFrame_runs, decodeWhole_runs _, decodeWhole_runs _, decodeWhole_runs _,
    decodeWhole_runs _, decodeWhole_runs _, decodeWhole_runs _, decodeWhole_runs _,
    decodeWhole_runs _, decodeWhole_runs _, decodeWhole_runs _, decodeWhole_runs _,
    StatePersistence.decode_runs⟩
  · exact fun buffer small => ⟨RawReader.ofBuffer_sound buffer, RawReader.ofBuffer_toReader small⟩
  · exact ReaderCall.runCalls_bounded

/-- A section of three bytes, of which four are wanted, and two bytes behind it. -/
def sectionBuffer : ByteBuffer := [3, 0, 0, 0, 10, 11, 12, 13, 14]

/-- The section is entered, read past its end, and then the outer reader goes on. -/
def sectionCalls : List (Nat × ReaderCall) :=
  [(0, .enter 8), (1, .operate .u16), (1, .operate .u32), (0, .operate .u8), (0, .operate .u16)]

open Protocol in
theorem bounded_reading_sections :
    (∃ events final, ReaderCall.runCalls sectionBuffer [.ofBuffer sectionBuffer] sectionCalls =
        some (events, final) ∧ events.length = 5 ∧
      (∀ event ∈ events, event.Bounded sectionBuffer) ∧ ∀ raw ∈ final, raw.Sound sectionBuffer) ∧
    ∃ after, (frameProgram (frameBytes sampleGoodbye).length).exec (frameBytes sampleGoodbye)
        (.ofBuffer (frameBytes sampleGoodbye)) =
          some (decodeFrame (frameBytes sampleGoodbye), after) ∧
      after.Sound (frameBytes sampleGoodbye) := by
  obtain ⟨buffers, runs, frames, _⟩ := bounded_reading
  have whole := (buffers sectionBuffer (by decide)).1
  obtain ⟨events, final, ran, bounded, sound, _⟩ :=
    runs sectionBuffer [.ofBuffer sectionBuffer] sectionCalls (List.forall_mem_singleton.mpr whole)
  have counted : (ReaderCall.runCalls sectionBuffer [.ofBuffer sectionBuffer] sectionCalls).any
      (·.1.length == 5) = true := by
    decide +kernel
  rw [ran, Option.any_some, beq_iff_eq] at counted
  have size : (frameBytes sampleGoodbye).length = 136 := frameBytes_length sampleGoodbye
  exact ⟨⟨events, final, ran, counted, bounded, sound⟩,
    frames (frameBytes sampleGoodbye) (by rw [size]; decide)⟩

end ArtifactPromotion
