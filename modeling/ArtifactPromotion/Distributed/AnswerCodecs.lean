import ArtifactPromotion.Distributed.PayloadCodecs

/-! What the decoders make of the other payloads: refusals, handshakes, requests about one artifact,
trust requests, and the answers to them. -/

namespace ArtifactPromotion

open Decoding

namespace Protocol

open Reader (view kLengthBound)
open Reader Codec

theorem readProtocolCode_yields (code : ErrorCode) (message : String) :
    Yields view (readProtocolCode message) (writeErrorCode code) code := by
  unfold readProtocolCode writeErrorCode
  refine yields_last (u16_yields _) ?_
  cases code <;> exact yields_pure _

attribute [local irreducible] Writer.u8 Writer.u16 Writer.u32 Writer.u64 Writer.boolean Writer.text
  Writer.identity Writer.counter Writer.digest Writer.list Reader.u8 Reader.u16 Reader.u32
  Reader.u64 Reader.boolean Reader.text Reader.identity Reader.counter Reader.digest
  Codec.readEnum Codec.readList readProtocolCode writeErrorCode readArtifact writeArtifact
  readPromotionRecord writePromotionRecord

theorem decode_encodeStatus (code : ErrorCode) {message : Text}
    (fits : message.length ≤ kMaxTextLength) :
    decodeStatus (encodeStatus code message) = .ok (.of code message) := by
  refine decodeWhole_of_yields ?_
  unfold readStatus encodeStatus
  exact yields_bind (readProtocolCode_yields _ _)
    (yields_last (text_whole fits (by decide)) (yields_pure _))

theorem decode_encodeHello {payload : HelloPayload}
    (current : payload.protocolVersion = kProtocolVersion) :
    decodeHello (encodeHello payload) = .ok payload := by
  refine decodeWhole_of_yields ?_
  unfold readHello encodeHello
  simp only [List.append_assoc]
  refine yields_bind (u16_yields _) ?_
  rw [if_neg (not_not.mpr current)]
  refine yields_bind (identity_yields _) (yields_bind (counter_yields _) ?_)
  refine yields_bind (u64_yields _) (yields_bind (u64_yields _) ?_)
  exact yields_bind (digest_yields _) (yields_last (counter_yields _) (yields_pure _))

theorem decode_encodePromotionRequest {payload : PromotionPayload}
    (known : payload.requestedStage.toByte.toNat ≤ kStageMax) :
    decodePromotionRequest (encodePromotionRequest payload) = .ok payload := by
  refine decodeWhole_of_yields ?_
  unfold readPromotionRequest encodePromotionRequest
  simp only [List.append_assoc]
  refine yields_bind (identity_yields _) (yields_bind (identity_yields _) ?_)
  refine yields_bind (digest_yields _) ?_
  refine yields_bind (readEnum_yields payload.requestedStage.ofByte_toByte (by simpa using known)) ?_
  exact yields_bind (boolean_yields _) (yields_last (digest_yields _) (yields_pure _))

theorem decode_encodeTrust {payload : TrustPayload}
    (reasonClass : payload.reasonClass.length ≤ kMaxNameLength)
    (detail : payload.detail.length ≤ kMaxTextLength) :
    decodeTrust (encodeTrust payload) = .ok payload := by
  refine decodeWhole_of_yields ?_
  unfold readTrust encodeTrust
  simp only [List.append_assoc]
  refine yields_bind (identity_yields _) (yields_bind (identity_yields _) ?_)
  refine yields_bind (identity_yields _) (yields_bind (identity_yields _) ?_)
  exact yields_bind (text_whole reasonClass (by decide))
    (yields_last (text_whole detail (by decide)) (yields_pure _))

def arrivedReason (reason : Reason) : Reason :=
  { reason with subject := reason.subject.take kMaxReferenceLength }

theorem readResultReason_yields (reason : Reason) :
    Yields view readResultReason (writeResultReason reason) (arrivedReason reason) := by
  have bounded := reason.text.bounded
  have same : Reason.of reason.code reason.text.view (reason.subject.take kMaxReferenceLength) =
      arrivedReason reason := by
    rw [Reason.of, StaticString.view, StaticString.ofView_bytes, arrivedReason]
  unfold readResultReason writeResultReason
  simp only [List.append_assoc]
  refine yields_bind (readProtocolCode_yields _ _) ?_
  refine yields_bind (text_whole (Nat.le_trans bounded (by decide)) (by decide)) ?_
  refine yields_last (text_yields _ (by decide)) ?_
  rw [same]
  exact yields_pure _

theorem writeErrorCode_length (code : ErrorCode) : (writeErrorCode code).length = 2 := by
  unfold writeErrorCode
  exact Writer.u16_length _

theorem writeResultReason_length (reason : Reason) : (writeResultReason reason).length ≤ 778 := by
  have message := Writer.text_length_le reason.text.view kMaxTextLength
  have subject := Writer.text_length_le reason.subject kMaxReferenceLength
  simp only [writeResultReason, List.length_append, writeErrorCode_length]
  simp only [kMaxTextLength, kMaxReferenceLength] at *
  omega

theorem reasonList_yields {reasons : List Reason} (fits : reasons.length ≤ 32)
    (subjects : ∀ reason ∈ reasons, reason.subject.length ≤ kMaxReferenceLength) :
    Yields view (readList 32 readResultReason) (Writer.list reasons writeResultReason) reasons := by
  have nonempty (reason : Reason) : writeResultReason reason ≠ [] := by
    have code := writeErrorCode_length reason.code
    intro empty
    simp only [writeResultReason, List.append_eq_nil_iff] at empty
    simp [empty.1.1] at code
  refine readList_yields nonempty readResultReason_yields writeResultReason_length fits
    (by decide) fun reason inside => ?_
  rw [arrivedReason, List.take_of_length_le (subjects reason inside)]

/-- What the client's decoder asks of the result of an operation on an artifact. -/
structure ArtifactResultPayload.Readable (payload : ArtifactResultPayload) : Prop where
  outcome : isValidPromotionOutcome payload.outcome.toByte.toNat = true
  artifact : payload.hasArtifact = true → payload.artifact.Readable ∧ payload.artifact.Unabridged
  absent : payload.hasArtifact = false → payload.artifact = {}
  reasons : payload.reasons.length ≤ 32
  subjects : ∀ reason ∈ payload.reasons, reason.subject.length ≤ kMaxReferenceLength

theorem readArtifactResult_eq : readArtifactResult =
    (readEnum isValidPromotionOutcome PromotionOutcome.ofByte .invalidEnum
        "artifact result carries an unknown outcome" >>= fun outcome =>
      boolean >>= fun hasArtifact => (if hasArtifact then readArtifact else pure {}) >>= fun artifact =>
      readList 32 readResultReason >>= fun reasons =>
      pure { outcome, hasArtifact, artifact, reasons }) := by
  unfold readArtifactResult
  refine bind_congr fun outcome => bind_congr fun hasArtifact => ?_
  cases hasArtifact <;> rfl

theorem decode_encodeArtifactResult {payload : ArtifactResultPayload}
    (readable : payload.Readable) :
    decodeArtifactResult (encodeArtifactResult payload) = .ok payload := by
  have artifact : Yields view (if payload.hasArtifact then readArtifact else pure {})
      (if payload.hasArtifact then writeArtifact payload.artifact else []) payload.artifact := by
    cases held : payload.hasArtifact with
    | true => exact readArtifact_yields (readable.artifact held).1 (readable.artifact held).2
    | false =>
        rw [readable.absent held]
        exact yields_pure _
  refine decodeWhole_of_yields ?_
  rw [readArtifactResult_eq]
  unfold encodeArtifactResult
  simp only [List.append_assoc]
  refine yields_bind (readEnum_yields payload.outcome.ofByte_toByte readable.outcome) ?_
  refine yields_bind (boolean_yields _) (yields_bind artifact ?_)
  exact yields_last (reasonList_yields readable.reasons readable.subjects) (yields_pure _)

theorem decode_encodeArtifactState {payload : ArtifactStatePayload}
    (readable : payload.record.Readable) (whole : payload.record.Unabridged) :
    decodeArtifactState (encodeArtifactState payload) = .ok payload := by
  refine decodeWhole_of_yields ?_
  unfold readArtifactState encodeArtifactState
  simp only [List.append_assoc]
  refine yields_bind (identity_yields _) (yields_bind (readArtifact_yields readable whole) ?_)
  refine yields_bind (u32_yields _) (yields_bind (u32_yields _) ?_)
  exact yields_last (boolean_yields _) (yields_pure _)

/-- What the decoder asks of a history: records it knows, none of them cut, and no more bytes than a
length can name. -/
structure HistoryPayload.Readable (payload : HistoryPayload) : Prop where
  records : ∀ record ∈ payload.records, record.Readable
  notes : ∀ record ∈ payload.records, record.note.length ≤ kMaxTextLength
  small : (Writer.list payload.records writePromotionRecord).length < kLengthBound

theorem decode_encodeHistory {payload : HistoryPayload} {bytes : ByteBuffer}
    (readable : payload.Readable) (encoded : encodeHistory payload = .ok bytes) :
    decodeHistory bytes = .ok payload := by
  simp only [encodeHistory, bind_eq_ok, rejectWhen_eq_ok, decide_eq_false_iff_not] at encoded
  obtain ⟨_, few, made⟩ := encoded
  cases made
  have nonempty (record : PromotionRecord) : writePromotionRecord record ≠ [] := by
    delta writePromotionRecord
    simp [Writer.identity, Writer.u64, storeU64]
  have same : payload.records.map PromotionRecord.restored = payload.records :=
    map_eq_self_iff.mpr fun record inside =>
      (PromotionRecord.restored_eq_iff record).mpr (readable.notes record inside)
  have list := (readList_reads nonempty readPromotionRecord_reads).yields readable.small
    ⟨Nat.le_of_not_lt few, readable.records⟩
  rw [same] at list
  refine decodeWhole_of_yields ?_
  unfold readHistory
  exact yields_bind (identity_yields _) (yields_last list (yields_pure _))

end Protocol

end ArtifactPromotion
