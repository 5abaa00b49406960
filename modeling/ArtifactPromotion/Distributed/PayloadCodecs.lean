import ArtifactPromotion.Distributed.Payloads
import ArtifactPromotion.Persist.RecordCodecs

/-! What the decoders of the protocol's payloads make of the encoded ones. -/

namespace ArtifactPromotion

open Decoding

namespace Protocol

open Reader (view kLengthBound)
open Reader

theorem readEnum_yields {α : Type} {known : Nat → Bool} {ofByte : UInt8 → α} {code : ErrorCode}
    {message : String} {raw : UInt8} {value : α} (restores : ofByte raw = value)
    (isKnown : known raw.toNat = true) :
    Yields view (Codec.readEnum known ofByte code message) (Writer.u8 raw) value := by
  have reads : Reads view 2 _ _ _ _ :=
    @Codec.readEnum_reads _ known _ code message _ _ 2 restores
  exact reads.yields Nat.one_lt_two isKnown

theorem readList_yields {α : Type} {read : Decode α} {write : α → ByteBuffer} {restored : α → α}
    {limit width : Nat} {values : List α} (nonempty : ∀ value, write value ≠ [])
    (each : ∀ value, Yields view read (write value) (restored value))
    (written : ∀ value, (write value).length ≤ width) (fits : values.length ≤ limit)
    (small : 4 + limit * width < kLengthBound)
    (whole : ∀ value ∈ values, restored value = value) :
    Yields view (Codec.readList limit read) (Writer.list values write) values := by
  have encoded := @Writer.list_length_le _ values _ _ written
  have bounded : values.length * width ≤ limit * width := Nat.mul_le_mul_right width fits
  have read := (Codec.readList_reads nonempty fun value => .of_yields (each value)).yields
    (by omega) (show values.length ≤ limit ∧ ∀ value ∈ values, True from ⟨fits, by simp⟩)
  rwa [map_eq_self_iff.mpr whole] at read

theorem provenanceList_yields {references : List ProvenanceRef}
    (fits : references.length ≤ kMaxProvenanceList) :
    Yields view (Codec.readList kMaxProvenanceList Reader.identity)
      (Writer.list references Writer.identity) references :=
  @readList_yields _ _ _ id _ _ _ (fun reference => List.ne_nil_of_length_pos
      (by rw [Writer.identity_length]; decide)) identity_yields
    (fun reference => (Writer.identity_length reference).le) fits (by decide) fun _ _ => rfl

theorem dependencyList_yields {names : List Text} (fits : names.length ≤ kMaxDependencyList)
    (whole : ∀ name ∈ names, name.length ≤ kMaxNameLength) :
    Yields view (Codec.readList kMaxDependencyList (Reader.text kMaxNameLength))
      (Writer.list names fun name => Writer.text name kMaxNameLength) names :=
  readList_yields (fun name => by simp [Writer.text, Writer.u32, storeU32])
    (fun name => text_yields name (by decide)) (fun name => Writer.text_length_le name _) fits
    (by decide) fun name inside => List.take_of_length_le (whole name inside)

-- As in the record codecs, the steps are composed and not unfolded.
attribute [local irreducible] Writer.u8 Writer.u16 Writer.u32 Writer.u64 Writer.boolean Writer.text
  Writer.identity Writer.counter Writer.digest Writer.list Reader.u8 Reader.u16 Reader.u32
  Reader.u64 Reader.boolean Reader.text Reader.identity Reader.counter Reader.digest
  Codec.readEnum Codec.readList

theorem decodeWhole_of_yields {α : Type} {read : Decode α} {bytes : ByteBuffer} {value : α}
    (yields : Yields view read bytes value) : decodeWhole read bytes = .ok value := by
  have sound : view.sound { data := bytes } := Nat.zero_le _
  have unread : view.unread { data := bytes } = bytes ++ [] := (List.append_nil _).symm
  obtain ⟨next, answer, nextSound, nextUnread⟩ := yields _ _ sound unread
  have finished := StatePersistence.finished_of_unread nextSound nextUnread
  rw [decodeWhole, answer]
  change (next.requireFinished >>= fun _ => pure value) = _
  rw [Reader.requireFinished, finished]
  rfl

theorem decodeWhole_answers {α : Type} {read : Decode α} {bytes : ByteBuffer} {value : α}
    (decoded : decodeWhole read bytes = .ok value) :
    ∃ next, read { data := bytes } = .ok (value, next) := by
  simp only [decodeWhole, bind_eq_ok] at decoded
  obtain ⟨⟨found, next⟩, answered, _, _, returned⟩ := decoded
  cases returned
  exact ⟨next, answered⟩

theorem decodeWhole_eq_ok {α : Type} {read : Decode α} {bytes : ByteBuffer} {acceptable : Prop}
    {value result : α} (reads : Reads view kLengthBound read bytes acceptable value)
    (small : bytes.length < kLengthBound) :
    decodeWhole read bytes = .ok result ↔ acceptable ∧ result = value := by
  by_cases accepted : acceptable
  · rw [decodeWhole_of_yields (reads.yields small accepted)]
    simp [accepted, eq_comm]
  · have sound : view.sound { data := bytes } := Nat.zero_le _
    obtain ⟨failure, answer⟩ :=
      reads.refuses small accepted _ _ sound (List.append_nil bytes).symm
    rw [decodeWhole, answer]
    simp only [accepted, false_and, iff_false]
    intro same
    cases same

/-- What a payload's decoder asks of a submission: known classes, a confidence in its range, and
texts that were not cut. -/
structure EvidencePayload.Readable (payload : EvidencePayload) : Prop where
  type : isValidEvidenceType payload.type.toByte.toNat = true
  result : isValidEvidenceResult payload.result.toByte.toNat = true
  confidence : payload.confidenceMilli ≤ 1000
  customType : payload.customType.length ≤ kMaxNameLength
  measurement : payload.measurement.length ≤ kMaxTextLength
  detail : payload.detail.length ≤ kMaxTextLength
  environment : payload.environment.length ≤ kMaxTextLength

theorem text_whole {value : Text} {limit : Nat} (fits : value.length ≤ limit)
    (small : limit < 2 ^ 32) : Yields view (Reader.text limit) (Writer.text value limit) value :=
  text_yields_whole fits fits (by omega)

theorem readEvidenceSubmission_yields {payload : EvidencePayload} (readable : payload.Readable) :
    Yields view readEvidenceSubmission (encodeEvidenceSubmission payload) payload := by
  unfold readEvidenceSubmission encodeEvidenceSubmission
  refine yields_bind (readEnum_yields payload.type.ofByte_toByte readable.type) ?_
  refine yields_bind (text_whole readable.customType (by decide)) ?_
  refine yields_bind (identity_yields _) (yields_bind (digest_yields _) ?_)
  refine yields_bind (identity_yields _) ?_
  refine yields_bind (readEnum_yields payload.result.ofByte_toByte readable.result) ?_
  refine yields_bind (u32_yields _) ?_
  rw [if_neg (UInt32.not_lt.mpr readable.confidence)]
  refine yields_bind (text_whole readable.measurement (by decide)) ?_
  refine yields_bind (text_whole readable.detail (by decide)) ?_
  refine yields_bind (digest_yields _) (yields_bind (identity_yields _) ?_)
  refine yields_bind (u64_yields _) (yields_bind (boolean_yields _) ?_)
  refine yields_bind (u64_yields _) (yields_bind (u64_yields _) ?_)
  exact yields_last (text_whole readable.environment (by decide)) (yields_pure _)

theorem decode_encodeEvidenceSubmission {payload : EvidencePayload}
    (readable : payload.Readable) :
    decodeEvidenceSubmission (encodeEvidenceSubmission payload) = .ok payload :=
  decodeWhole_of_yields (readEvidenceSubmission_yields readable)

structure RegisterArtifactPayload.Readable (payload : RegisterArtifactPayload) : Prop where
  kind : isValidArtifactKind payload.kind.toByte.toNat = true
  name : payload.name.length ≤ kMaxNameLength
  provenanceFits : payload.provenance.length ≤ kMaxProvenanceList
  dependenciesFit : payload.dependencies.length ≤ kMaxDependencyList
  dependencies : ∀ name ∈ payload.dependencies, name.length ≤ kMaxNameLength

theorem readRegisterArtifact_yields {payload : RegisterArtifactPayload}
    (readable : payload.Readable) :
    Yields view readRegisterArtifact (writeRegisterArtifact payload) payload := by
  unfold readRegisterArtifact writeRegisterArtifact
  refine yields_bind (identity_yields _) ?_
  refine yields_bind (readEnum_yields payload.kind.ofByte_toByte readable.kind) ?_
  refine yields_bind (digest_yields _) (yields_bind (u64_yields _) ?_)
  refine yields_bind (text_whole readable.name (by decide)) ?_
  refine yields_bind (provenanceList_yields readable.provenanceFits) ?_
  exact yields_last (dependencyList_yields readable.dependenciesFit readable.dependencies)
    (yields_pure _)

theorem decode_encodeRegisterArtifact {payload : RegisterArtifactPayload}
    (readable : payload.Readable) :
    decodeRegisterArtifact (writeRegisterArtifact payload) = .ok payload :=
  decodeWhole_of_yields (readRegisterArtifact_yields readable)

end Protocol

end ArtifactPromotion
