import ArtifactPromotion.Engine.Restarts

/-! The record codecs lose nothing: a readable record whose texts fit comes back from its bytes,
whatever follows them. -/

namespace ArtifactPromotion

open Decoding

namespace Writer

theorem u8_length (value : UInt8) : (u8 value).length = 1 := rfl

theorem u16_length (value : UInt16) : (u16 value).length = 2 := rfl

theorem u32_length (value : UInt32) : (u32 value).length = 4 := rfl

theorem u64_length (value : UInt64) : (u64 value).length = 8 := rfl

theorem boolean_length (value : Bool) : (boolean value).length = 1 := rfl

theorem identity_length {tag : IdentityTag} (value : Identity tag) :
    (identity value).length = 16 := rfl

theorem counter_length {tag : CounterTag} (value : Counter tag) : (counter value).length = 8 := rfl

theorem digest_length (value : Digest) : (digest value).length = 32 := value.sized

theorem text_length_le (value : Text) (limit : Nat) : (text value limit).length ≤ 4 + limit := by
  unfold text
  dsimp only
  rw [List.length_append, u32_length, List.length_take]
  split <;> omega

theorem flatMap_length_le {α : Type} {values : List α} {write : α → ByteBuffer} {width : Nat}
    (each : ∀ value ∈ values, (write value).length ≤ width) :
    (values.flatMap write).length ≤ values.length * width := by
  induction values with
  | nil => simp
  | cons first rest ih =>
      have written := each first List.mem_cons_self
      have others := ih fun value inside => each value (List.mem_cons_of_mem _ inside)
      rw [List.flatMap_cons, List.length_append, List.length_cons, Nat.succ_mul]
      omega

theorem list_length_le {α : Type} {values : List α} {write : α → ByteBuffer} {width : Nat}
    (each : ∀ value, (write value).length ≤ width) :
    (list values write).length ≤ 4 + values.length * width := by
  have bodies := flatMap_length_le fun value (_ : value ∈ values) => each value
  rw [list, List.length_append, u32_length]
  omega

end Writer

namespace Codec

open Reader (view kLengthBound)
open Writer

theorem writeProducer_length (value : ProducerIncarnation) : (writeProducer value).length = 32 :=
  rfl

theorem writeAuthority_length (value : CoordinatorAuthority) : (writeAuthority value).length = 24 :=
  rfl

theorem writeErrorCode_length (code : ErrorCode) : (writeErrorCode code).length = 2 := rfl

theorem writeProvenance_length (value : ProvenanceRecord) :
    (writeProvenance value kMaxReferenceLength).length ≤ 537 := by
  have source := text_length_le value.source kMaxReferenceLength
  have subject := text_length_le value.subject kMaxReferenceLength
  simp only [writeProvenance, List.length_append, identity_length, u8_length]
  simp only [kMaxReferenceLength] at *
  omega

theorem writeArtifact_length {value : ArtifactRecord}
    (provenanceFits : value.provenance.length ≤ kMaxProvenance)
    (dependenciesFit : value.dependencies.length ≤ kMaxDependencies) :
    (writeArtifact value).length < kLengthBound := by
  have provenance := @list_length_le _ value.provenance _ _ writeProvenance_length
  have dependencies := @list_length_le _ value.dependencies _ _
    fun name => text_length_le name kMaxNameLength
  have name := text_length_le value.name kMaxNameLength
  have quarantineClass := text_length_le value.quarantine.reasonClass kMaxNameLength
  have quarantineDetail := text_length_le value.quarantine.detail kMaxTextLength
  have revocationClass := text_length_le value.revocation.reasonClass kMaxNameLength
  have revocationDetail := text_length_le value.revocation.detail kMaxTextLength
  have reason := text_length_le value.supersession.reason kMaxTextLength
  unfold writeArtifact writeQuarantine writeRevocation writeSupersession
  simp only [List.length_append, identity_length, counter_length, u8_length, u64_length,
    digest_length, boolean_length, writeProducer_length]
  simp only [kMaxNameLength, kMaxTextLength, kMaxProvenance, kMaxDependencies, kLengthBound] at *
  omega

theorem writeEvidence_length (value : EvidenceRecord) :
    (writeEvidence value).length < kLengthBound := by
  have customType := text_length_le value.customType kMaxNameLength
  have measurement := text_length_le value.measurement kMaxTextLength
  have detail := text_length_le value.detail kMaxTextLength
  have environment := text_length_le value.environment kMaxTextLength
  have reason := text_length_le value.revocationReason kMaxTextLength
  unfold writeEvidence
  simp only [List.length_append, identity_length, counter_length, u8_length, u32_length,
    u64_length, digest_length, boolean_length, writeProducer_length]
  simp only [kMaxNameLength, kMaxTextLength, kLengthBound] at *
  omega

theorem writePlan_length (value : PromotionPlan) : (writePlan value).length < kLengthBound := by
  unfold writePlan
  simp only [List.length_append, identity_length, counter_length, u8_length, u32_length,
    u64_length, digest_length, boolean_length, writeAuthority_length]
  decide

theorem writeGateExplanation_length (gate : GateExplanation) :
    (writeGateExplanation gate).length ≤ 652 := by
  have label := text_length_le gate.label kMaxNameLength
  have detail := text_length_le gate.detail kMaxTextLength
  simp only [writeGateExplanation, List.length_append, u8_length, writeErrorCode_length]
  simp only [kMaxNameLength, kMaxTextLength] at *
  omega

theorem writeFinding_length (finding : EvidenceFinding) :
    (writeFinding finding).length ≤ 724 := by
  have customType := text_length_le finding.customType kMaxNameLength
  have detail := text_length_le finding.detail kMaxTextLength
  simp only [writeFinding, List.length_append, identity_length, counter_length, u8_length,
    digest_length, writeErrorCode_length]
  simp only [kMaxNameLength, kMaxTextLength] at *
  omega

theorem writeReason_length (reason : Reason) : (writeReason reason).length ≤ 778 := by
  have message := text_length_le reason.text.view kMaxTextLength
  have subject := text_length_le reason.subject kMaxReferenceLength
  simp only [writeReason, List.length_append, writeErrorCode_length]
  simp only [kMaxReferenceLength, kMaxTextLength] at *
  omega

theorem writeDecision_length {value : PromotionDecision}
    (gatesFit : value.gates.length ≤ kMaxDecisionGates)
    (findingsFit : value.findings.length ≤ kMaxDecisionFindings)
    (reasonsFit : value.reasons.length ≤ kMaxDecisionReasons) :
    (writeDecision value).length < kLengthBound := by
  have gates := @list_length_le _ value.gates _ _ writeGateExplanation_length
  have findings := @list_length_le _ value.findings _ _ writeFinding_length
  have reasons := @list_length_le _ value.reasons _ _ writeReason_length
  unfold writeDecision
  simp only [List.length_append, identity_length, counter_length, u8_length, u64_length,
    digest_length, boolean_length, writeAuthority_length]
  simp only [kMaxDecisionGates, kMaxDecisionFindings, kMaxDecisionReasons, kLengthBound] at *
  omega

theorem writePromotionRecord_length (value : PromotionRecord) :
    (writePromotionRecord value).length < kLengthBound := by
  have note := text_length_le value.note kMaxTextLength
  simp only [writePromotionRecord, List.length_append, identity_length, counter_length, u8_length,
    u64_length, digest_length, writeAuthority_length, kLengthBound]
  simp only [kMaxTextLength] at *
  omega

theorem writeIdempotency_length (value : IdempotencyRecord) :
    (writeIdempotency value).length < kLengthBound := by
  simp only [writeIdempotency, List.length_append, identity_length, counter_length, u8_length,
    digest_length, kLengthBound]
  omega

theorem writeHistoryEvent_length (value : HistoryEvent) :
    (writeHistoryEvent value).length < kLengthBound := by
  have note := text_length_le value.note kMaxTextLength
  simp only [writeHistoryEvent, List.length_append, identity_length, counter_length, u8_length,
    writeAuthority_length, kLengthBound]
  simp only [kMaxTextLength] at *
  omega

theorem readArtifact_yields {value : ArtifactRecord} (readable : value.Readable)
    (whole : value.Unabridged) : Yields view readArtifact (writeArtifact value) value := by
  have valid := readable.valid
  simp only [ArtifactRecord.valid, Bool.and_eq_true, decide_eq_true_eq] at valid
  have read := (readArtifact_reads value).yields
    (writeArtifact_length valid.1.2 valid.2) readable
  rwa [(ArtifactRecord.restored_eq_iff value).mpr whole] at read

theorem readEvidence_yields {value : EvidenceRecord} (readable : value.Readable)
    (whole : value.Unabridged) : Yields view readEvidence (writeEvidence value) value := by
  have read := (readEvidence_reads value).yields (writeEvidence_length value) readable
  rwa [(EvidenceRecord.restored_eq_iff value).mpr whole] at read

theorem readPlan_yields {value : PromotionPlan} (readable : value.Readable)
    (whole : value.Unabridged) : Yields view readPlan (writePlan value) value := by
  have read := (readPlan_reads value).yields (writePlan_length value) readable
  rwa [(PromotionPlan.restored_eq_iff value).mpr whole] at read

theorem readDecision_yields {value : PromotionDecision} (readable : value.Readable)
    (whole : value.Unabridged) : Yields view readDecision (writeDecision value) value := by
  have read := (readDecision_reads value).yields
    (writeDecision_length readable.gatesFit readable.findingsFit readable.reasonsFit) readable
  rwa [(PromotionDecision.restored_eq_iff value).mpr whole] at read

theorem readPromotionRecord_yields {value : PromotionRecord} (readable : value.Readable)
    (whole : value.note.length ≤ kMaxTextLength) :
    Yields view readPromotionRecord (writePromotionRecord value) value := by
  have read := (readPromotionRecord_reads value).yields (writePromotionRecord_length value) readable
  rwa [(PromotionRecord.restored_eq_iff value).mpr whole] at read

theorem readIdempotency_yields {value : IdempotencyRecord} (readable : value.Readable) :
    Yields view readIdempotency (writeIdempotency value) value :=
  (readIdempotency_reads value).yields (writeIdempotency_length value) readable

theorem readHistoryEvent_yields {value : HistoryEvent} (readable : value.Readable)
    (whole : value.note.length ≤ kMaxTextLength) :
    Yields view readHistoryEvent (writeHistoryEvent value) value := by
  have read := (readHistoryEvent_reads value).yields (writeHistoryEvent_length value) readable
  rwa [(HistoryEvent.restored_eq_iff value).mpr whole] at read

theorem readVeto_yields_whole {value : VetoState} (whole : value.Unabridged) :
    Yields view readVeto (writeVeto value) value := by
  have read := readVeto_yields value
  rwa [(VetoState.restored_eq_iff value).mpr whole] at read

end Codec

namespace StatePersistence

open Codec
open Reader (view)

def Salted (state : CoordinatorState) : Prop :=
  state.revisionGenerator.salt ≠ 0 ∧ state.evidenceGenerator.salt ≠ 0 ∧
    state.planGenerator.salt ≠ 0 ∧ state.decisionGenerator.salt ≠ 0 ∧
    state.transitionGenerator.salt ≠ 0 ∧ state.reservationGenerator.salt ≠ 0 ∧
    state.instanceGenerator.salt ≠ 0 ∧ state.provenanceGenerator.salt ≠ 0 ∧
    state.internalRequestGenerator.salt ≠ 0 ∧ state.internalAttemptGenerator.salt ≠ 0

instance (state : CoordinatorState) : Decidable (Salted state) :=
  inferInstanceAs (Decidable (_ ∧ _))

structure Transcribable (state : CoordinatorState) : Prop where
  keyed : Keyed state
  readable : ∀ part, SectionReadable state part
  unabridged : Unabridged state
  stamped : checkDecoded Section.all state = .ok ()
  named : state.activePolicyId = state.policy.id
  salted : Salted state
  size : (encodePayload state).length ≤ kMaxSnapshotBytes

theorem checkDecoded_stamps {seen : List Section} {state : CoordinatorState}
    (checked : checkDecoded seen state = .ok ()) :
    state.policy.generation = state.activePolicyGeneration ∧
      state.policy.id = state.activePolicy ∧
        state.policy.policyDigest = state.activePolicyDigest := by
  simp only [checkDecoded, bind_eq_ok, rejectWhen_eq_ok, bne_eq_false_iff_eq] at checked
  obtain ⟨_, _, _, generation, _, id, digest⟩ := checked
  exact ⟨generation, id, digest⟩

theorem restoredState_transcribed {state : CoordinatorState} (kept : Transcribable state) :
    restoredState state = { state with pending := ∅ } := by
  obtain ⟨generation, id, digest⟩ := checkDecoded_stamps kept.stamped
  have restores := (Engine.restores_iff state).mpr kept.unabridged
  obtain ⟨revision, evidence, plan, decision, transition, reservation, instanceSalt, provenance,
    request, attempt⟩ := kept.salted
  rw [restoredState_eq, restores.policy, restores.artifacts, restores.evidence, restores.plans,
    restores.decisions, restores.records, restores.history, restores.vetoes,
    IdentityGenerator.resumed_eq revision, IdentityGenerator.resumed_eq evidence,
    IdentityGenerator.resumed_eq plan, IdentityGenerator.resumed_eq decision,
    IdentityGenerator.resumed_eq transition, IdentityGenerator.resumed_eq reservation,
    IdentityGenerator.resumed_eq instanceSalt, IdentityGenerator.resumed_eq provenance,
    IdentityGenerator.resumed_eq request, IdentityGenerator.resumed_eq attempt, generation, digest]
  have named := kept.named
  cases state
  simp only at id named
  simp [id, named]

theorem decode_encode {state : CoordinatorState} (kept : Transcribable state) :
    decode (encode state) = .ok (observeState { state with pending := ∅ }) := by
  rw [decode_encode_eq_ok kept.keyed, restoredState_transcribed kept]
  exact ⟨kept.size, kept.readable, rfl⟩

/-- Every record that its reader accepts and whose texts and counts fit is read back, and so is a
state made of such records, without its reservations. -/
theorem record_codecs_round_trip :
    (∀ value : ArtifactRecord, value.Readable → value.Unabridged →
      Yields view readArtifact (writeArtifact value) value) ∧
    (∀ value : EvidenceRecord, value.Readable → value.Unabridged →
      Yields view readEvidence (writeEvidence value) value) ∧
    (∀ value : PromotionPlan, value.Readable → value.Unabridged →
      Yields view readPlan (writePlan value) value) ∧
    (∀ value : PromotionDecision, value.Readable → value.Unabridged →
      Yields view readDecision (writeDecision value) value) ∧
    (∀ value : PromotionRecord, value.Readable → value.note.length ≤ kMaxTextLength →
      Yields view readPromotionRecord (writePromotionRecord value) value) ∧
    (∀ value : IdempotencyRecord, value.Readable →
      Yields view readIdempotency (writeIdempotency value) value) ∧
    (∀ value : HistoryEvent, value.Readable → value.note.length ≤ kMaxTextLength →
      Yields view readHistoryEvent (writeHistoryEvent value) value) ∧
    (∀ value : VetoState, value.Unabridged → Yields view readVeto (writeVeto value) value) ∧
    ∀ state : CoordinatorState, Transcribable state →
      decode (encode state) = .ok (observeState { state with pending := ∅ }) :=
  ⟨fun _ => readArtifact_yields, fun _ => readEvidence_yields, fun _ => readPlan_yields,
    fun _ => readDecision_yields, fun _ => readPromotionRecord_yields,
    fun _ => readIdempotency_yields, fun _ => readHistoryEvent_yields,
    fun _ => readVeto_yields_whole, fun _ => decode_encode⟩

def widePlan : PromotionPlan :=
  let digest := (Engine.sampleRegistration 1).digest
  { id := ⟨0, 1⟩, request := ⟨0, 1⟩, attempt := ⟨0, 1⟩, decision := ⟨0, 1⟩, artifact := ⟨0, 1⟩,
    artifactRevision := ⟨0, 1⟩, artifactGeneration := ⟨1⟩, artifactDigest := digest,
    artifactKind := .library, source := .candidate, target := .verified,
    stageGeneration := ⟨1⟩, policy := ⟨0, 1⟩, policyGeneration := ⟨1⟩, policyDigest := digest,
    lifecycleDigest := digest, authority := ⟨⟨0, 1⟩, ⟨1⟩⟩,
    evidenceSnapshotDigest := digest, evidenceEntryCount := 0x100000000,
    createdSequence := ⟨1⟩, decisionSequence := ⟨1⟩ }

/-- The count of a plan's evidence entries is written in 32 bits, whatever it was. -/
theorem wide_plan_cut :
    widePlan.Readable ∧ ¬Yields view readPlan (writePlan widePlan) widePlan := by
  have readable : widePlan.Readable := ⟨by decide, by decide, by decide, by decide⟩
  refine ⟨readable, fun whole => ?_⟩
  have cut := (readPlan_reads widePlan).yields (writePlan_length _) readable
  have unread : view.unread { data := writePlan widePlan } = writePlan widePlan ++ [] :=
    (List.append_nil _).symm
  obtain ⟨next, read, _⟩ := whole _ _ (Nat.zero_le _) unread
  obtain ⟨other, readCut, _⟩ := cut _ _ (Nat.zero_le _) unread
  rw [read] at readCut
  have same : widePlan = widePlan.restored := congrArg Prod.fst (Except.ok.inj readCut)
  exact absurd same (by decide)

def transcribes (state : CoordinatorState) : Bool :=
  Engine.storable state && checkDecoded Section.all state == .ok () &&
    state.activePolicyId == state.policy.id && decide (Salted state)

theorem record_codecs_round_trip_registered :
    ∃ engine, Reachable engine ∧
      decode (encode engine.snapshot) = .ok (observeState engine.snapshot) ∧
      Yields view readVeto (writeVeto {}) {} := by
  have evaluated : ((Runs.play Engine.step Engine.sampleEngine
      [fun _ => .publishPolicy Engine.directPolicy,
        fun _ => .registerArtifact (Engine.sampleRegistration 1) 0]).any
        fun played => transcribes played.2.snapshot) = true := by
    decide +kernel
  obtain ⟨engine, reachable, checked⟩ := Reachable.of_play
    (fun engine => transcribes engine.snapshot) Engine.sampleEngine_constructed evaluated
  simp only [transcribes, Bool.and_eq_true, beq_iff_eq, decide_eq_true_eq] at checked
  obtain ⟨⟨⟨storable, stamped⟩, named⟩, salted⟩ := checked
  have storable := Engine.storable_spec storable
  have kept : Transcribable engine.snapshot :=
    ⟨Engine.snapshot_keyed reachable.sound, storable.readable, storable.unabridged, stamped, named,
      salted, storable.size⟩
  obtain ⟨_, _, _, _, _, _, _, veto, state⟩ := record_codecs_round_trip
  exact ⟨engine, reachable, state _ kept, veto {} ⟨by decide, by decide⟩⟩

end StatePersistence

end ArtifactPromotion
