import ArtifactPromotion.Distributed.PayloadCodecs
import ArtifactPromotion.Distributed.Server
import ArtifactPromotion.Engine.WellFormed
import ArtifactPromotion.Persist.RecordCodecs

/-! Evidence submitted over the wire: the call the server makes of it, and the record that comes
back. -/

namespace ArtifactPromotion

open Protocol

namespace WorkerClient

def evidencePayload (submission : EvidenceSubmission) : EvidencePayload :=
  { type := submission.type, customType := submission.customType, subject := submission.subject,
    subjectDigest := submission.subjectDigest, subjectRevision := submission.subjectRevision,
    result := submission.result, confidenceMilli := submission.confidenceMilli,
    measurement := submission.measurement, detail := submission.detail,
    payloadDigest := submission.payloadDigest, provenance := submission.provenance,
    producedUnixMillis := submission.producedUnixMillis,
    hasValidityWindow := submission.hasValidityWindow,
    validFromUnixMillis := submission.validFromUnixMillis,
    validUntilUnixMillis := submission.validUntilUnixMillis,
    environment := submission.environment }

theorem evidencePayload_readable {submission : EvidenceSubmission}
    (validated : submission.validate = .ok ()) : (evidencePayload submission).Readable := by
  have whole := Engine.submission_unabridged validated {} {} {}
  simp only [EvidenceSubmission.validate, bind_eq_ok, rejectWhen_eq_ok, Bool.not_eq_false',
    decide_eq_false_iff_not] at validated
  obtain ⟨_, _, _, _, _, _, _, type, _, _, _, _, _, _, _, result, _, confidence, _⟩ := validated
  exact ⟨type, result, UInt32.not_lt.mp confidence, whole.customType, whole.measurement,
    whole.detail, whole.environment⟩

end WorkerClient

namespace Engine

variable {engine : Engine}

theorem submitEvidence_validated {submission : EvidenceSubmission} {record : EvidenceRecord}
    (accepted : (engine.submitEvidence submission).1 = .ok record) :
    submission.validate = .ok () := by
  unfold submitEvidence at accepted
  cases validated : submission.validate with
  | error status =>
      rw [validated] at accepted
      cases accepted
  | ok done => rfl

theorem submitEvidence_stored {submission : EvidenceSubmission} {record : EvidenceRecord}
    (accepted : (engine.submitEvidence submission).1 = .ok record) :
    (engine.submitEvidence submission).2.state.evidence[record.id]? = some record := by
  have effect := @submitEvidence_effect engine submission
  rw [accepted] at effect
  cases effect with
  | idle quiet => cases quiet
  | submitted _ _ _ _ changed =>
      have kept := congrArg Control.evidence changed
      change (engine.submitEvidence submission).2.control.evidence[record.id]? = some record
      rw [kept]
      exact Std.ExtTreeMap.getElem?_insert_self

/-- The record made of a submission is read back from its encoding, unless its integrity digest is
the reserved one. -/
theorem submitted_decodes_iff {submission : EvidenceSubmission} {record : EvidenceRecord}
    (accepted : (engine.submitEvidence submission).1 = .ok record) :
    decodeEvidenceRecord (encodeEvidenceRecord record) = .ok record ↔
      record.integrityDigest.valid = true := by
  have validated := submitEvidence_validated accepted
  have made := submitEvidence_record accepted
  have whole : record.Unabridged := made ▸ submission_unabridged validated _ _ _
  have restored := (EvidenceRecord.restored_eq_iff record).mpr whole
  rw [decodeEvidenceRecord, encodeEvidenceRecord,
    decodeWhole_eq_ok (Codec.readEvidence_reads record) (Codec.writeEvidence_length record),
    restored, EvidenceRecord.readable_iff, EvidenceRecord.valid_iff]
  constructor
  · rintro ⟨⟨⟨_, integrity, _⟩, _⟩, _⟩
    exact integrity
  · intro integrity
    have numbered : (replacementGeneration (currentEvidence engine.state submission)).valid =
        true := by
      cases currentEvidence engine.state submission with
      | none => rfl
      | some previous => exact Counter.next_valid _
    have content : record.ContentValid := made ▸ EvidenceSubmission.validate_content validated
      (IdentityGenerator.next_valid _) numbered (Counter.next_valid _)
    have unrevoked : record.revoked = false := by rw [made]; rfl
    have covered : computeEvidenceIntegrity record = record.integrityDigest := by rw [made]; rfl
    exact ⟨⟨⟨content, integrity, by simp [unrevoked]⟩, covered⟩, rfl⟩

end Engine

namespace FrameServer

/-- What the handler of submissions owes: under current authority the engine's own call for the
submission of this worker incarnation, and otherwise nothing. -/
def submitRemotely (server : FrameServer) (request : Frame) (submission : EvidenceSubmission) :
    Result EvidenceRecord × FrameServer :=
  match requireCurrentAuthority server.engine request with
  | .error status => (.error status, server)
  | .ok () =>
      let (stored, engine) := server.engine.submitEvidence
        { submission with producer := ⟨request.worker, request.boot⟩ }
      (stored, { server with engine })

theorem remote_evidence_refines (server : FrameServer) (circumstances : Circumstances)
    (request : Frame) (submission : EvidenceSubmission) (validated : submission.validate = .ok ())
    (typed : request.type = .submitEvidenceRequest)
    (carried : request.payload =
      encodeEvidenceSubmission (WorkerClient.evidencePayload submission)) :
    server.handleFrame circumstances request =
        ((server.submitRemotely request submission).1.map fun record =>
          ⟨.submitEvidenceResponse, encodeEvidenceRecord record⟩,
          (server.submitRemotely request submission).2) ∧
      ∀ record : EvidenceRecord, (server.submitRemotely request submission).1 = .ok record →
        (server.submitRemotely request submission).2.engine.state.evidence[record.id]? =
            some record ∧
          (decodeEvidenceRecord (encodeEvidenceRecord record) = .ok record ↔
            record.integrityDigest.valid = true) := by
  have decoded : decodeEvidenceSubmission request.payload =
      .ok (WorkerClient.evidencePayload submission) := by
    rw [carried]
    exact decode_encodeEvidenceSubmission (WorkerClient.evidencePayload_readable validated)
  constructor
  · unfold handleFrame submitRemotely withAuthority
    simp only [typed, decoded]
    cases requireCurrentAuthority server.engine request with
    | error status => rfl
    | ok done => rfl
  · intro record accepted
    unfold submitRemotely at accepted ⊢
    cases authorized : requireCurrentAuthority server.engine request with
    | error status =>
        rw [authorized] at accepted
        cases accepted
    | ok done =>
        rw [authorized] at accepted
        exact ⟨Engine.submitEvidence_stored accepted, Engine.submitted_decodes_iff accepted⟩

def sampleSubmissionFrame (engine : Engine) : Frame :=
  { type := .submitEvidenceRequest, request := ⟨0, 1⟩, coordinator := engine.state.coordinator,
    epoch := engine.state.epoch, worker := ⟨0, 7⟩, boot := ⟨0, 9⟩,
    payload := encodeEvidenceSubmission (WorkerClient.evidencePayload engine.sampleEvidence) }

theorem remote_evidence_refines_stored :
    ∃ (server : FrameServer) (record : EvidenceRecord) (after : FrameServer),
      server.handleFrame ⟨0, 0, .ok ()⟩ (sampleSubmissionFrame server.engine) =
        (.ok ⟨.submitEvidenceResponse, encodeEvidenceRecord record⟩, after) ∧
      record.producer = ⟨⟨0, 7⟩, ⟨0, 9⟩⟩ ∧ after.engine.state.evidence[record.id]? = some record := by
  have evaluated : ((Runs.play Engine.step Engine.sampleEngine
      [fun _ => .registerArtifact (Engine.sampleRegistration 1) 0]).any fun played =>
        played.2.sampleEvidence.validate == .ok () &&
        (submitRemotely { engine := played.2 } (sampleSubmissionFrame played.2)
          played.2.sampleEvidence).1.toOption.isSome) = true := by
    decide +kernel
  obtain ⟨engine, _, checked⟩ := Reachable.of_play (fun engine =>
    engine.sampleEvidence.validate == .ok () &&
      (submitRemotely { engine } (sampleSubmissionFrame engine)
        engine.sampleEvidence).1.toOption.isSome) Engine.sampleEngine_constructed evaluated
  simp only [Bool.and_eq_true, beq_iff_eq] at checked
  obtain ⟨validated, accepted⟩ := checked
  obtain ⟨answered, kept⟩ := remote_evidence_refines { engine } ⟨0, 0, .ok ()⟩
    (sampleSubmissionFrame engine) engine.sampleEvidence validated rfl rfl
  cases outcome : (submitRemotely { engine } (sampleSubmissionFrame engine)
      engine.sampleEvidence).1 with
  | error status =>
      rw [outcome] at accepted
      cases accepted
  | ok record =>
      rw [outcome] at answered
      refine ⟨{ engine }, record, _, answered, ?_, (kept record outcome).1⟩
      unfold submitRemotely at outcome
      cases authorized : requireCurrentAuthority engine (sampleSubmissionFrame engine) with
      | error status =>
          rw [authorized] at outcome
          cases outcome
      | ok done =>
          rw [authorized] at outcome
          rw [Engine.submitEvidence_record outcome]
          rfl

end FrameServer

end ArtifactPromotion
