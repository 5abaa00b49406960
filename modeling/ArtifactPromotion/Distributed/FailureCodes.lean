import ArtifactPromotion.Distributed.Server

/-! No failure of the coordinator carries the code `Ok`: what `handle_frame` refuses is a failure to
its caller, too. -/

namespace ArtifactPromotion

open Protocol

def Failing {α : Type} (result : Result α) : Prop :=
  FailsOnly (fun status => status.code ≠ .ok) result

namespace Failing

variable {α β : Type}

theorem success (value : α) : Failing (.ok value) := FailsOnly.success value

theorem refusal {code : ErrorCode} {message subject : Text} (fails : code ≠ .ok) :
    Failing (α := α) (.error (.of code message subject)) := by
  rintro status ⟨⟩
  exact fails

theorem rejectWhen {bad : Bool} {code : ErrorCode} {message : String} {subject : Text}
    (fails : code ≠ .ok) : Failing (ArtifactPromotion.rejectWhen bad code message subject) := by
  unfold ArtifactPromotion.rejectWhen
  split
  · exact refusal fails
  · exact success ()

theorem bind {first : Result α} {next : α → Result β} (fails : Failing first)
    (later : ∀ value, Failing (next value)) : Failing (first >>= next) :=
  FailsOnly.bind fails later

theorem map {result : Result α} (change : α → β) (fails : Failing result) :
    Failing (result.map change) := by
  cases result with
  | error status =>
      rintro _ ⟨⟩
      exact fails status rfl
  | ok value => exact success _

theorem checkEach {check : α → Result Unit} (fails : ∀ value, Failing (check value))
    (values : List α) : Failing (ArtifactPromotion.checkEach check values) :=
  FailsOnly.each fun value _ => fails value

end Failing

def FailingRead {α : Type} (read : Decode α) : Prop := ∀ reader, Failing (read reader)

namespace FailingRead

variable {α β : Type}

theorem value (value : α) : FailingRead (pure value) := fun _ => .success _

theorem refusal {code : ErrorCode} {message : Text} (fails : code ≠ .ok) :
    FailingRead (α := α) (Reader.fail code message) := fun _ => .refusal fails

theorem consume (size : Nat) (message : String) (load : ByteBuffer → α) :
    FailingRead (Reader.consume size message load) := by
  intro reader
  unfold Reader.consume
  split
  · exact .success _
  · exact .refusal (by decide)

theorem bind {read : Decode α} {next : α → Decode β} (fails : FailingRead read)
    (later : ∀ value, FailingRead (next value)) : FailingRead (read >>= next) :=
  fun reader => (fails reader).bind fun taken => later taken.1 taken.2

theorem branch {test : Prop} [Decidable test] {first second : Decode α} (left : FailingRead first)
    (right : FailingRead second) : FailingRead (if test then first else second) := by
  split
  · exact left
  · exact right

theorem identity {tag : IdentityTag} : FailingRead (@Reader.identity tag) :=
  bind (consume _ _ _) fun _ => bind (consume _ _ _) fun _ => .value _

theorem boolean : FailingRead Reader.boolean :=
  bind (consume _ _ _) fun _ => (refusal (by decide)).branch (.value _)

theorem text (limit : Nat) : FailingRead (Reader.text limit) :=
  bind (consume _ _ _) fun _ => (refusal (by decide)).branch (consume _ _ _)

theorem readEnum {known : Nat → Bool} {ofByte : UInt8 → α} {code : ErrorCode} {message : String}
    (fails : code ≠ .ok) : FailingRead (Codec.readEnum known ofByte code message) :=
  bind (consume _ _ _) fun _ => (value _).branch (.refusal fails)

theorem elements {read : Decode α} (fails : FailingRead read) (count : Nat) :
    FailingRead (Reader.elements read count) := by
  induction count with
  | zero => exact .value _
  | succ count ih => exact fails.bind fun _ => ih.bind fun _ => .value _

theorem readList (limit : Nat) {read : Decode α} (fails : FailingRead read) :
    FailingRead (Codec.readList limit read) :=
  bind (bind (consume _ _ _) fun _ => (refusal (by decide)).branch (.value _)) fun count =>
    fails.elements count

theorem decodeWhole {read : Decode α} (fails : FailingRead read) (bytes : ByteBuffer) :
    Failing (Protocol.decodeWhole read bytes) :=
  (fails _).bind fun _ => (Failing.rejectWhen (by decide)).bind fun _ => .success _

theorem readRegisterArtifact : FailingRead Protocol.readRegisterArtifact :=
  identity.bind fun _ => (readEnum (by decide)).bind fun _ => bind (consume _ _ _) fun _ =>
    bind (consume _ _ _) fun _ => (text _).bind fun _ => (readList _ identity).bind fun _ =>
      (readList _ (text _)).bind fun _ => .value _

theorem readEvidenceSubmission : FailingRead Protocol.readEvidenceSubmission :=
  bind (readEnum (by decide)) fun _ => (text _).bind fun _ => identity.bind fun _ =>
    bind (consume _ _ _) fun _ => identity.bind fun _ => (readEnum (by decide)).bind fun _ =>
      bind (consume _ _ _) fun _ => (refusal (by decide)).branch <| (text _).bind fun _ =>
        (text _).bind fun _ => bind (consume _ _ _) fun _ => identity.bind fun _ =>
          bind (consume _ _ _) fun _ => boolean.bind fun _ => bind (consume _ _ _) fun _ =>
            bind (consume _ _ _) fun _ => (text _).bind fun _ => .value _

theorem readPromotionRequest : FailingRead Protocol.readPromotionRequest :=
  identity.bind fun _ => identity.bind fun _ => bind (consume _ _ _) fun _ =>
    (readEnum (by decide)).bind fun _ => boolean.bind fun _ => bind (consume _ _ _) fun _ => .value _

theorem readTrust : FailingRead Protocol.readTrust :=
  identity.bind fun _ => identity.bind fun _ => identity.bind fun _ => identity.bind fun _ =>
    (text _).bind fun _ => (text _).bind fun _ => .value _

end FailingRead

namespace Engine

variable {engine : Engine}

theorem registration_failing (registration : ArtifactRegistration) :
    Failing registration.validate := by
  unfold ArtifactRegistration.validate
  repeat refine (Failing.rejectWhen (by decide)).bind fun _ => ?_
  refine (Failing.checkEach (fun record => ?_) _).bind fun _ => .checkEach (fun name => ?_) _
  · exact (Failing.rejectWhen (by decide)).bind fun _ => .rejectWhen (by decide)
  · exact .rejectWhen (by decide)

theorem submission_failing (submission : EvidenceSubmission) : Failing submission.validate := by
  unfold EvidenceSubmission.validate
  repeat refine (Failing.rejectWhen (by decide)).bind fun _ => ?_
  exact .rejectWhen (by decide)

theorem refuse_failing {α : Type} {code : ErrorCode} {message : String} {subject : Text}
    (fails : code ≠ .ok) : Failing (engine.refuse (α := α) code message subject).1 :=
  .refusal fails

theorem registerArtifact_failing (registration : ArtifactRegistration) (now : UInt64) :
    Failing (engine.registerArtifact registration now).1 := by
  have validation := registration_failing registration
  unfold registerArtifact
  split
  · rename_i status failed
    rintro _ ⟨⟩
    exact validation status failed
  · dsimp only
    repeat' split
    all_goals first
      | exact refuse_failing (by decide)
      | exact .success _

theorem submitEvidence_failing (submission : EvidenceSubmission) :
    Failing (engine.submitEvidence submission).1 := by
  have validation := submission_failing submission
  unfold submitEvidence
  split
  · rename_i status failed
    rintro _ ⟨⟩
    exact validation status failed
  · dsimp only
    repeat' split
    all_goals first
      | exact refuse_failing (by decide)
      | exact .success _

theorem evaluate_failing (request : PromotionRequest) (now : UInt64) :
    Failing (engine.evaluate request now).1 := by
  have fresh : Failing (engine.evaluateFresh request now).1 := by
    unfold evaluateFresh
    dsimp only
    repeat' split
    all_goals exact .success _
  unfold evaluate
  repeat' split
  all_goals first
    | exact fresh
    | exact refuse_failing (by decide)
    | exact .success _

theorem commit_failing (plan : PromotionPlan) (now : UInt64) :
    Failing (engine.commit plan now).1 := by
  have stored : Failing (engine.commitStored plan now).1 := by
    unfold commitStored revalidate
    dsimp only
    repeat' split
    all_goals exact .success _
  unfold commit
  repeat' split
  all_goals first
    | exact stored
    | exact refuse_failing (by decide)
    | exact .success _

theorem promote_failing (request : PromotionRequest) (now later : UInt64) :
    Failing (engine.promote request now later).1 := by
  have evaluation := @evaluate_failing engine request now
  unfold promote
  split
  · rename_i status next evaluated
    rw [evaluated] at evaluation
    rintro _ ⟨⟩
    exact evaluation status rfl
  · split
    · exact .success _
    · exact commit_failing _ _

theorem quarantine_failing (id : ArtifactId) (reasonClass detail : Text)
    (authority : CoordinatorAuthority) :
    Failing (engine.quarantine id reasonClass detail authority).1 := by
  unfold quarantine
  dsimp only
  repeat' split
  all_goals first
    | exact refuse_failing (by decide)
    | exact .success _

theorem releaseQuarantine_failing (id : ArtifactId) (authority : CoordinatorAuthority)
    (now later : UInt64) : Failing (engine.releaseQuarantine id authority now later).1 := by
  unfold releaseQuarantine
  dsimp only
  repeat' split
  all_goals first
    | exact refuse_failing (by decide)
    | exact .success _

theorem revoke_failing (id : ArtifactId) (decision : PromotionDecisionId)
    (reasonClass detail : Text) (authority : CoordinatorAuthority) (cause : EvidenceId)
    (now : UInt64) :
    Failing (engine.revoke id decision reasonClass detail authority cause now).1 := by
  unfold revoke
  dsimp only
  repeat' split
  all_goals first
    | exact refuse_failing (by decide)
    | exact .success _

theorem supersede_failing (id successor : ArtifactId) (reason : Text)
    (authority : CoordinatorAuthority) (now : UInt64) :
    Failing (engine.supersede id successor reason authority now).1 := by
  unfold supersede
  dsimp only
  repeat' split
  all_goals first
    | exact refuse_failing (by decide)
    | exact .success _

theorem retire_failing (id : ArtifactId) (authority : CoordinatorAuthority) (now : UInt64) :
    Failing (engine.retire id authority now).1 := by
  unfold retire
  dsimp only
  repeat' split
  all_goals first
    | exact refuse_failing (by decide)
    | exact .success _

theorem revokeEvidence_failing (id : EvidenceId) (reason : Text)
    (authority : CoordinatorAuthority) : Failing (engine.revokeEvidence id reason authority).1 := by
  unfold revokeEvidence
  dsimp only
  repeat' split
  all_goals first
    | exact refuse_failing (by decide)
    | exact .success _

end Engine

namespace FrameServer

variable {server : FrameServer} {circumstances : Circumstances} {request : Frame}

theorem withAuthority_failing {α : Type} {decode : ByteBuffer → Result α}
    {arm : α → Result Answer × Engine} (decodes : ∀ bytes, Failing (decode bytes))
    (answers : ∀ payload, Failing (arm payload).1) :
    Failing (server.withAuthority request decode arm).1 := by
  have authority : Failing (requireCurrentAuthority server.engine request) :=
    (Failing.rejectWhen (by decide)).bind fun _ => .rejectWhen (by decide)
  unfold withAuthority
  split
  · rename_i status refused
    rintro _ ⟨⟩
    exact authority status refused
  · split
    · rename_i status undecoded
      rintro _ ⟨⟩
      exact decodes _ status undecoded
    · exact answers _

theorem mutationAnswer_failing {type : MessageType} {outcome : Result TrustMutation × Engine}
    (fails : Failing outcome.1) : Failing (mutationAnswer type outcome).1 := fails.map _

theorem decidePromotion_failing (engine : Engine) (payload : PromotionPayload) :
    Failing (decidePromotion engine circumstances request payload).1 := by
  unfold decidePromotion
  dsimp only
  split
  · exact Engine.refuse_failing (by decide)
  split
  · exact (Engine.evaluate_failing _ _).map _
  · exact (Engine.promote_failing _ _ _).map _

/-- Every refusal of the handler carries a code other than `Ok`, provided that a failed save does. -/
theorem handleFrame_failing (saves : Failing circumstances.saved) :
    Failing (server.handleFrame circumstances request).1 := by
  have trust : ∀ bytes, Failing (decodeTrust bytes) := FailingRead.readTrust.decodeWhole
  have asked : ∀ bytes, Failing (decodePromotionRequest bytes) :=
    FailingRead.readPromotionRequest.decodeWhole
  unfold handleFrame
  dsimp only
  cases request.type
  case helloRequest =>
    dsimp only
    split
    · rename_i status refused
      rintro _ ⟨⟩
      unfold CoordinatorServer.registerWorkerBoot at refused
      repeat' split at refused
      all_goals cases refused
      all_goals exact ErrorCode.noConfusion
    · exact .success _
  case registerArtifactRequest =>
    exact withAuthority_failing FailingRead.readRegisterArtifact.decodeWhole fun payload =>
      (Engine.registerArtifact_failing _ _).map _
  case submitEvidenceRequest =>
    exact withAuthority_failing FailingRead.readEvidenceSubmission.decodeWhole fun payload =>
      (Engine.submitEvidence_failing _).map _
  case promotionRequest | evaluateRequest =>
    exact withAuthority_failing asked fun payload => decidePromotion_failing _ payload
  case artifactStateRequest =>
    refine (asked _).bind fun payload => ?_
    unfold stateAnswer
    split
    · exact .refusal (by decide)
    · exact .success _
  case historyRequest =>
    exact (asked _).bind fun payload =>
      ((Failing.rejectWhen (by decide)).bind fun _ => .success _).map _
  case explainRequest =>
    refine (asked _).bind fun payload => ?_
    unfold explainAnswer
    split
    · exact .refusal (by decide)
    · exact .success _
  case quarantineRequest =>
    exact withAuthority_failing trust fun payload =>
      mutationAnswer_failing (Engine.quarantine_failing _ _ _ _)
  case releaseQuarantineRequest =>
    exact withAuthority_failing trust fun payload =>
      mutationAnswer_failing (Engine.releaseQuarantine_failing _ _ _ _)
  case revokeRequest =>
    exact withAuthority_failing trust fun payload =>
      mutationAnswer_failing (Engine.revoke_failing _ _ _ _ _ _ _)
  case revokeEvidenceRequest =>
    exact withAuthority_failing trust fun payload => (Engine.revokeEvidence_failing _ _ _).map _
  case supersedeRequest =>
    exact withAuthority_failing trust fun payload =>
      mutationAnswer_failing (Engine.supersede_failing _ _ _ _ _)
  case retireRequest =>
    exact withAuthority_failing trust fun payload =>
      mutationAnswer_failing (Engine.retire_failing _ _ _)
  case snapshotSaveRequest => exact saves.map _
  all_goals exact .refusal (by decide)

end FrameServer

end ArtifactPromotion
