import ArtifactPromotion.Distributed.SessionRuns
import ArtifactPromotion.Engine.PortableArtifacts

/-! Trust requests and state queries from afar: what the worker is told is what the engine answers,
as far as the wire carries it. -/

namespace ArtifactPromotion

open Protocol Runs

/-- A refusal as the worker is told of it: its subject is not sent. -/
def Status.forwarded (status : Status) : Status := .of status.code status.message.view

def TrustMutation.forwarded (mutation : TrustMutation) : TrustMutation :=
  { mutation with record := {}, hasRecord := false }

def forwardedTrust : Result TrustMutation → Result ClientAnswer
  | .error status => .error status.forwarded
  | .ok mutation => .ok (.trusted mutation.forwarded)

/-- What the worker is told of an artifact's view. -/
def shownState (artifact : ArtifactId) (view : ArtifactView) : ArtifactStatePayload :=
  { artifact, record := view.artifact, evidenceCount := view.evidenceCount.toUInt32,
    promotionRecordCount := view.promotionRecordCount.toUInt32,
    hasActiveReservation := view.hasActiveReservation }

namespace ClientCall

/-- What a trust request or a state query owes: the engine's own operation, of whose reason class
the part that fits a name is meant. -/
def performed (engine : Engine) (now : UInt64) : ClientCall → Option (Result ClientAnswer × Engine)
  | .quarantine artifact reasonClass detail =>
      let outcome := engine.quarantine artifact (reasonClass.take kMaxNameLength) detail
        engine.state.authority
      some (forwardedTrust outcome.1, outcome.2)
  | .revoke artifact reasonClass detail =>
      let outcome := engine.revoke artifact {} (reasonClass.take kMaxNameLength) detail
        engine.state.authority {} now
      some (forwardedTrust outcome.1, outcome.2)
  | .artifactState artifact =>
      let answer := match engine.inspectArtifact artifact with
        | none => .error (.of .artifactNotFound (text "artifact identity is not registered"))
        | some view => .ok (.state (shownState artifact view))
      some (answer, engine)
  | _ => none

def about : ClientCall → Option ArtifactId
  | .quarantine artifact .. | .revoke artifact .. | .artifactState artifact => some artifact
  | _ => none

end ClientCall

namespace Engine

variable {engine : Engine}

theorem quarantine_detail (id : ArtifactId) (reasonClass detail : Text)
    (authority : CoordinatorAuthority) :
    engine.quarantine id reasonClass (detail.take kMaxTextLength) authority =
      engine.quarantine id reasonClass detail authority := by
  have same (state : CoordinatorState) (record : ArtifactRecord) :
      quarantinedArtifact state record reasonClass (detail.take kMaxTextLength) =
        quarantinedArtifact state record reasonClass detail := by
    simp only [quarantinedArtifact, boundedText, List.take_take, Nat.min_self]
  simp only [quarantine, same]

theorem revoke_detail (id : ArtifactId) (decision : PromotionDecisionId) (reasonClass detail : Text)
    (authority : CoordinatorAuthority) (cause : EvidenceId) (now : UInt64) :
    engine.revoke id decision reasonClass (detail.take kMaxTextLength) authority cause now =
      engine.revoke id decision reasonClass detail authority cause now := by
  have same (state : CoordinatorState) (record : ArtifactRecord) (target : PromotionDecisionId) :
      revokedArtifact state record target reasonClass (detail.take kMaxTextLength) cause =
        revokedArtifact state record target reasonClass detail cause := by
    simp only [revokedArtifact, boundedText, List.take_take, Nat.min_self]
  simp only [revoke, same]

structure Shows (engine : Engine) (id : ArtifactId) (mutation : TrustMutation) : Prop where
  settled : mutation.outcome ≠ .invalid
  artifact : ∃ record ∈ engine.state.chain id,
    mutation.artifact.provenance = record.provenance ∧ mutation.artifact.Presented
  reasons : mutation.reasons.length ≤ 32
  subjects : ∀ reason ∈ mutation.reasons, reason.subject = []

theorem answer_shows (showable : engine.Showable) {id : ArtifactId}
    {artifact : ArtifactRecord} (found : engine.state.findCurrent id = some artifact)
    {outcome : PromotionOutcome} (settled : outcome ≠ .invalid) (code : ErrorCode)
    (message : String) {mutation : TrustMutation}
    (answered : (engine.answer outcome artifact code message).1 = .ok mutation) :
    engine.Shows id mutation := by
  have inside := List.mem_of_getLast? found
  cases answered
  refine ⟨settled, ⟨artifact, inside, rfl, showable.held inside⟩, ?_, ?_⟩
  · exact (by decide : 1 ≤ 32)
  · simp [Reason.of]

theorem quarantine_shows (showable : engine.Showable) {id : ArtifactId}
    {reasonClass detail : Text} {authority : CoordinatorAuthority} {mutation : TrustMutation}
    (mutated : (engine.quarantine id reasonClass detail authority).1 = .ok mutation) :
    engine.Shows id mutation := by
  unfold quarantine at mutated
  split at mutated
  · cases mutated
  rename_i named
  split at mutated
  · cases mutated
  split at mutated
  · cases mutated
  cases found : engine.state.findCurrent id with
  | none =>
      rw [found] at mutated
      cases mutated
  | some artifact =>
      rw [found] at mutated
      dsimp only at mutated
      split at mutated
      · exact answer_shows showable found (by decide) _ _ mutated
      split at mutated
      · exact answer_shows showable found (by decide) _ _ mutated
      split at mutated
      · cases mutated
      · have inside := List.mem_of_getLast? found
        cases mutated
        refine ⟨nofun, ⟨artifact, inside, rfl, quarantined_presented showable
          (showable.held inside) (by simpa using named) detail⟩, ?_, ?_⟩
        · exact (by decide : 1 ≤ 32)
        · simp [Reason.of]

theorem revoke_shows (showable : engine.Showable) {id : ArtifactId}
    {decision : PromotionDecisionId} {reasonClass detail : Text} {authority : CoordinatorAuthority}
    {cause : EvidenceId} {now : UInt64} {mutation : TrustMutation}
    (mutated : (engine.revoke id decision reasonClass detail authority cause now).1 =
      .ok mutation) : engine.Shows id mutation := by
  unfold revoke at mutated
  split at mutated
  · cases mutated
  rename_i named
  split at mutated
  · cases mutated
  cases found : engine.state.findCurrent id with
  | none =>
      rw [found] at mutated
      cases mutated
  | some artifact =>
      rw [found] at mutated
      dsimp only at mutated
      generalize (if decision.invalid = true then artifact.promotionDecision else decision) =
        target at mutated
      split at mutated
      · exact answer_shows showable found (by decide) _ _ mutated
      split at mutated
      · cases mutated
      split at mutated
      · exact answer_shows showable found (by decide) _ _ mutated
      split at mutated
      · cases mutated
      split at mutated
      · cases mutated
      · have inside := List.mem_of_getLast? found
        cases mutated
        refine ⟨nofun, ⟨artifact, inside, rfl, revoked_presented showable
          (showable.held inside) _ (by simpa using named) detail _⟩, Nat.zero_le _, ?_⟩
        simp

end Engine

section Remote

open FrameServer Engine

variable {engine : Engine} {server : FrameServer} {circumstances : Circumstances} {request : Frame}

theorem decode_encodeTrust_cut (payload : TrustPayload) :
    decodeTrust (encodeTrust payload) =
      .ok { payload with
        reasonClass := payload.reasonClass.take kMaxNameLength
        detail := payload.detail.take kMaxTextLength } := by
  have cut : encodeTrust payload = encodeTrust { payload with
      reasonClass := payload.reasonClass.take kMaxNameLength
      detail := payload.detail.take kMaxTextLength } := by
    simp only [encodeTrust, Writer.text_take]
  rw [cut]
  exact decode_encodeTrust (List.length_take_le ..) (List.length_take_le ..)

theorem trustMutation_told (id : ArtifactId) {mutation : TrustMutation}
    (portable : ∀ record ∈ engine.state.chain id, record.Portable)
    (shows : engine.Shows id mutation) :
    (decodeArtifactResult (encodeArtifactResult
      { outcome := mutation.outcome, artifact := mutation.artifact,
        hasArtifact := mutation.artifact.id.valid, reasons := mutation.reasons })).map
          WorkerClient.trustMutation = .ok mutation.forwarded := by
  obtain ⟨record, inside, provenance, presented⟩ := shows.artifact
  have carried : mutation.artifact.Portable := by
    rw [ArtifactRecord.Portable, provenance]
    exact portable record inside
  have named : mutation.artifact.id.valid = true :=
    ((ArtifactRecord.valid_iff _).mp presented.valid).1.1
  rw [decode_encodeArtifactResult
    { outcome := by
        have settled := shows.settled
        cases ended : mutation.outcome <;> simp_all [isValidPromotionOutcome,
          PromotionOutcome.toByte]
      artifact := fun _ => presented.readable carried
      absent := fun absent => by simp [named] at absent
      reasons := shows.reasons
      subjects := fun reason inside => by simp [shows.subjects reason inside] }]
  rfl

theorem mutation_told (type : MessageType) (id : ArtifactId)
    {outcome : Result TrustMutation × Engine}
    (portable : ∀ record ∈ engine.state.chain id, record.Portable)
    (shows : ∀ mutation, outcome.1 = .ok mutation → engine.Shows id mutation)
    (call : ClientCall) (reads : ∀ bytes, call.question.read bytes =
      ((decodeArtifactResult bytes).map WorkerClient.trustMutation).map .trusted) :
    call.told (mutationAnswer type outcome).1 = forwardedTrust outcome.1 := by
  obtain ⟨result, next⟩ := outcome
  cases result with
  | error status => rfl
  | ok mutation =>
      show call.question.read _ = _
      rw [reads]
      exact congrArg (Except.map ClientAnswer.trusted)
        (trustMutation_told id portable (shows mutation rfl))

theorem withAuthority_performed {α : Type} {decode : ByteBuffer → Result α}
    {arm : α → Result Answer × Engine} {payload : α}
    (current : requireCurrentAuthority server.engine request = .ok ())
    (decoded : decode request.payload = .ok payload) :
    server.withAuthority request decode arm =
      ((arm payload).1, { server with engine := (arm payload).2 }) := by
  unfold withAuthority
  rw [current]
  dsimp only
  rw [decoded]

theorem handleFrame_quarantine (typed : request.type = .quarantineRequest) :
    server.handleFrame circumstances request =
      server.withAuthority request decodeTrust fun payload => mutationAnswer .quarantineResponse
        (server.engine.quarantine payload.artifact payload.reasonClass payload.detail
          server.engine.state.authority) := by
  unfold handleFrame
  rw [typed]

theorem handleFrame_revoke (typed : request.type = .revokeRequest) :
    server.handleFrame circumstances request =
      server.withAuthority request decodeTrust fun payload => mutationAnswer .revokeResponse
        (server.engine.revoke payload.artifact payload.decision payload.reasonClass payload.detail
          server.engine.state.authority {} circumstances.now) := by
  unfold handleFrame
  rw [typed]

theorem handleFrame_artifactState (typed : request.type = .artifactStateRequest) :
    server.handleFrame circumstances request =
      server.query request decodePromotionRequest (stateAnswer server.engine) := by
  unfold handleFrame
  rw [typed]

theorem state_told (showable : engine.Showable) (id : ArtifactId)
    (portable : ∀ record ∈ engine.state.chain id, record.Portable) :
    (ClientCall.artifactState id).told
        (stateAnswer engine (WorkerClient.makePromotionPayload { artifact := id })) =
      match engine.inspectArtifact id with
      | none => .error (.of .artifactNotFound (text "artifact identity is not registered"))
      | some view => .ok (.state (shownState id view)) := by
  have asked : (WorkerClient.makePromotionPayload { artifact := id }).artifact = id := rfl
  unfold stateAnswer
  rw [asked]
  cases inspected : engine.inspectArtifact id with
  | none => rfl
  | some view =>
      obtain ⟨artifact, found, shown⟩ := Option.map_eq_some_iff.mp inspected
      obtain rfl : artifact = view.artifact := by rw [← shown]
      have inside := List.mem_of_getLast? found
      obtain ⟨readable, whole⟩ := (showable.held inside).readable (portable _ inside)
      have decoded : decodeArtifactState (encodeArtifactState (shownState id view)) =
          .ok (shownState id view) := decode_encodeArtifactState readable whole
      have reads (bytes : ByteBuffer) : (ClientCall.artifactState id).question.read bytes =
          (decodeArtifactState bytes).map .state := rfl
      show (ClientCall.artifactState id).question.read (encodeArtifactState (shownState id view)) = _
      rw [reads, decoded]
      rfl

def Refuses (server : FrameServer) (circumstances : Circumstances) (request : Frame) : Prop :=
  ∃ status, server.handleFrame circumstances request = (.error status, server)

theorem withAuthority_refuses {α : Type} {decode : ByteBuffer → Result α}
    {arm : α → Result Answer × Engine}
    (handled : server.handleFrame circumstances request = server.withAuthority request decode arm)
    (stale : requireCurrentAuthority server.engine request ≠ .ok ()) :
    Refuses server circumstances request := by
  cases required : requireCurrentAuthority server.engine request with
  | ok done => exact absurd required stale
  | error status =>
      refine ⟨status, ?_⟩
      rw [handled, withAuthority, required]

/-- A handled trust request is refused for the authority in it, or has the effect and the answer that
the operation has on the engine itself: only what the wire does not carry is missing, and a reason
class is cut to a name before the engine looks at it. -/
theorem trust_handled (showable : server.engine.Showable) {worker : WorkerClient}
    {call : ClientCall} (framed : (call.question.frame worker).1 = .ok request)
    (portable : ∀ id, call.about = some id →
      ∀ record ∈ server.engine.state.chain id, record.Portable)
    {answer : Result ClientAnswer} {next : Engine}
    (performed : call.performed server.engine circumstances.now = some (answer, next)) :
    Refuses server circumstances request ∨
      (server.handleFrame circumstances request).2.engine = next ∧
        call.told (server.handleFrame circumstances request).1 = answer := by
  have authority := em (requireCurrentAuthority server.engine request = .ok ())
  cases call with
  | quarantine id reasonClass detail =>
      obtain ⟨rfl, rfl⟩ := Prod.mk.inj (Option.some.inj performed)
      cases framed
      rcases authority with current | stale
      · right
        have decoded := decode_encodeTrust_cut { artifact := id, reasonClass, detail }
        rw [handleFrame_quarantine rfl, withAuthority_performed current decoded]
        dsimp only
        rw [quarantine_detail]
        refine ⟨rfl, mutation_told _ id (portable id rfl) ?_ (.quarantine id reasonClass detail) ?_⟩
        · intro mutation mutated
          exact quarantine_shows showable mutated
        · intro bytes
          rfl
      · exact .inl (withAuthority_refuses (handleFrame_quarantine rfl) stale)
  | revoke id reasonClass detail =>
      obtain ⟨rfl, rfl⟩ := Prod.mk.inj (Option.some.inj performed)
      cases framed
      rcases authority with current | stale
      · right
        have decoded := decode_encodeTrust_cut { artifact := id, reasonClass, detail }
        rw [handleFrame_revoke rfl, withAuthority_performed current decoded]
        dsimp only
        rw [revoke_detail]
        refine ⟨rfl, mutation_told _ id (portable id rfl) ?_ (.revoke id reasonClass detail) ?_⟩
        · intro mutation mutated
          exact revoke_shows showable mutated
        · intro bytes
          rfl
      · exact .inl (withAuthority_refuses (handleFrame_revoke rfl) stale)
  | artifactState id =>
      obtain ⟨rfl, rfl⟩ := Prod.mk.inj (Option.some.inj performed)
      cases framed
      have decoded : decodePromotionRequest (encodePromotionRequest
          (WorkerClient.makePromotionPayload { artifact := id })) =
          .ok (WorkerClient.makePromotionPayload { artifact := id }) :=
        decode_encodePromotionRequest (show Stage.invalid.toByte.toNat ≤ kStageMax by decide)
      rw [handleFrame_artifactState rfl]
      refine .inr ⟨rfl, ?_⟩
      rw [← state_told showable id (portable id rfl)]
      show (ClientCall.artifactState id).told (decodePromotionRequest (encodePromotionRequest
        (WorkerClient.makePromotionPayload { artifact := id })) >>= stateAnswer server.engine) = _
      rw [decoded]
      rfl
  | _ => cases performed

end Remote

namespace RemoteSystem

open FrameServer

variable {passage : Passage}

/-- Whatever happens in a session, a trust request or a state query either leaves the engine as it is
and fails, or has exactly the effect of the operation it stands for; then the caller is told what the
operation answers, unless the connection fails on the way back. -/
theorem session_trust {start final : RemoteSystem}
    {trace : List (Runs.Step RemoteSystem SessionMove Outcome)}
    (session : Run RemoteSystem.step start trace final) (unlinked : start.link = none)
    {executed : Runs.Step RemoteSystem SessionMove Outcome} (inside : executed ∈ trace)
    {call : ClientCall} (called : executed.input = .call call passage)
    (reachable : Reachable executed.before.server.engine)
    (portable : ∀ id, call.about = some id →
      ∀ record ∈ executed.before.server.engine.state.chain id, record.Portable)
    {answer : Result ClientAnswer} {next : Engine}
    (performed : call.performed executed.before.server.engine passage.circumstances.now =
      some (answer, next)) :
    executed.after.server.engine = executed.before.server.engine ∧
        (∃ status, executed.output.result = .error status) ∨
      executed.after.server.engine = next ∧ (executed.output.result = answer ∨
        ∃ status, executed.output.result = .error status ∧ status.Transport) := by
  obtain ⟨past, future, rfl⟩ := List.append_of_mem inside
  obtain ⟨earlier, moved, _⟩ := session.cut
  have fresh : start.Greeted := by
    intro connection linked
    rw [unlinked] at linked
    cases linked
  have greeted : executed.before.Greeted :=
    earlier.invariant Greeted (fun _ _ _ _ => step_greeted) fresh
  rw [called] at moved
  have ended := @call_ends _ passage call greeted
  rw [show executed.before.call call passage = (executed.output, executed.after) from
    Option.some.inj moved] at ended
  have showable := Engine.reachable_showable reachable
  cases ended with
  | unsent status _ told _ same => exact .inl ⟨by rw [same], status, told⟩
  | repeated _ _ _ _ _ told _ same => exact .inl ⟨by rw [same], _, told⟩
  | lost request status framed told transport applied =>
      rcases applied with ⟨_, same⟩ | ⟨_, same⟩
      · exact .inl ⟨congrArg FrameServer.engine same, status, told⟩
      rcases trust_handled showable framed portable performed with ⟨_, refused⟩ | ⟨effect, _⟩
      · rw [refused] at same
        exact .inl ⟨congrArg FrameServer.engine same, status, told⟩
      · exact .inr ⟨(congrArg FrameServer.engine same).trans effect, .inr ⟨status, told, transport⟩⟩
  | answered request connection reply framed _ _ handling _ told =>
      have replied := congrArg Prod.fst handling
      have after := congrArg (fun outcome => outcome.2.engine) handling
      dsimp only at replied after
      rcases trust_handled showable framed portable performed with
        ⟨status, refused⟩ | ⟨effect, answers⟩
      · rw [refused] at replied after
        subst replied
        exact .inl ⟨after.symm, _, told⟩
      · rw [replied] at answers
        exact .inr ⟨after.symm.trans effect, .inl (told.trans answers)⟩

theorem handleFrame_hello {server : FrameServer} {circumstances : Circumstances} {request : Frame}
    (typed : request.type = .helloRequest) :
    (server.handleFrame circumstances request).2.engine = server.engine := by
  unfold handleFrame
  rw [typed]
  dsimp only
  split
  · rfl
  · rfl

theorem connect_engine (system : RemoteSystem) (attempts : List ConnectAttempt) :
    (system.connect attempts passage).2.server.engine = system.server.engine := by
  unfold connect
  split
  · rfl
  split
  · rfl
  · have greets := system.session.worker.helloFrame_sendable
    have ends := @exchanged_cases { system with
      session := system.session.dialled, link := some {} } passage
      system.session _ greets rfl nofun
    have applied : Applied system.server passage.circumstances system.session.worker.helloFrame
        (RemoteSystem.exchanged { system with session := system.session.dialled, link := some {} }
          passage system.session.worker.helloFrame) := by
      rcases ends with ⟨_, applied⟩ | ⟨_, _, _, _, _, served, _⟩
      · exact applied
      · exact served_applied served
    rcases applied with ⟨_, same⟩ | ⟨_, same⟩
    · exact congrArg FrameServer.engine same
    · exact (congrArg FrameServer.engine same).trans (handleFrame_hello rfl)

def servedBy (engine : Engine) : RemoteSystem :=
  { restingSystem with server := { engine } }

def enrollingChoices : List (Engine → Op) :=
  [fun _ => .publishPolicy Engine.releasingPolicy,
    fun _ => .registerArtifact (Engine.sampleRegistration 1) 0]

def wordyClass : Text := List.replicate 200 97

/-- The sample artifact is registered without provenance. The engine refuses to quarantine it for so
long a reason class, and does for the part that is sent. -/
def quarantinable (engine : Engine) : Bool :=
  let quarantined (reasonClass : Text) :=
    (engine.quarantine ⟨0, 5⟩ reasonClass [] engine.state.authority).1.toBool
  (engine.state.chain ⟨0, 5⟩).length == 1 &&
    (engine.state.chain ⟨0, 5⟩).all (fun record => record.provenance.isEmpty) &&
    !quarantined wordyClass && quarantined (wordyClass.take kMaxNameLength)

theorem session_trust_quarantines :
    ∃ (engine : Engine) (connected quarantined : Outcome × RemoteSystem),
      Reachable engine ∧ quarantinable engine = true ∧
        (servedBy engine).connect [.established] clearPassage = connected ∧
        connected.2.call (.quarantine ⟨0, 5⟩ wordyClass []) clearPassage = quarantined ∧
        (quarantined.2.server.engine = connected.2.server.engine ∧
            (∃ status, quarantined.1.result = .error status) ∨
          quarantined.2.server.engine = (connected.2.server.engine.quarantine ⟨0, 5⟩
              (wordyClass.take kMaxNameLength) [] connected.2.server.engine.state.authority).2 ∧
            (quarantined.1.result = forwardedTrust (connected.2.server.engine.quarantine ⟨0, 5⟩
                (wordyClass.take kMaxNameLength) [] connected.2.server.engine.state.authority).1 ∨
              ∃ status, quarantined.1.result = .error status ∧ status.Transport)) := by
  have evaluated : ((play Engine.step Engine.sampleEngine enrollingChoices).any fun played =>
      quarantinable played.2) = true := by
    decide +kernel
  obtain ⟨engine, reachable, registered⟩ :=
    Reachable.of_play quarantinable Engine.sampleEngine_constructed evaluated
  obtain ⟨connected, dialled⟩ : ∃ connected,
      (servedBy engine).connect [.established] clearPassage = connected := ⟨_, rfl⟩
  obtain ⟨quarantined, asked⟩ : ∃ quarantined,
      connected.2.call (.quarantine ⟨0, 5⟩ wordyClass []) clearPassage = quarantined := ⟨_, rfl⟩
  have first := step_connect (servedBy engine) [.established] clearPassage
  have second := step_call connected.2 (.quarantine ⟨0, 5⟩ wordyClass []) clearPassage
  have served : connected.2.server.engine = engine := by
    rw [← dialled]
    exact connect_engine (servedBy engine) [.established]
  rw [dialled] at first
  rw [asked] at second
  refine ⟨engine, connected, quarantined, reachable, registered, dialled, asked,
    session_trust (.cons first (.cons second (.nil _))) rfl
      (List.mem_cons_of_mem _ List.mem_cons_self) rfl (by rw [served]; exact reachable) ?_ rfl⟩
  rintro id ⟨⟩ record inside entry listed
  rw [served] at inside
  simp only [quarantinable, Bool.and_eq_true, List.all_eq_true, List.isEmpty_iff] at registered
  rw [registered.1.1.2 record inside] at listed
  cases listed

end RemoteSystem

end ArtifactPromotion
