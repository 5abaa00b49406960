import ArtifactPromotion.Engine.Promotion

/-! Quarantine, revocation, supersession, retirement, evidence revocation and vetoes. -/

namespace ArtifactPromotion

structure TrustMutation where
  outcome : PromotionOutcome := .invalid
  artifact : ArtifactRecord := {}
  record : PromotionRecord := {}
  hasRecord : Bool := false
  reasons : List Reason := []
deriving DecidableEq

def CoordinatorState.appendHistory (state : CoordinatorState) (config : EngineConfig)
    (kind : HistoryEventKind) (artifact : ArtifactRecord) (source target : Stage) (note : Text) :
    CoordinatorState :=
  let state := state.advanceSequence
  state.recordEvent config
    { sequence := state.commitSequence, kind, artifact := artifact.id,
      artifactRevision := artifact.revision, source, target, authority := state.authority, note }

def trustRecord (state : CoordinatorState) (artifact : ArtifactRecord) (source target : Stage)
    (decision : PromotionDecisionId) (now : UInt64) (note : Text) : PromotionRecord :=
  { transition := state.transitionGenerator.next, artifact := artifact.id,
    artifactRevision := artifact.revision, artifactDigest := artifact.digest, source, target,
    decision, policy := state.activePolicy, policyGeneration := state.activePolicyGeneration,
    authority := state.authority, evidenceSnapshotDigest := artifact.digest,
    sequence := artifact.lastSequence, committedUnixMillis := now, note }

namespace Engine

def answer (engine : Engine) (outcome : PromotionOutcome) (artifact : ArtifactRecord)
    (code : ErrorCode) (message : String) : Result TrustMutation × Engine :=
  (.ok { outcome, artifact, reasons := [.of code (text message)] }, engine)

def foreignAuthority (state : CoordinatorState) (authority : CoordinatorAuthority) : Bool :=
  authority.valid && authority.coordinator != state.coordinator

def quarantinedArtifact (state : CoordinatorState) (artifact : ArtifactRecord)
    (reasonClass detail : Text) : ArtifactRecord :=
  { artifact with
    quarantine :=
      { active := true, reasonClass, detail := boundedText detail kMaxTextLength,
        authority := state.stampAuthority, sequence := state.commitSequence,
        policyGeneration := state.activePolicyGeneration }
    lastSequence := state.commitSequence, stage := .quarantined,
    stageGeneration := artifact.stageGeneration.next }

def quarantine (engine : Engine) (id : ArtifactId) (reasonClass detail : Text)
    (authority : CoordinatorAuthority) : Result TrustMutation × Engine :=
  if !isValidName reasonClass then
    engine.refuse .invalidName "quarantine reason class is empty, too long, or malformed"
  else if foreignAuthority engine.state authority then
    engine.refuse .staleCoordinatorEpoch "quarantine authority names a different coordinator"
  else if !engine.admissionOpen then engine.shuttingDown
  else
    match engine.state.findCurrent id with
    | none => engine.refuse .artifactNotFound "artifact identity is not registered" id.toText
    | some artifact =>
        if artifact.quarantine.active then
          engine.answer .quarantined artifact .artifactQuarantined
            "artifact is already quarantined"
        else if artifact.stage = .revoked || artifact.stage = .retired then
          engine.answer .revoked artifact .artifactRevoked
            "a revoked or retired artifact cannot be quarantined"
        else if !engine.state.policy.graph.hasEdge artifact.stage .quarantined then
          engine.refuse .transitionIllegal "the active lifecycle graph forbids this quarantine"
            artifact.stage.name
        else
          let state := engine.state.advanceSequence
          let held := quarantinedArtifact state artifact reasonClass detail
          let state := ((state.replaceCurrent id held).releasePending id).appendHistory
            engine.config .quarantined held artifact.stage .quarantined
            (text "quarantine: " ++ reasonClass)
          (.ok { outcome := .quarantined, artifact := held,
                 reasons := [.of .artifactQuarantined (text "artifact quarantined")] },
            engine.dirty state)

def releaseRequest (state : CoordinatorState) (id : ArtifactId) (artifact : ArtifactRecord) :
    PromotionRequest :=
  { artifact := id, expectedRevision := artifact.revision, expectedDigest := artifact.digest,
    requestedStage := .candidate, request := state.internalRequestGenerator.next,
    attempt := state.internalAttemptGenerator.next, authority := state.authority }

def releaseDecision (state : CoordinatorState) (id : ArtifactId) (artifact : ArtifactRecord)
    (request : PromotionRequest) : PromotionDecision :=
  { id := state.decisionGenerator.next, request := request.request, attempt := request.attempt,
    artifact := id, artifactRevision := artifact.revision,
    artifactGeneration := artifact.generation, artifactDigest := artifact.digest,
    artifactKind := artifact.kind, source := artifact.stage, target := .candidate,
    policy := state.activePolicy, policyGeneration := state.activePolicyGeneration,
    policyDigest := state.activePolicyDigest, authority := request.authority,
    sequence := state.decisionSequence.next }

def releasedArtifact (state : CoordinatorState) (artifact : ArtifactRecord) : ArtifactRecord :=
  { artifact with
    quarantine := { artifact.quarantine with active := false }, stage := .candidate,
    stageGeneration := artifact.stageGeneration.next, lastSequence := state.commitSequence }

def releaseRecord (state : CoordinatorState) (artifact : ArtifactRecord)
    (request : PromotionRequest) (decision : PromotionDecision) (later : UInt64) :
    PromotionRecord :=
  { transition := state.transitionGenerator.next, artifact := artifact.id,
    artifactRevision := artifact.revision, artifactDigest := artifact.digest,
    source := artifact.stage, target := .candidate, decision := decision.id,
    request := request.request, attempt := request.attempt, policy := state.activePolicy,
    policyGeneration := state.activePolicyGeneration, authority := request.authority,
    evidenceSnapshotDigest := decision.evidenceSnapshotDigest,
    sequence := state.commitSequence, committedUnixMillis := later
    note := text "quarantine released; artifact returned to CANDIDATE for full re-evaluation" }

/-- The granted release: the artifact returns to CANDIDATE for full re-evaluation. -/
def applyRelease (engine : Engine) (state : CoordinatorState) (id : ArtifactId)
    (artifact : ArtifactRecord) (request : PromotionRequest) (decision : PromotionDecision)
    (later : UInt64) : Result TrustMutation × Engine :=
  let state := state.advanceSequence
  let released := releasedArtifact state artifact
  let record := releaseRecord state artifact request decision later
  let state := state.replaceCurrent id released
  let state := { state with transitionGenerator := state.transitionGenerator.advance }
  let state := (state.storeRecord engine.config record).appendHistory engine.config
    .quarantineReleased released artifact.stage .candidate record.note
  (.ok { outcome := .promotionCommitted, artifact := released, record, hasRecord := true },
    engine.dirty state)

def releaseQuarantine (engine : Engine) (id : ArtifactId) (authority : CoordinatorAuthority)
    (now later : UInt64) : Result TrustMutation × Engine :=
  if !engine.admissionOpen then engine.shuttingDown
  else
    match engine.state.findCurrent id with
    | none => engine.refuse .artifactNotFound "artifact identity is not registered" id.toText
    | some artifact =>
        if !artifact.quarantine.active then
          engine.answer .promotionIneligible artifact .invalidArgument "artifact is not quarantined"
        else if foreignAuthority engine.state authority then
          engine.refuse .staleCoordinatorEpoch "release authority names a different coordinator"
        else
          let request := releaseRequest engine.state id artifact
          let opening := releaseDecision engine.state id artifact request
          let state := { engine.state.openDecision with
            internalRequestGenerator := engine.state.internalRequestGenerator.advance
            internalAttemptGenerator := engine.state.internalAttemptGenerator.advance }
          let evaluation := evaluateGates engine.config state request now opening
          let decision := { evaluation.decision with
            outcome := evaluation.result.outcome, decidedUnixMillis := some now
            evidenceSnapshotDigest := computeSnapshotDigest artifact.id artifact.revision
              artifact.digest evaluation.entries }
          let state := state.storeDecision decision
          if evaluation.result.failed then
            (.ok { outcome := decision.outcome, artifact, reasons := decision.reasons },
              engine.dirty state)
          else engine.applyRelease state id artifact request decision later

def revokedArtifact (state : CoordinatorState) (artifact : ArtifactRecord)
    (decision : PromotionDecisionId) (reasonClass detail : Text) (cause : EvidenceId) :
    ArtifactRecord :=
  { artifact with
    revocation :=
      { active := true, decision, reasonClass, detail := boundedText detail kMaxTextLength,
        authority := state.stampAuthority, sequence := state.commitSequence,
        policyGeneration := state.activePolicyGeneration, cause }
    lastSequence := state.commitSequence, promoted := false, stage := .revoked,
    stageGeneration := artifact.stageGeneration.next }

/-- The common tail of revoke, supersede and retire: the changed revision is stored, its
reservation dropped, and the transition recorded. -/
def applyTrust (engine : Engine) (state : CoordinatorState) (id : ArtifactId)
    (changed : ArtifactRecord) (source : Stage) (decision : PromotionDecisionId) (now : UInt64)
    (note : Text) (kind : HistoryEventKind) (outcome : PromotionOutcome) :
    Result TrustMutation × Engine :=
  let record := trustRecord state changed source changed.stage decision now note
  let state := (state.replaceCurrent id changed).releasePending id
  let state := { state with transitionGenerator := state.transitionGenerator.advance }
  let state := (state.storeRecord engine.config record).appendHistory engine.config kind changed
    source changed.stage note
  (.ok { outcome, artifact := changed, record, hasRecord := true }, engine.dirty state)

def revoke (engine : Engine) (id : ArtifactId) (decision : PromotionDecisionId)
    (reasonClass detail : Text) (authority : CoordinatorAuthority) (cause : EvidenceId)
    (now : UInt64) : Result TrustMutation × Engine :=
  if !isValidName reasonClass then
    engine.refuse .invalidName "revocation reason class is empty, too long, or malformed"
  else if !engine.admissionOpen then engine.shuttingDown
  else
    match engine.state.findCurrent id with
    | none => engine.refuse .artifactNotFound "artifact identity is not registered" id.toText
    | some artifact =>
        if artifact.revocation.active then
          engine.answer .revoked artifact .artifactRevoked "artifact authority is already revoked"
        else if foreignAuthority engine.state authority then
          engine.refuse .staleCoordinatorEpoch "revocation authority names a different coordinator"
        else if decision.invalid && (!artifact.promoted || artifact.promotionDecision.invalid) then
          engine.answer .revoked artifact .artifactRevoked
            "artifact holds no promotion authority to revoke and no decision was named"
        else
          let target := if decision.invalid then artifact.promotionDecision else decision
          if !engine.state.decisions.contains target then
            engine.refuse .decisionNotFound
              "the named promotion decision is not held by this coordinator" target.toText
          else if cause.valid && !engine.state.evidence.contains cause then
            engine.refuse .evidenceNotFound "the named revocation cause evidence is not held"
              cause.toText
          else
            let state := engine.state.advanceSequence
            engine.applyTrust state id
              (revokedArtifact state artifact target reasonClass detail cause) artifact.stage target
              now (text "revocation: " ++ reasonClass) .revoked .revoked

def supersededArtifact (state : CoordinatorState) (artifact successor : ArtifactRecord)
    (successorId : ArtifactId) (reason : Text) : ArtifactRecord :=
  { artifact with
    supersession :=
      { active := true, successor := successorId, successorRevision := successor.revision,
        reason := boundedText reason kMaxTextLength, authority := state.stampAuthority,
        sequence := state.commitSequence }
    lastSequence := state.commitSequence, stage := .superseded,
    stageGeneration := artifact.stageGeneration.next, promoted := false }

def supersede (engine : Engine) (id successor : ArtifactId) (reason : Text)
    (authority : CoordinatorAuthority) (now : UInt64) : Result TrustMutation × Engine :=
  if !engine.admissionOpen then engine.shuttingDown
  else if successor.invalid then
    engine.refuse .invalidIdentity "superseding artifact identity is the invalid sentinel"
  else if successor = id then
    engine.refuse .invalidArgument "an artifact cannot supersede itself"
  else
    match engine.state.findCurrent id with
    | none => engine.refuse .artifactNotFound "artifact identity is not registered" id.toText
    | some artifact =>
        match engine.state.findCurrent successor with
        | none =>
            engine.refuse .artifactNotFound "the superseding artifact is not registered"
              successor.toText
        | some successorRecord =>
            if foreignAuthority engine.state authority then
              engine.refuse .staleCoordinatorEpoch
                "supersession authority names a different coordinator"
            else if artifact.supersession.active then
              engine.answer .superseded artifact .artifactSuperseded
                "artifact is already superseded"
            else if artifact.stage = .revoked || artifact.stage = .retired then
              engine.answer .superseded artifact .artifactSuperseded
                "a revoked or retired artifact cannot be superseded"
            else if !engine.state.policy.graph.hasEdge artifact.stage .superseded then
              engine.refuse .transitionIllegal
                "the active lifecycle graph forbids superseding an artifact in this stage"
                artifact.stage.name
            else
              let state := engine.state.advanceSequence
              engine.applyTrust state id
                (supersededArtifact state artifact successorRecord successor reason) artifact.stage
                artifact.promotionDecision now (text "superseded by " ++ successor.toText)
                .superseded .superseded

def retiredArtifact (state : CoordinatorState) (artifact : ArtifactRecord) : ArtifactRecord :=
  { artifact with
    promoted := false, stage := .retired, stageGeneration := artifact.stageGeneration.next,
    lastSequence := state.commitSequence }

def retire (engine : Engine) (id : ArtifactId) (authority : CoordinatorAuthority) (now : UInt64) :
    Result TrustMutation × Engine :=
  if !engine.admissionOpen then engine.shuttingDown
  else
    match engine.state.findCurrent id with
    | none => engine.refuse .artifactNotFound "artifact identity is not registered" id.toText
    | some artifact =>
        if foreignAuthority engine.state authority then
          engine.refuse .staleCoordinatorEpoch "retirement authority names a different coordinator"
        else if artifact.stage = .retired then
          engine.answer .promotionIneligible artifact .invalidArgument "artifact is already retired"
        else if !engine.state.policy.graph.hasEdge artifact.stage .retired then
          engine.refuse .transitionIllegal "the active lifecycle graph forbids retirement"
            artifact.stage.name
        else
          let state := engine.state.advanceSequence
          engine.applyTrust state id (retiredArtifact state artifact) artifact.stage
            artifact.promotionDecision now (text "retired") .retired .promotionCommitted

def revokedEvidence (state : CoordinatorState) (record : EvidenceRecord) (reason : Text) :
    EvidenceRecord :=
  let revoked := { record with
    revoked := true, revocationReason := boundedText reason kMaxTextLength,
    revocationAuthority := state.stampAuthority, revocationSequence := state.commitSequence }
  { revoked with integrityDigest := computeEvidenceIntegrity revoked }

/-- Drops every reservation bound to the record's artifact revision. -/
def fencePending (pending : OrderedMap ArtifactId PendingTransition) (record : EvidenceRecord) :
    OrderedMap ArtifactId PendingTransition :=
  pending.filter fun _ held =>
    !(held.artifact == record.subject && held.artifactRevision == record.subjectRevision)

def revokeEvidence (engine : Engine) (id : EvidenceId) (reason : Text)
    (authority : CoordinatorAuthority) : Result TrustMutation × Engine :=
  if !engine.admissionOpen then engine.shuttingDown
  else
    match engine.state.evidence[id]? with
    | none => engine.refuse .evidenceNotFound "evidence identity is not registered" id.toText
    | some record =>
        if foreignAuthority engine.state authority then
          engine.refuse .staleCoordinatorEpoch "revocation authority names a different coordinator"
        else if record.revoked then
          engine.answer .evidenceRevoked {} .evidenceRevoked "evidence is already revoked"
        else
          let state := engine.state.advanceSequence
          let revoked := revokedEvidence state record reason
          let state := { state with
            evidence := state.evidence.insert id revoked
            pending := fencePending state.pending revoked }
          let state := state.recordEvent engine.config
            { sequence := revoked.revocationSequence, kind := .evidenceRevoked,
              artifact := revoked.subject, artifactRevision := revoked.subjectRevision,
              evidence := revoked.id, authority := state.authority
              note := text "evidence revoked: " ++ revoked.revocationReason }
          (.ok { outcome := .evidenceRevoked,
                 reasons := [.of .evidenceRevoked (text "evidence revoked")] },
            engine.dirty state)

def setVeto (engine : Engine) (id : ArtifactId) (message : String)
    (change : VetoState → VetoState) : Result Unit × Engine :=
  if id.invalid then engine.refuse .invalidIdentity message
  else
    (.ok (), engine.dirty { engine.state with
      vetoes := engine.state.vetoes.insert id (change (engine.state.vetoes.getD id {})) })

def setSecurityVeto (engine : Engine) (id : ArtifactId) (active : Bool) (reason : Text) :
    Result Unit × Engine :=
  engine.setVeto id "security veto references an invalid artifact identity" fun veto =>
    { veto with securityVeto := active, securityReason := boundedText reason kMaxTextLength }

def setDependencyVeto (engine : Engine) (id : ArtifactId) (active : Bool) (reason : Text) :
    Result Unit × Engine :=
  engine.setVeto id "dependency veto references an invalid artifact identity" fun veto =>
    { veto with dependencyVeto := active, dependencyReason := boundedText reason kMaxTextLength }

def setCompatibilityGeneration (engine : Engine) (generation : CompatibilityGeneration) :
    Result CompatibilityGeneration × Engine :=
  if !generation.valid then
    engine.refuse .invalidCount "compatibility generation must be non-zero"
  else if !(generation.value > engine.state.compatibilityGeneration.value) then
    engine.refuse .conflict "compatibility generation must advance"
  else
    (.ok generation, engine.dirty { engine.state with
      compatibilityGeneration := generation, pending := ∅ })

end Engine

end ArtifactPromotion
