import ArtifactPromotion.Engine.Core

/-! Transactional promotion: evaluate a request into a decision and a plan, revalidate the plan and
commit it. -/

namespace ArtifactPromotion

structure EvaluationResult where
  decision : PromotionDecision := {}
  plan : PromotionPlan := {}
  hasPlan : Bool := false
deriving DecidableEq

structure CommitResult where
  outcome : PromotionOutcome := .invalid
  decision : PromotionDecision := {}
  record : PromotionRecord := {}
  hasRecord : Bool := false
deriving DecidableEq

def makeBaseDecision (state : CoordinatorState) (request : PromotionRequest) : PromotionDecision :=
  { request := request.request, attempt := request.attempt, artifact := request.artifact,
    artifactRevision := request.expectedRevision, artifactDigest := request.expectedDigest,
    target := request.requestedStage, policy := state.activePolicy,
    policyGeneration := state.activePolicyGeneration, policyDigest := state.activePolicyDigest,
    authority := state.authority }

def requestIsWellFormed (request : PromotionRequest) : Bool :=
  request.artifact.valid && request.expectedRevision.valid && request.expectedDigest.valid &&
    request.requestedStage != .invalid && isValidStageValue request.requestedStage.index &&
    request.request.valid && request.attempt.valid && request.authority.valid

def stageIsReachable (policy : PromotionPolicy) (kind : ArtifactKind) (source target : Stage) :
    Bool :=
  policy.graph.hasEdge source target || (policy.findRule kind source target).isSome

def CoordinatorState.openDecision (state : CoordinatorState) : CoordinatorState :=
  { state with
    decisionGenerator := state.decisionGenerator.advance
    decisionSequence := state.decisionSequence.next }

/-- The decision a request starts from, with its identity and sequence. -/
def openingDecision (state : CoordinatorState) (request : PromotionRequest) : PromotionDecision :=
  { makeBaseDecision state request with
    id := state.decisionGenerator.next, sequence := state.decisionSequence.next }

def CoordinatorState.storeDecision (state : CoordinatorState) (decision : PromotionDecision) :
    CoordinatorState :=
  { state with decisions := state.decisions.insert decision.id decision }

def CoordinatorState.touchDecision (state : CoordinatorState) (id : PromotionDecisionId) :
    CoordinatorState :=
  { state with decisions := state.decisions.insert id (state.decisions.getD id {}) }

/-- The plan `evaluate` derives from an eligible decision. `state` is the state after the plan's
creation sequence was allocated. -/
def makePlan (config : EngineConfig) (state : CoordinatorState) (request : PromotionRequest)
    (artifact : ArtifactRecord) (evaluation : GateEvaluation) (now : UInt64) : PromotionPlan :=
  { id := state.planGenerator.next, request := request.request, attempt := request.attempt,
    decision := evaluation.decision.id, artifact := artifact.id,
    artifactRevision := artifact.revision, artifactGeneration := artifact.generation,
    artifactDigest := artifact.digest, artifactKind := artifact.kind, source := artifact.stage,
    target := request.requestedStage, stageGeneration := artifact.stageGeneration,
    policy := state.activePolicy, policyGeneration := state.activePolicyGeneration,
    policyDigest := state.activePolicyDigest, lifecycleDigest := state.policy.graph.graphDigest,
    authority := state.authority,
    evidenceSnapshotDigest := evaluation.decision.evidenceSnapshotDigest,
    evidenceEntryCount := evaluation.entries.length.toUInt64,
    compatibilityProfile := state.compatibilityProfile,
    compatibilityGeneration := state.compatibilityGeneration,
    artifactSequence := artifact.lastSequence, createdSequence := state.commitSequence,
    decisionSequence := evaluation.decision.sequence, hasExpiry := config.planTtlMillis > 0,
    expiresUnixMillis := now + config.planTtlMillis }

def makeReservation (state : CoordinatorState) (plan : PromotionPlan) (now : UInt64) :
    PendingTransition :=
  { id := state.reservationGenerator.next, artifact := plan.artifact,
    artifactRevision := plan.artifactRevision, artifactGeneration := plan.artifactGeneration,
    stageGeneration := plan.stageGeneration, source := plan.source, target := plan.target,
    plan := plan.id, request := plan.request, attempt := plan.attempt,
    authority := plan.authority, createdSequence := plan.createdSequence,
    createdUnixMillis := now }

structure Evaluated where
  state : CoordinatorState
  decision : PromotionDecision
  plan : Option PromotionPlan := none

/-- Derives the plan and its reservation, or rejects for lack of reservation capacity. -/
def issuePlan (config : EngineConfig) (state : CoordinatorState) (request : PromotionRequest)
    (artifact : ArtifactRecord) (evaluation : GateEvaluation) (now : UInt64) : Evaluated :=
  let kept := if state.plans.size ≥ config.maxPlansRetained.toNat then eraseFirst state.plans
    else state.plans
  let state := { state with plans := kept }.advanceSequence
  let plan := makePlan config state request artifact evaluation now
  let reservation := makeReservation state plan now
  let state := { state with
    planGenerator := state.planGenerator.advance
    reservationGenerator := state.reservationGenerator.advance }
  if state.pending.size < config.maxPendingPromotions.toNat ||
      state.pending.contains artifact.id then
    { state := { state with
        pending := state.pending.insert artifact.id reservation
        plans := state.plans.insert plan.id plan }
      decision := { evaluation.decision with outcome := evaluation.result.outcome, plan := plan.id }
      plan := some plan }
  else
    { state
      decision := { evaluation.decision with outcome := .admissionRejected }.addReason
        (.of .admissionRejected
          (text "the coordinator has reached its configured bound of concurrent promotions")
          artifact.id.toText) }

def decideTransition (config : EngineConfig) (state : CoordinatorState)
    (request : PromotionRequest) (artifact : ArtifactRecord) (now : UInt64)
    (decision : PromotionDecision) : Evaluated :=
  if artifact.stage = request.requestedStage then
    if artifact.currentlyAuthoritative then
      ⟨state, { decision with outcome := .alreadyPromoted, authoritative := true }.addReason
        (.of .ok
          (text "the artifact is already promoted at the requested stage under current authority")
          artifact.stage.name), none⟩
    else
      ⟨state, { decision with outcome := .transitionIllegal, authoritative := false }.addReason
        (.of .transitionIllegal (text ("the artifact already occupies the requested stage but is " ++
          "not currently authoritative")) artifact.stage.name), none⟩
  else if !stageIsReachable state.policy artifact.kind artifact.stage request.requestedStage then
    ⟨state, { decision with outcome := .transitionIllegal }.addReason
      (.of .transitionIllegal (text "the active lifecycle graph does not permit this transition")
        (artifact.stage.name ++ text "->" ++ request.requestedStage.name)), none⟩
  else if GateContext.conflicted state request.artifact request then
    ⟨state, { decision with outcome := .conflict }.addReason
      (.of .reservationHeld
        (text "another promotion attempt holds the reservation on this artifact")
        request.artifact.toText), none⟩
  else
    let evaluation := evaluateGates config state request now decision
    if evaluation.result.failed then
      ⟨state, { evaluation.decision with outcome := evaluation.result.outcome }, none⟩
    else issuePlan config state request artifact evaluation now

def idempotencyRecord (request : PromotionRequest) (decision : PromotionDecision) :
    IdempotencyRecord :=
  { request := request.request, attempt := request.attempt, decision := decision.id,
    outcome := decision.outcome, plan := decision.plan,
    requestDigest := computeRequestDigest request, createdSequence := ⟨decision.sequence.value⟩ }

/-- Stores the decision and its idempotency record, and appends the history event. -/
def CoordinatorState.settle (state : CoordinatorState) (config : EngineConfig)
    (request : PromotionRequest) (artifact : ArtifactRecord) (decision : PromotionDecision) :
    CoordinatorState :=
  let state := state.storeDecision decision
  let state := { state with
    idempotency := state.idempotency.insert request.request
      (idempotencyRecord request decision) }.advanceSequence
  state.recordEvent config
    { sequence := state.commitSequence,
      kind := if decision.succeeded then .promotionEvaluated else .promotionRejected,
      artifact := artifact.id, artifactRevision := artifact.revision, decision := decision.id,
      outcome := decision.outcome, source := artifact.stage, target := request.requestedStage,
      authority := decision.authority, note := text "decision " ++ decision.outcome.name }

namespace Engine

def evaluateFresh (engine : Engine) (request : PromotionRequest) (now : UInt64) :
    Result EvaluationResult × Engine :=
  let state := engine.state.openDecision
  let decision := openingDecision engine.state request
  match engine.state.findRevision request.artifact request.expectedRevision with
  | none =>
      let decision := { decision with outcome := .artifactNotFound }.addReason
        (.of .artifactNotFound (text "the requested artifact revision is not registered")
          request.artifact.toText)
      (.ok { decision }, engine.dirty (state.storeDecision decision))
  | some artifact =>
      let decision := { decision with
        artifactGeneration := artifact.generation, artifactKind := artifact.kind,
        source := artifact.stage }
      if artifact.digest ≠ request.expectedDigest then
        let decision := { decision with outcome := .digestMismatch }.addReason
          (.of .digestMismatch (text ("the caller's expected digest does not match the " ++
            "registered artifact revision")) request.expectedDigest.toText)
        (.ok { decision }, engine.dirty (state.storeDecision decision))
      else
        let evaluated := decideTransition engine.config state request artifact now
          { decision with decidedUnixMillis := some now }
        (.ok { decision := evaluated.decision, plan := evaluated.plan.getD {},
               hasPlan := evaluated.plan.isSome },
          engine.dirty (evaluated.state.settle engine.config request artifact evaluated.decision))

def evaluate (engine : Engine) (request : PromotionRequest) (now : UInt64) :
    Result EvaluationResult × Engine :=
  if !engine.admissionOpen then engine.shuttingDown
  else if !requestIsWellFormed request then
    engine.refuse .invalidArgument "promotion request is not well formed"
  else
    match engine.state.idempotency[request.request]? with
    | none => engine.evaluateFresh request now
    | some record =>
        if record.requestDigest ≠ computeRequestDigest request then
          engine.refuse .conflict
            "this request identity was already used for different request content"
        else
          match engine.state.decisions[record.decision]? with
          | some decision => (.ok { decision }, engine)
          | none => engine.evaluateFresh request now

def requestOfPlan (plan : PromotionPlan) : PromotionRequest :=
  { artifact := plan.artifact, expectedRevision := plan.artifactRevision,
    expectedDigest := plan.artifactDigest, requestedStage := plan.target, request := plan.request,
    attempt := plan.attempt, authority := plan.authority }

/-- Stores the decision of a refused commit; `released` frees the artifact's reservation. -/
def closeCommit (engine : Engine) (plan : PromotionPlan) (outcome : PromotionOutcome)
    (decision : PromotionDecision) (released : Bool) : Result CommitResult × Engine :=
  let state := { engine.state with
    decisions := engine.state.decisions.insert plan.decision decision }
  let state := if released then state.releasePending plan.artifact else state
  (.ok { outcome, decision }, engine.dirty state)

def promotedArtifact (state : CoordinatorState) (plan : PromotionPlan)
    (artifact : ArtifactRecord) : ArtifactRecord :=
  let moved := { artifact with
    stage := plan.target, stageGeneration := artifact.stageGeneration.next,
    lastSequence := state.commitSequence }
  if plan.target = .promoted then
    { moved with
      promoted := true, promotionDecision := plan.decision,
      promotionAuthority := state.stampAuthority, promotionSequence := state.commitSequence }
  else moved

def commitRecord (state : CoordinatorState) (plan : PromotionPlan) (source : Stage)
    (now : UInt64) : PromotionRecord :=
  { transition := state.transitionGenerator.next, artifact := plan.artifact,
    artifactRevision := plan.artifactRevision, artifactDigest := plan.artifactDigest, source,
    target := plan.target, decision := plan.decision, plan := plan.id, request := plan.request,
    attempt := plan.attempt, policy := plan.policy, policyGeneration := plan.policyGeneration,
    authority := plan.authority, evidenceSnapshotDigest := plan.evidenceSnapshotDigest,
    sequence := state.commitSequence, committedUnixMillis := now
    note := text "committed " ++ source.name ++ text " -> " ++ plan.target.name }

/-- The bounded decision store of a commit: a full map that does not hold the key loses its
smallest entry first. -/
def keepDecision (config : EngineConfig) (state : CoordinatorState) (plan : PromotionPlan)
    (decision : PromotionDecision) : CoordinatorState :=
  let kept := if state.decisions.size ≥ config.maxDecisionsRetained.toNat &&
      !state.decisions.contains plan.decision then eraseFirst state.decisions else state.decisions
  { state with decisions := kept.insert plan.decision decision }

def committedIdempotency (idempotency : OrderedMap PromotionRequestId IdempotencyRecord)
    (plan : PromotionPlan) : OrderedMap PromotionRequestId IdempotencyRecord :=
  match idempotency[plan.request]? with
  | none => idempotency
  | some record =>
      idempotency.insert plan.request
        { record with outcome := .promotionCommitted, decision := plan.decision }

def markCommitted (state : CoordinatorState) (plan : PromotionPlan) : CoordinatorState :=
  { state with idempotency := committedIdempotency state.idempotency plan }

def recordTransition (config : EngineConfig) (state : CoordinatorState) (plan : PromotionPlan)
    (artifact : ArtifactRecord) (record : PromotionRecord) : CoordinatorState :=
  let state := state.replaceRevision plan.artifact plan.artifactRevision
    (promotedArtifact state plan artifact)
  { state with transitionGenerator := state.transitionGenerator.advance }.storeRecord config record

/-- The committing branch: the transition, its record, the decision, the idempotency outcome, the
released reservation and the history event. -/
def applyCommit (engine : Engine) (plan : PromotionPlan) (artifact : ArtifactRecord)
    (decision : PromotionDecision) (now : UInt64) : Result CommitResult × Engine :=
  let state := engine.state.advanceSequence
  let record := commitRecord state plan artifact.stage now
  let decision := { decision with
    outcome := .promotionCommitted, authoritative := plan.target == .promoted,
    decidedUnixMillis := some now }
  let state := recordTransition engine.config state plan artifact record
  let state := keepDecision engine.config state plan decision
  let state := (markCommitted state plan).releasePending plan.artifact
  let state := state.recordEvent engine.config
    { sequence := record.sequence,
      kind := if plan.target = .promoted then .promotionCommitted else .promotionEvaluated,
      artifact := record.artifact, artifactRevision := record.artifactRevision,
      decision := record.decision, outcome := .promotionCommitted, source := record.source,
      target := plan.target, authority := record.authority, note := record.note }
  (.ok { outcome := .promotionCommitted, decision, record, hasRecord := true },
    engine.dirty state)

/-- `commit` once the reservation is known to name the plan: revalidate, then apply. -/
def revalidate (engine : Engine) (plan : PromotionPlan) (artifact : ArtifactRecord)
    (decision : PromotionDecision) (now : UInt64) : Result CommitResult × Engine :=
  let evaluation := evaluateGates engine.config engine.state (requestOfPlan plan) now decision
  let current := computeSnapshotDigest artifact.id artifact.revision artifact.digest
    evaluation.entries
  if current ≠ plan.evidenceSnapshotDigest then
    engine.closeCommit plan .invalid
      ({ evaluation.decision with outcome := .revalidationRequired }.addReason
        (.of .evidenceMismatch (text ("the evidence set changed after the plan was issued and " ++
          "the plan must be revalidated")) plan.id.toText)) true
  else if evaluation.result.failed then
    engine.closeCommit plan evaluation.result.outcome
      { evaluation.decision with
        outcome := evaluation.result.outcome, decidedUnixMillis := some now } true
  else if artifact.stage = plan.target then
    engine.closeCommit plan .alreadyPromoted
      { evaluation.decision with
        outcome := .alreadyPromoted, authoritative := artifact.currentlyAuthoritative } true
  else engine.applyCommit plan artifact evaluation.decision now

def policyMoved (state : CoordinatorState) (plan : PromotionPlan) : Bool :=
  state.policy.policyDigest != plan.policyDigest ||
    state.activePolicyGeneration != plan.policyGeneration ||
    state.policy.graph.graphDigest != plan.lifecycleDigest

def stalePolicyText (state : CoordinatorState) (plan : PromotionPlan) : Text :=
  if state.policy.policyDigest != plan.policyDigest ||
      state.activePolicyGeneration != plan.policyGeneration then
    text ("the governing policy changed after this plan was derived; the plan must be re-derived " ++
      "under the current policy before it can commit")
  else
    text ("the lifecycle graph changed after this plan was derived; the plan must be re-derived " ++
      "under the current policy before it can commit")

/-- The stale-policy exit: it does not count as a mutation for persistence. -/
def closeStale (engine : Engine) (plan : PromotionPlan) : Result CommitResult × Engine :=
  let held := engine.state.decisions.getD plan.decision {}
  let stale := { held with outcome := .conflict }.addReason
    (.of .policyGenerationStale (stalePolicyText engine.state plan) plan.id.toText)
  let state := { engine.state with
    decisions := engine.state.decisions.insert plan.decision stale }
  (.ok { outcome := .conflict }, { engine with state := state.releasePending plan.artifact })

def holdsReservation (state : CoordinatorState) (plan : PromotionPlan) : Bool :=
  match state.pending[plan.artifact]? with
  | none => false
  | some reservation => reservation.plan == plan.id

def expired (plan : PromotionPlan) (now : UInt64) : Bool :=
  plan.hasExpiry && now > plan.expiresUnixMillis

def commitStored (engine : Engine) (plan : PromotionPlan) (now : UInt64) :
    Result CommitResult × Engine :=
  let decision := engine.state.decisions.getD plan.decision {}
  let engine := { engine with state := engine.state.touchDecision plan.decision }
  match engine.state.findRevision plan.artifact plan.artifactRevision with
  | none => (.ok { outcome := .artifactNotFound, decision }, engine)
  | some artifact =>
      if expired plan now then
        engine.closeCommit plan .revalidationRequired
          ({ decision with outcome := .revalidationRequired }.addReason
            (.of .planExpired (text "the promotion plan expired before it was committed")
              plan.id.toText)) true
      else if !holdsReservation engine.state plan then
        engine.closeCommit plan .conflict
          ({ decision with outcome := .conflict }.addReason
            (.of .reservationLost (text "the reservation for this transition is no longer held")
              plan.id.toText)) false
      else engine.revalidate plan artifact decision now

def commit (engine : Engine) (plan : PromotionPlan) (now : UInt64) :
    Result CommitResult × Engine :=
  if !engine.admissionOpen then engine.shuttingDown
  else if !plan.valid then
    engine.refuse .invalidArgument "promotion plan is not well formed"
  else
    match engine.state.plans[plan.id]? with
    | none =>
        engine.refuse .planNotFound "the plan was never issued by this coordinator" plan.id.toText
    | some stored =>
        if stored ≠ plan then
          engine.refuse .invariantViolation
            "the submitted plan does not match the plan this coordinator issued" plan.id.toText
        else if policyMoved engine.state plan then engine.closeStale plan
        else engine.commitStored plan now

/-- `promote`: evaluate, then commit the plan if one was issued. `now` and `later` are the two
clock readings. -/
def promote (engine : Engine) (request : PromotionRequest) (now later : UInt64) :
    Result CommitResult × Engine :=
  match engine.evaluate request now with
  | (.error status, next) => (.error status, next)
  | (.ok evaluated, next) =>
      if !evaluated.hasPlan then
        (.ok { outcome := evaluated.decision.outcome, decision := evaluated.decision }, next)
      else next.commit evaluated.plan later

end Engine

end ArtifactPromotion
