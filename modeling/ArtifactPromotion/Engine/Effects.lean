import ArtifactPromotion.Engine.Runs

/-! What each operation can do to the governed part of the state. Every invariant of the
development is derived from these cases. -/

namespace ArtifactPromotion

open Runs

/-- The part of the coordinator state that decides what may be promoted and what was. -/
structure Control where
  authority : CoordinatorAuthority
  compatibility : CompatibilityGeneration
  activePolicy : PromotionPolicyId
  policyGeneration : PolicyGeneration
  policyDigest : Digest
  policy : PromotionPolicy
  artifacts : OrderedMap ArtifactId (List ArtifactRecord)
  evidence : OrderedMap EvidenceId EvidenceRecord
  plans : OrderedMap PromotionPlanId PromotionPlan
  pending : OrderedMap ArtifactId PendingTransition
  idempotency : OrderedMap PromotionRequestId IdempotencyRecord
  decisions : OrderedMap PromotionDecisionId PromotionDecision
  records : OrderedMap TransitionId PromotionRecord
  revisionGenerator : IdentityGenerator .artifactRevision
  evidenceGenerator : IdentityGenerator .evidenceId
  planGenerator : IdentityGenerator .promotionPlanId
  decisionGenerator : IdentityGenerator .promotionDecisionId
  transitionGenerator : IdentityGenerator .transitionId

def CoordinatorState.control (state : CoordinatorState) : Control :=
  ⟨state.authority, state.compatibilityGeneration, state.activePolicy,
    state.activePolicyGeneration, state.activePolicyDigest, state.policy, state.artifacts,
    state.evidence, state.plans, state.pending, state.idempotency, state.decisions, state.records,
    state.revisionGenerator, state.evidenceGenerator, state.planGenerator,
    state.decisionGenerator, state.transitionGenerator⟩

abbrev Engine.control (engine : Engine) : Control := engine.state.control

namespace Control

def chain (control : Control) (id : ArtifactId) : List ArtifactRecord := control.artifacts.getD id []

def setChain (control : Control) (id : ArtifactId) (chain : List ArtifactRecord) : Control :=
  { control with artifacts := control.artifacts.insert id chain }

def replaceCurrent (control : Control) (id : ArtifactId) (record : ArtifactRecord) : Control :=
  control.setChain id ((control.chain id).dropLast ++ [record])

def releasePending (control : Control) (id : ArtifactId) : Control :=
  { control with pending := control.pending.erase id }

/-- A decision is stored under a newly allocated identity. -/
def openDecision (control : Control) (decision : PromotionDecision) : Control :=
  { control with
    decisions := control.decisions.insert decision.id decision
    decisionGenerator := control.decisionGenerator.advance }

def setDecision (control : Control) (id : PromotionDecisionId) (decision : PromotionDecision) :
    Control :=
  { control with decisions := control.decisions.insert id decision }

def addRecord (control : Control) (bound : UInt64) (record : PromotionRecord) : Control :=
  { control with
    records := putBounded bound control.records record.transition record
    transitionGenerator := control.transitionGenerator.advance }

def setPolicy (control : Control) (policy : PromotionPolicy) : Control :=
  { control with
    activePolicy := policy.id, policyGeneration := policy.generation,
    policyDigest := policy.policyDigest, policy }

end Control

/-- A reply that is only given by an operation that went past its refusals. -/
def Reply.confirmsChange : Reply → Bool
  | .published (.ok _) | .restarted (.ok _) | .recovered _ | .registered (.ok _)
  | .submitted (.ok _) | .committed (.ok _) | .generation (.ok _) | .reloaded (.ok _) => true
  | .evaluated (.ok result) => result.hasPlan
  | _ => false

def supersededChain (state : CoordinatorState) (revision : ArtifactRevision) (id : ArtifactId)
    (chain : List ArtifactRecord) : List ArtifactRecord :=
  match chain.getLast? with
  | none => []
  | some previous => chain.dropLast ++ [Engine.supersedeByRegistration state revision previous id]

def supersededEvidence (evidence : OrderedMap EvidenceId EvidenceRecord)
    (replaced : Option (EvidenceId × EvidenceRecord)) (record : EvidenceRecord) :
    OrderedMap EvidenceId EvidenceRecord :=
  match replaced with
  | none => evidence
  | some previous =>
      evidence.insert previous.1 { previous.2 with superseded := true, supersededBy := record.id }

def Evicts {κ ν : Type} [Ord κ] [Std.TransOrd κ] (map kept : OrderedMap κ ν) : Prop :=
  kept = map ∨ kept = eraseFirst map

namespace Engine

/-- The decision `evaluate` starts from once the artifact revision is found. -/
def fullDecision (engine : Engine) (request : PromotionRequest) (artifact : ArtifactRecord)
    (now : UInt64) : PromotionDecision :=
  { openingDecision engine.state request with
    artifactGeneration := artifact.generation, artifactKind := artifact.kind,
    source := artifact.stage, decidedUnixMillis := some now }

def evaluationOf (engine : Engine) (request : PromotionRequest) (artifact : ArtifactRecord)
    (now : UInt64) : GateEvaluation :=
  evaluateGates engine.config engine.state.openDecision request now
    (engine.fullDecision request artifact now)

def planOf (engine : Engine) (request : PromotionRequest) (artifact : ArtifactRecord)
    (now : UInt64) : PromotionPlan :=
  makePlan engine.config engine.state.openDecision.advanceSequence request artifact
    (engine.evaluationOf request artifact now) now

/-- Everything `evaluate` established before it issued a plan. -/
structure Issues (engine : Engine) (request : PromotionRequest) (now : UInt64)
    (artifact : ArtifactRecord) : Prop where
  wellFormed : requestIsWellFormed request = true
  unseen : ∀ record, engine.state.idempotency[request.request]? = some record →
    engine.state.decisions[record.decision]? = none
  found : engine.state.findRevision request.artifact request.expectedRevision = some artifact
  digest : artifact.digest = request.expectedDigest
  moves : artifact.stage ≠ request.requestedStage
  free : GateContext.conflicted engine.state request.artifact request = false
  eligible : (engine.evaluationOf request artifact now).result.failed = false

/-- Everything `commit` established before it applied a plan. -/
structure Accepts (engine : Engine) (plan : PromotionPlan) (now : UInt64)
    (artifact : ArtifactRecord) : Prop where
  admitted : engine.admissionOpen = true
  wellFormed : plan.valid = true
  stored : engine.state.plans[plan.id]? = some plan
  policyCurrent : policyMoved engine.state plan = false
  found : engine.state.findRevision plan.artifact plan.artifactRevision = some artifact
  unexpired : expired plan now = false
  reserved : holdsReservation engine.state plan = true
  sameEvidence : computeSnapshotDigest artifact.id artifact.revision artifact.digest
    (snapshotEntries engine.state artifact.id artifact.revision) = plan.evidenceSnapshotDigest
  eligible : (evaluateGates engine.config engine.state (requestOfPlan plan) now
    (engine.state.decisions.getD plan.decision {})).result.failed = false
  moves : artifact.stage ≠ plan.target

/-- The revision the request names is registered with the digest it expects. -/
def Identifies (engine : Engine) (request : PromotionRequest) : Prop :=
  ∃ artifact, engine.state.findRevision request.artifact request.expectedRevision =
    some artifact ∧ artifact.digest = request.expectedDigest

def Occupies (engine : Engine) (request : PromotionRequest) : Prop :=
  ∃ artifact, engine.state.findRevision request.artifact request.expectedRevision =
    some artifact ∧ artifact.stage = request.requestedStage ∧
    artifact.currentlyAuthoritative = true

structure Opens (engine : Engine) (request : PromotionRequest) (decision : PromotionDecision)
    (result : EvaluationResult) : Prop where
  admitted : engine.admissionOpen = true
  wellFormed : requestIsWellFormed request = true
  unseen : ∀ record, engine.state.idempotency[request.request]? = some record →
    engine.state.decisions[record.decision]? = none
  answered : result.decision = decision
  known : decision.outcome ≠ .invalid
  uncommitted : decision.outcome ≠ .promotionCommitted
  merited : result.hasPlan = false → isSuccessOutcome decision.outcome = true →
    engine.Occupies request

/-- Which plans are left when a plan is derived: a full store loses its smallest identity. -/
structure MakesRoom (engine : Engine) (request : PromotionRequest) (now : UInt64)
    (kept : OrderedMap PromotionPlanId PromotionPlan) : Prop where
  evicts : Evicts engine.control.plans kept
  crowded : kept = engine.control.plans ∨ ((∃ artifact, engine.Issues request now artifact) ∧
    engine.config.maxPlansRetained.toNat ≤ engine.control.plans.size)
  forced : (∃ artifact, engine.Issues request now artifact) →
    engine.config.maxPlansRetained.toNat ≤ engine.control.plans.size →
    kept = eraseFirst engine.control.plans

structure Rewrites (engine : Engine) (plan : PromotionPlan) (decision : PromotionDecision)
    (result : CommitResult) : Prop where
  admitted : engine.admissionOpen = true
  wellFormed : plan.valid = true
  known : decision.outcome ≠ .invalid ∨
    decision = engine.control.decisions.getD plan.decision {}
  uncommitted : decision.outcome ≠ .promotionCommitted ∨
    decision = engine.control.decisions.getD plan.decision {}
  unmerited : isSuccessOutcome result.outcome = true →
    ∃ kind rule, engine.state.policy.findRule kind plan.target plan.target = some rule

end Engine

open Engine in
/-- The cases of one operation: what it established and what it did to the control state. -/
inductive Effect (before : Engine) : Op → Reply → Engine → Prop
  | idle {op reply after} (quiet : reply.confirmsChange = false)
      (same : after.control = before.control) : Effect before op reply after
  | published {policy after} (validated : policy.validate = some (.ok ()))
      (advances : policy.id = before.state.activePolicy →
        before.state.activePolicyGeneration.value < policy.generation.value)
      (changed : after.control = before.control.setPolicy
        { policy with policyDigest := policy.computeDigest }) :
      Effect before (.publishPolicy policy) (.published (.ok policy.generation)) after
  | restarted {epoch after} (advances : before.state.epoch.value < epoch.value)
      (changed : after.control = { before.control with
        authority := ⟨before.state.coordinator, epoch⟩, pending := ∅ }) :
      Effect before (.restart epoch) (.restarted (.ok epoch)) after
  | recovered {released after}
      (changed : after.control = { before.control with pending := ∅ }) :
      Effect before .recoverInFlight (.recovered released) after
  | compatibilityMoved {generation after}
      (advances : before.state.compatibilityGeneration.value < generation.value)
      (changed : after.control = { before.control with
        compatibility := generation, pending := ∅ }) :
      Effect before (.setCompatibilityGeneration generation) (.generation (.ok generation)) after
  /-- The identity was allocated and the chain entry created before the refusal. -/
  | registrationRefused {registration now status after}
      (validated : registration.validate = .ok ())
      (refused : before.config.maxArtifactRevisionsPerId.toNat ≤
          (before.state.chain registration.id).length ∨
        ∃ last, (before.state.chain registration.id).getLast? = some last)
      (changed : after.control = { before.control with
        artifacts := before.control.artifacts.insert registration.id
          (before.control.chain registration.id)
        revisionGenerator := before.control.revisionGenerator.advance }) :
      Effect before (.registerArtifact registration now) (.registered (.error status)) after
  | registered {registration now record after} (stamped : CoordinatorState)
      (validated : registration.validate = .ok ())
      (bounded : (before.state.chain registration.id).length <
        before.config.maxArtifactRevisionsPerId.toNat)
      (policyKept : stamped.policy = before.state.policy)
      (chainLength : (stamped.chain registration.id).length =
        (before.state.chain registration.id).length)
      (sequenced : stamped.commitSequence.valid = true)
      (made : record = registrationRecord stamped registration
        before.control.revisionGenerator.next now)
      (changed : after.control = { before.control with
        artifacts := before.control.artifacts.insert registration.id
          (supersededChain before.state.advanceSequence before.control.revisionGenerator.next
            registration.id (before.control.chain registration.id) ++ [record])
        revisionGenerator := before.control.revisionGenerator.advance }) :
      Effect before (.registerArtifact registration now) (.registered (.ok record)) after
  | submitted {submission subject record after}
      (validated : submission.validate = .ok ())
      (found : before.state.findRevision submission.subject submission.subjectRevision =
        some subject)
      (digest : subject.digest = submission.subjectDigest)
      (made : ∃ generation sequence, generation.valid = true ∧ sequence.valid = true ∧
        record = submissionRecord submission before.control.evidenceGenerator.next generation
          sequence)
      (changed : after.control = { before.control with
        evidence := (supersededEvidence before.control.evidence
          (currentEvidence before.state submission) record).insert record.id record
        evidenceGenerator := before.control.evidenceGenerator.advance }) :
      Effect before (.submitEvidence submission) (.submitted (.ok record)) after
  /-- The revision is unknown or has another digest: only the decision is stored. -/
  | undecided {request now result decision after}
      (named : decision.id = before.control.decisionGenerator.next)
      (opens : before.Opens request decision result)
      (planless : result.hasPlan = false ∧ ¬before.Identifies request)
      (changed : after.control = before.control.openDecision decision) :
      Effect before (.evaluate request now) (.evaluated (.ok result)) after
  | decided {request now result decision kept generator after}
      (identifies : before.Identifies request)
      (named : decision.id = before.control.decisionGenerator.next)
      (opens : before.Opens request decision result) (planless : result.hasPlan = false)
      (evicted : before.MakesRoom request now kept)
      (allocated : generator = before.control.planGenerator ∨
        generator = before.control.planGenerator.advance)
      (changed : after.control = { before.control.openDecision decision with
        plans := kept, planGenerator := generator
        idempotency := before.control.idempotency.insert request.request
          (idempotencyRecord request decision) }) :
      Effect before (.evaluate request now) (.evaluated (.ok result)) after
  | issued {request now artifact result decision kept after}
      (issues : before.Issues request now artifact)
      (hasPlan : result.hasPlan = true) (plan_eq : result.plan = before.planOf request artifact now)
      (named : decision.id = before.control.decisionGenerator.next)
      (opens : before.Opens request decision result)
      (evicted : before.MakesRoom request now kept)
      (changed : after.control = { before.control.openDecision decision with
        plans := kept.insert before.control.planGenerator.next (before.planOf request artifact now)
        planGenerator := before.control.planGenerator.advance
        pending := before.control.pending.insert artifact.id
          (makeReservation before.state (before.planOf request artifact now) now)
        idempotency := before.control.idempotency.insert request.request
          (idempotencyRecord request decision) }) :
      Effect before (.evaluate request now) (.evaluated (.ok result)) after
  /-- A commit that stored an outcome other than `PromotionCommitted`. -/
  | closed {plan now result decision after} (released : Bool)
      (quiet : result.outcome ≠ .promotionCommitted)
      (stored : before.control.plans[plan.id]? = some plan)
      (named : decision.id = (before.control.decisions.getD plan.decision {}).id)
      (rewrites : before.Rewrites plan decision result)
      (changed : after.control = (if released then
        (before.control.setDecision plan.decision decision).releasePending plan.artifact
        else before.control.setDecision plan.decision decision)) :
      Effect before (.commit plan now) (.committed (.ok result)) after
  | committed {plan now artifact result decision after}
      (accepts : before.Accepts plan now artifact)
      (acknowledged : result.outcome = .promotionCommitted)
      (record_eq : result.record = commitRecord before.state.advanceSequence plan artifact.stage now)
      (named : decision.id = (before.control.decisions.getD plan.decision {}).id)
      (final : decision.outcome = .promotionCommitted)
      (changed : after.control = { ((((before.control.setChain plan.artifact
          (CoordinatorState.replaceFirst plan.artifactRevision
            (promotedArtifact before.state.advanceSequence plan artifact)
            (before.control.chain plan.artifact))).addRecord before.config.maxRecordsRetained
          result.record).setDecision plan.decision decision).releasePending plan.artifact) with
        idempotency := committedIdempotency before.control.idempotency plan }) :
      Effect before (.commit plan now) (.committed (.ok result)) after
  | quarantined {id reasonClass detail authority artifact result after}
      (named : isValidName reasonClass = true)
      (found : before.state.findCurrent id = some artifact)
      (unquarantined : artifact.quarantine.active = false)
      (open_ : artifact.stage ≠ .revoked ∧ artifact.stage ≠ .retired)
      (changed : after.control = (before.control.replaceCurrent id (quarantinedArtifact
        before.state.advanceSequence artifact reasonClass detail)).releasePending id) :
      Effect before (.quarantine id reasonClass detail authority) (.mutated (.ok result)) after
  | releaseRefused {id authority now later result decision after}
      (named : decision.id = before.control.decisionGenerator.next)
      (known : decision.outcome ≠ .invalid)
      (changed : after.control = before.control.openDecision decision) :
      Effect before (.releaseQuarantine id authority now later) (.mutated (.ok result)) after
  | released {id authority now later artifact result decision after}
      (request : PromotionRequest)
      (found : before.state.findCurrent id = some artifact)
      (held : artifact.quarantine.active = true)
      (granted : result.outcome = .promotionCommitted)
      (named : decision.id = before.control.decisionGenerator.next)
      (known : decision.outcome ≠ .invalid)
      (request_eq : request.authority = before.state.authority)
      (record_eq : result.record = releaseRecord before.state.advanceSequence artifact request
        decision later)
      (changed : after.control = ((before.control.openDecision decision).replaceCurrent id
        (releasedArtifact before.state.advanceSequence artifact)).addRecord
          before.config.maxRecordsRetained result.record) :
      Effect before (.releaseQuarantine id authority now later) (.mutated (.ok result)) after
  | revoked {id decision reasonClass detail authority cause now artifact target result after}
      (classNamed : isValidName reasonClass = true)
      (found : before.state.findCurrent id = some artifact)
      (unrevoked : artifact.revocation.active = false)
      (named : target.valid = true)
      (held : before.state.decisions.contains target = true)
      (record_eq : result.record = trustRecord before.state.advanceSequence
        (revokedArtifact before.state.advanceSequence artifact target reasonClass detail cause)
        artifact.stage .revoked target now (text "revocation: " ++ reasonClass))
      (changed : after.control = ((before.control.replaceCurrent id (revokedArtifact
        before.state.advanceSequence artifact target reasonClass detail cause)).releasePending
          id).addRecord before.config.maxRecordsRetained result.record) :
      Effect before (.revoke id decision reasonClass detail authority cause now)
        (.mutated (.ok result)) after
  | superseded {id successor reason authority now artifact successorRecord result after}
      (found : before.state.findCurrent id = some artifact)
      (successorFound : before.state.findCurrent successor = some successorRecord)
      (distinct : successor ≠ id)
      (unsuperseded : artifact.supersession.active = false)
      (open_ : artifact.stage ≠ .revoked ∧ artifact.stage ≠ .retired)
      (record_eq : result.record = trustRecord before.state.advanceSequence
        (supersededArtifact before.state.advanceSequence artifact successorRecord successor reason)
        artifact.stage .superseded artifact.promotionDecision now
        (text "superseded by " ++ successor.toText))
      (changed : after.control = ((before.control.replaceCurrent id (supersededArtifact
        before.state.advanceSequence artifact successorRecord successor reason)).releasePending
          id).addRecord before.config.maxRecordsRetained result.record) :
      Effect before (.supersede id successor reason authority now) (.mutated (.ok result)) after
  | retired {id authority now artifact result after}
      (found : before.state.findCurrent id = some artifact) (unretired : artifact.stage ≠ .retired)
      (record_eq : result.record = trustRecord before.state.advanceSequence
        (retiredArtifact before.state.advanceSequence artifact) artifact.stage .retired
        artifact.promotionDecision now (text "retired"))
      (changed : after.control = ((before.control.replaceCurrent id (retiredArtifact
        before.state.advanceSequence artifact)).releasePending id).addRecord
          before.config.maxRecordsRetained result.record) :
      Effect before (.retire id authority now) (.mutated (.ok result)) after
  | evidenceRevoked {id reason authority record result after}
      (found : before.control.evidence[id]? = some record) (unrevoked : record.revoked = false)
      (changed : after.control = { before.control with
        evidence := before.control.evidence.insert id
          (revokedEvidence before.state.advanceSequence record reason)
        pending := fencePending before.control.pending record }) :
      Effect before (.revokeEvidence id reason authority) (.mutated (.ok result)) after
  | reloaded {advance image after}
      (decoded : StatePersistence.decode (StatePersistence.encode before.snapshot) = .ok image)
      (changed : after.control = { image.control with
        pending := ∅
        authority := ⟨image.coordinator, if advance then image.epoch.next else image.epoch⟩ }) :
      Effect before (.reload advance) (.reloaded (.ok ())) after

end ArtifactPromotion
