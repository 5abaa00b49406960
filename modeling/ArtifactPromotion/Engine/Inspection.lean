import ArtifactPromotion.Engine.Promotion

/-! The queries of the engine. They take the state lock shared and leave the engine as it is. -/

namespace ArtifactPromotion

structure ArtifactView where
  artifact : ArtifactRecord := {}
  evidenceCount : Nat := 0
  promotionRecordCount : Nat := 0
  hasActiveReservation : Bool := false

namespace Engine

def inspectArtifact (engine : Engine) (id : ArtifactId) : Option ArtifactView :=
  (engine.state.findCurrent id).map fun artifact =>
    { artifact
      evidenceCount := (engine.state.evidence.toList.filter fun entry =>
        entry.2.subject == id && entry.2.subjectRevision == artifact.revision).length
      promotionRecordCount := (engine.state.records.toList.filter fun entry =>
        entry.2.artifact == id).length
      hasActiveReservation := engine.state.pending.contains id }

def inspectPlan (engine : Engine) (id : PromotionPlanId) : Option PromotionPlan :=
  engine.state.plans[id]?

def promotionHistory (engine : Engine) (id : ArtifactId) : List PromotionRecord :=
  ((engine.state.records.toList.map Prod.snd).filter fun record =>
    record.artifact == id).insertionSort fun left right =>
      left.sequence.value ≤ right.sequence.value

def leadsOut (policy : PromotionPolicy) (artifact : ArtifactRecord) (candidate : PolicyRule) :
    Bool :=
  candidate.source == artifact.stage &&
    !(candidate.hasKindScope && candidate.kindScope != artifact.kind) &&
    policy.graph.hasEdge candidate.source candidate.target

/-- The transition `explain` evaluates: the requested one where a rule governs it, and otherwise
the first one out of the current stage. -/
def explainedStage (policy : PromotionPolicy) (artifact : ArtifactRecord) (destination : Stage) :
    Stage :=
  match policy.findRule artifact.kind artifact.stage destination with
  | some _ => destination
  | none =>
      match policy.rules.find? (leadsOut policy artifact) with
      | some candidate => candidate.target
      | none => destination

def explainRequest (state : CoordinatorState) (id : ArtifactId) (artifact : ArtifactRecord)
    (destination : Stage) : PromotionRequest :=
  { artifact := id, expectedRevision := artifact.revision, expectedDigest := artifact.digest,
    requestedStage := explainedStage state.policy artifact destination,
    authority := state.authority }

/-- `explain`; `now` and `later` are the two clock readings it takes. -/
def explain (engine : Engine) (id : ArtifactId) (destination : Stage) (now later : UInt64) :
    Option PromotionDecision :=
  match engine.state.findCurrent id with
  | none => none
  | some artifact =>
      if destination = .invalid || !isValidStageValue destination.index then none
      else
        let decision : PromotionDecision :=
          { artifact := id, artifactRevision := artifact.revision,
            artifactGeneration := artifact.generation, artifactDigest := artifact.digest,
            artifactKind := artifact.kind, source := artifact.stage, target := destination,
            policy := engine.state.activePolicy,
            policyGeneration := engine.state.activePolicyGeneration,
            policyDigest := engine.state.activePolicyDigest, authority := engine.state.authority }
        let evaluation := evaluateGates engine.config engine.state
          (explainRequest engine.state id artifact destination) now decision
        let decision := { evaluation.decision with
          outcome := evaluation.result.outcome, target := destination,
          decidedUnixMillis := some later }
        if artifact.stage = destination && artifact.currentlyAuthoritative then
          some { decision with outcome := .alreadyPromoted, authoritative := true }
        else some decision

structure RollbackEligibility where
  eligible : Bool := false
  outcome : PromotionOutcome := .invalid
  blockingGates : List Text := []
deriving DecidableEq

def hasPromotionRecord (state : CoordinatorState) (id : ArtifactId) (revision : ArtifactRevision) :
    Bool :=
  state.records.toList.any fun entry =>
    entry.2.artifact == id && entry.2.artifactRevision == revision && entry.2.target == .promoted

/-- The texts of the checks that block a rollback to the revision. -/
def blockingGates (state : CoordinatorState) (id : ArtifactId) (artifact : ArtifactRecord) :
    List Text :=
  let allowed := (state.policy.findRule artifact.kind .approved .promoted).any
    PolicyRule.allowRollbackEligibility
  (if allowed then []
    else [text "policy does not permit rollback eligibility for this artifact class"]) ++
  (if hasPromotionRecord state id artifact.revision then []
    else [text "the current revision has never been promoted"]) ++
  (if artifact.revocation.active then [text "artifact authority was revoked"] else []) ++
  (if artifact.quarantine.active then [text "artifact is quarantined"] else []) ++
  (if artifact.stage = .retired then [text "artifact is retired"] else [])

def evaluateRollbackEligibility (engine : Engine) (id : ArtifactId) : RollbackEligibility :=
  match engine.state.findCurrent id with
  | none =>
      { outcome := .artifactNotFound, blockingGates := [text "artifact is not registered"] }
  | some artifact =>
      let blocking := blockingGates engine.state id artifact
      { eligible := blocking.isEmpty
        outcome := if blocking.isEmpty then .promotionEligible else .promotionIneligible
        blockingGates := blocking }

end Engine

end ArtifactPromotion
