import ArtifactPromotion.Engine.CommitExits
import ArtifactPromotion.Engine.Inspection
import ArtifactPromotion.Engine.StaleAuthority

/-! What an evaluation answers about a revision, and what an explanation answers. -/

namespace ArtifactPromotion

open Runs

variable {config : EngineConfig} {state : CoordinatorState} {request : PromotionRequest}
  {artifact : ArtifactRecord} {now : UInt64} {decision : PromotionDecision}

structure ReachesGates (state : CoordinatorState) (request : PromotionRequest)
    (artifact : ArtifactRecord) : Prop where
  moves : artifact.stage ≠ request.requestedStage
  reachable :
    stageIsReachable state.policy artifact.kind artifact.stage request.requestedStage = true
  free : GateContext.conflicted state request.artifact request = false

theorem reachesGates_opened :
    ReachesGates state.openDecision request artifact ↔ ReachesGates state request artifact := by
  constructor
  · rintro ⟨moves, reachable, free⟩
    exact ⟨moves, reachable, free⟩
  · rintro ⟨moves, reachable, free⟩
    exact ⟨moves, reachable, free⟩

structure Evaluated.Shaped (config : EngineConfig) (state : CoordinatorState)
    (request : PromotionRequest) (artifact : ArtifactRecord) (now : UInt64)
    (decision : PromotionDecision) (evaluated : Evaluated) : Prop where
  placed : evaluated.decision.Placed
  listed : evaluated.decision.Listed (PolicyRule.kMaxGates + 1)
  plain : evaluated.decision.Plain ↔ (ReachesGates state request artifact →
    (evaluateGates config state request now decision).decision.Plain)
  planned : ∀ plan, evaluated.plan = some plan →
    evaluated.decision.plan = plan.id ∧ evaluated.decision.Pristine
  planless : evaluated.plan = none → evaluated.decision.plan = decision.plan

theorem issuePlan_shaped (validated : state.policy.validate = some (.ok ()))
    (classed : ∀ (id : EvidenceId) (record : EvidenceRecord),
      state.evidence[id]? = some record → record.Classed)
    (found : state.findRevision request.artifact request.expectedRevision = some artifact)
    (known : artifact.Known) (target : isValidStageValue request.requestedStage.index = true)
    (blank : decision.Blank)
    (eligible : (evaluateGates config state request now decision).result.failed = false) :
    (issuePlan config state request artifact (evaluateGates config state request now decision)
      now).Shaped config state request artifact now decision := by
  obtain ⟨kind, source, target⟩ :=
    @evaluateGates_placed config state request now decision artifact found known target
  obtain ⟨findings, reasons⟩ := evaluateGates_met eligible
  obtain ⟨gatesFit, gates, _⟩ :=
    @evaluateGates_listed config state request now decision 0 validated classed blank.listed
  have named := @evaluateGates_plan config state request now decision
  rw [Nat.zero_add] at gatesFit
  rw [blank.findings] at findings
  rw [blank.reasons] at reasons
  obtain ⟨evaluation, same⟩ :
      ∃ evaluation, evaluation = evaluateGates config state request now decision := ⟨_, rfl⟩
  rw [← same] at kind source target findings reasons gatesFit gates named ⊢
  have clean : evaluation.decision.Plain := by simp [PromotionDecision.Plain, reasons]
  have pristine : evaluation.decision.Pristine := ⟨gatesFit, gates, findings, reasons⟩
  unfold issuePlan
  generalize (if state.plans.size ≥ config.maxPlansRetained.toNat then eraseFirst state.plans
    else state.plans) = kept
  dsimp only
  split
  · constructor
    case placed => exact ⟨kind, source, target⟩
    case listed => exact (pristine.listed.mono (Nat.le_succ _)).of_lists rfl rfl rfl
    case plain => exact iff_of_true clean fun _ => same ▸ clean
    case planned =>
      intro plan issued
      cases issued
      exact ⟨rfl, gatesFit, gates, findings, reasons⟩
    case planless => exact fun none => absurd none (Option.some_ne_none _)
  · constructor
    case placed => exact ⟨kind, source, target⟩
    case listed => exact (pristine.listed.addReason _).of_lists rfl rfl rfl
    case plain =>
      refine iff_of_true ?_ fun _ => same ▸ clean
      exact PromotionDecision.Plain.addReason clean (Reason.of_plain (by decide +kernel))
    case planned => exact fun _ issued => absurd issued.symm (Option.some_ne_none _)
    case planless => exact fun _ => named

theorem decideTransition_shaped (validated : state.policy.validate = some (.ok ()))
    (classed : ∀ (id : EvidenceId) (record : EvidenceRecord),
      state.evidence[id]? = some record → record.Classed)
    (found : state.findRevision request.artifact request.expectedRevision = some artifact)
    (known : artifact.Known) (target : isValidStageValue request.requestedStage.index = true)
    (blank : decision.Blank) (placed : decision.Placed) :
    (decideTransition config state request artifact now decision).Shaped config state request
      artifact now decision := by
  have early {outcome : PromotionOutcome} {authoritative : Bool} {code : ErrorCode}
      {message subject : Text} (clean : 0 ∉ message)
      (stops : ¬ReachesGates state request artifact) : Evaluated.Shaped config state request artifact
        now decision ⟨state, { decision with outcome, authoritative }.addReason
          (.of code message subject), none⟩ := by
    constructor
    case placed => exact ⟨placed.kind, placed.source, placed.target⟩
    case listed =>
      have one := (blank.listed.addReason (.of code message subject)).mono
        (Nat.le_add_left 1 PolicyRule.kMaxGates)
      exact one.of_lists rfl rfl rfl
    case plain =>
      refine iff_of_true ?_ fun reaches => absurd reaches stops
      exact PromotionDecision.Plain.addReason blank.plain (Reason.of_plain clean)
    case planned => exact fun _ issued => absurd issued.symm (Option.some_ne_none _)
    case planless => exact fun _ => rfl
  unfold decideTransition
  split
  · rename_i reached
    split
    · exact early (by decide +kernel) fun reaches => reaches.moves reached
    · exact early (by decide +kernel) fun reaches => reaches.moves reached
  rename_i moves
  split
  · rename_i unreachable
    refine early (by decide +kernel) fun reaches => ?_
    simp [reaches.reachable] at unreachable
  rename_i reachable
  split
  · rename_i held
    refine early (by decide +kernel) fun reaches => ?_
    simp [reaches.free] at held
  rename_i free
  have reaches : ReachesGates state request artifact :=
    ⟨moves, by simpa using reachable, by simpa using free⟩
  dsimp only
  split
  · have listed :=
      @evaluateGates_listed config state request now decision 0 validated classed blank.listed
    have placed :=
      @evaluateGates_placed config state request now decision artifact found known target
    have named := @evaluateGates_plan config state request now decision
    have clean : (ReachesGates state request artifact →
        (evaluateGates config state request now decision).decision.Plain) ↔
        (evaluateGates config state request now decision).decision.Plain :=
      ⟨fun plain => plain reaches, fun plain _ => plain⟩
    constructor
    case plain =>
      rw [clean]
      exact Iff.rfl
    generalize evaluateGates config state request now decision = evaluation at *
    case placed => exact ⟨placed.kind, placed.source, placed.target⟩
    case listed => exact (listed.mono (by omega)).of_lists rfl rfl rfl
    case planned => exact fun _ issued => absurd issued.symm (Option.some_ne_none _)
    case planless => exact fun _ => named
  · rename_i eligible
    exact issuePlan_shaped validated classed found known target blank (by simpa using eligible)

namespace Engine

variable {engine next : Engine}

/-- The engine knows the classes and stages of what it evaluates. -/
structure Vetted (engine : Engine) : Prop where
  sound : engine.Sound
  policy : engine.PolicyValid
  artifacts : engine.ArtifactsKnown
  evidence : engine.EvidenceKnown

structure Opened (engine : Engine) (request : PromotionRequest) (artifact : ArtifactRecord)
    (now : UInt64) (result : EvaluationResult) : Prop where
  placed : result.decision.Placed
  listed : result.decision.Listed (PolicyRule.kMaxGates + 1)
  settled : result.decision.outcome ≠ .invalid
  plain : result.decision.Plain ↔ (artifact.digest = request.expectedDigest →
    ReachesGates engine.state request artifact →
      (engine.evaluationOf request artifact now).decision.Plain)
  planned : result.hasPlan = true →
    result.decision.plan = result.plan.id ∧ result.decision.Pristine
  planless : result.hasPlan = false → result.decision.plan = {} ∧ result.plan = {}

theorem evaluate_exits (sound : engine.Sound) {result : EvaluationResult}
    (answered : engine.evaluate request now = (.ok result, next)) :
    requestIsWellFormed request = true ∧
      ((∃ record decision, engine.state.idempotency[request.request]? = some record ∧
          engine.state.decisions[record.decision]? = some decision ∧ result = { decision } ∧
          next = engine) ∨
        (engine.state.idempotency[request.request]? = none ∧
          engine.evaluateFresh request now = (.ok result, next))) := by
  unfold evaluate at answered
  split at answered
  · cases answered
  split at answered
  · cases answered
  rename_i wellFormed
  refine ⟨by simpa using wellFormed, ?_⟩
  split at answered
  · rename_i unbound
    exact .inr ⟨unbound, answered⟩
  rename_i record bound
  split at answered
  · cases answered
  split at answered
  · rename_i decision held
    cases answered
    exact .inl ⟨record, decision, bound, held, rfl, rfl⟩
  · rename_i missing
    obtain ⟨decision, held⟩ := held_decision (sound.coherent.idempotency _ _ bound).2
    exact absurd (held.symm.trans missing) (Option.some_ne_none _)

theorem wellFormed_stage (wellFormed : requestIsWellFormed request = true) :
    isValidStageValue request.requestedStage.index = true := by
  simp only [requestIsWellFormed, Bool.and_eq_true] at wellFormed
  exact wellFormed.1.1.1.2

theorem evaluateFresh_unknown {result : EvaluationResult}
    (missing : engine.state.findRevision request.artifact request.expectedRevision = none)
    (answered : engine.evaluateFresh request now = (.ok result, next)) :
    result.decision.artifactKind = .invalid ∧ result.decision.plan = {} ∧
      result.hasPlan = false ∧ result.plan = {} := by
  unfold evaluateFresh at answered
  rw [missing] at answered
  cases answered
  exact ⟨rfl, rfl, rfl, rfl⟩

theorem evaluateFresh_opened (vetted : engine.Vetted)
    (wellFormed : requestIsWellFormed request = true)
    (found : engine.state.findRevision request.artifact request.expectedRevision = some artifact)
    {result : EvaluationResult}
    (answered : engine.evaluateFresh request now = (.ok result, next)) :
    engine.Opened request artifact now result := by
  have target := wellFormed_stage wellFormed
  have known := vetted.artifacts _ _ (findRevision_mem found).1
  unfold evaluateFresh at answered
  rw [found] at answered
  dsimp only at answered
  split at answered
  · rename_i differs
    cases answered
    have blank : PromotionDecision.Blank { openingDecision engine.state request with
        artifactGeneration := artifact.generation, artifactKind := artifact.kind
        source := artifact.stage, outcome := .digestMismatch } := ⟨rfl, rfl, rfl⟩
    constructor
    case placed => exact ⟨known.kind, known.stage, target⟩
    case listed => exact (blank.listed.addReason _).mono (Nat.le_add_left 1 _)
    case settled => simp [PromotionDecision.addReason]
    case plain =>
      refine iff_of_true ?_ fun same => absurd same differs
      exact blank.plain.addReason (Reason.of_plain (by decide +kernel))
    case planned => exact fun planned => absurd planned Bool.false_ne_true
    case planless => exact fun _ => ⟨rfl, rfl⟩
  · rename_i same
    have digest : artifact.digest = request.expectedDigest := not_not.mp same
    have shaped := @decideTransition_shaped engine.config engine.state.openDecision request artifact
      now (engine.fullDecision request artifact now) vetted.policy vetted.evidence found known
      target ⟨rfl, rfl, rfl⟩ ⟨known.kind, known.stage, target⟩
    have settled : (decideTransition engine.config engine.state.openDecision request artifact now
        (engine.fullDecision request artifact now)).decision.outcome ≠ .invalid := by
      rcases decideTransition_cases engine.config engine.state.openDecision now
        (engine.fullDecision request artifact now) found with planless | ⟨_, planned⟩
      · exact planless.reported.1
      · exact planned.reported.1
    change ((.ok
      { decision := (decideTransition engine.config engine.state.openDecision request artifact now
          (engine.fullDecision request artifact now)).decision
        plan := (decideTransition engine.config engine.state.openDecision request artifact now
          (engine.fullDecision request artifact now)).plan.getD {}
        hasPlan := (decideTransition engine.config engine.state.openDecision request artifact now
          (engine.fullDecision request artifact now)).plan.isSome } : Result EvaluationResult), _) =
      _ at answered
    obtain ⟨placed, listed, plain, planned, planless⟩ := shaped
    generalize decideTransition engine.config engine.state.openDecision request artifact now
      (engine.fullDecision request artifact now) = evaluated at *
    cases answered
    constructor
    case placed => exact placed
    case listed => exact listed
    case settled => exact settled
    case plain =>
      rw [plain, reachesGates_opened]
      exact ⟨fun clean _ => clean, fun clean => clean digest⟩
    case planned =>
      intro hasPlan
      obtain ⟨plan, issued⟩ := Option.isSome_iff_exists.mp hasPlan
      obtain ⟨named, pristine⟩ := planned plan issued
      rw [issued]
      exact ⟨named, pristine⟩
    case planless =>
      intro hasPlan
      have none : evaluated.plan = none := by simpa using hasPlan
      rw [none]
      exact ⟨planless none, rfl⟩

def Replays (engine : Engine) (request : PromotionRequest) (decision : PromotionDecision) : Prop :=
  ∃ record, engine.state.idempotency[request.request]? = some record ∧
    engine.state.decisions[record.decision]? = some decision

theorem Replays.unique {other : PromotionDecision} (replays : engine.Replays request decision)
    (again : engine.Replays request other) : other = decision := by
  obtain ⟨record, bound, held⟩ := replays
  obtain ⟨same, boundAgain, heldAgain⟩ := again
  obtain rfl := Option.some.inj (bound.symm.trans boundAgain)
  exact Option.some.inj (heldAgain.symm.trans held)

inductive EvaluationExit (engine : Engine) (request : PromotionRequest) (now : UInt64) :
    EvaluationResult → Prop
  | replayed {decision : PromotionDecision} (replays : engine.Replays request decision) :
      EvaluationExit engine request now { decision }
  | unknown {result : EvaluationResult}
      (unbound : engine.state.idempotency[request.request]? = none)
      (missing : engine.state.findRevision request.artifact request.expectedRevision = none)
      (unnamed : result.decision.artifactKind = .invalid)
      (planless : result.decision.plan = {} ∧ result.hasPlan = false ∧ result.plan = {}) :
      EvaluationExit engine request now result
  | opened {artifact : ArtifactRecord} {result : EvaluationResult}
      (unbound : engine.state.idempotency[request.request]? = none)
      (found : engine.state.findRevision request.artifact request.expectedRevision = some artifact)
      (opened : engine.Opened request artifact now result) :
      EvaluationExit engine request now result

theorem evaluate_exit (vetted : engine.Vetted) {result : EvaluationResult}
    (answered : engine.evaluate request now = (.ok result, next)) :
    engine.EvaluationExit request now result := by
  obtain ⟨wellFormed, ⟨record, decision, bound, held, rfl, _⟩ | ⟨unbound, fresh⟩⟩ :=
    evaluate_exits vetted.sound answered
  · exact .replayed ⟨record, bound, held⟩
  · cases found : engine.state.findRevision request.artifact request.expectedRevision with
    | none =>
        obtain ⟨unnamed, planless⟩ := evaluateFresh_unknown found fresh
        exact .unknown unbound found unnamed planless
    | some artifact =>
        exact .opened unbound found (evaluateFresh_opened vetted wellFormed found fresh)

def explainedDecision (state : CoordinatorState) (id : ArtifactId) (artifact : ArtifactRecord)
    (destination : Stage) : PromotionDecision :=
  { artifact := id, artifactRevision := artifact.revision,
    artifactGeneration := artifact.generation, artifactDigest := artifact.digest,
    artifactKind := artifact.kind, source := artifact.stage, target := destination,
    policy := state.activePolicy, policyGeneration := state.activePolicyGeneration,
    policyDigest := state.activePolicyDigest, authority := state.authority }

def explanationOf (engine : Engine) (id : ArtifactId) (artifact : ArtifactRecord)
    (destination : Stage) (now : UInt64) : GateEvaluation :=
  evaluateGates engine.config engine.state (explainRequest engine.state id artifact destination) now
    (explainedDecision engine.state id artifact destination)

theorem explainedStage_known {policy : PromotionPolicy} {destination : Stage}
    (validated : policy.validate = some (.ok ()))
    (known : isValidStageValue destination.index = true) :
    isValidStageValue (explainedStage policy artifact destination).index = true := by
  unfold explainedStage
  cases policy.findRule artifact.kind artifact.stage destination with
  | some rule => exact known
  | none =>
      cases leads : policy.rules.find? (leadsOut policy artifact) with
      | none => exact known
      | some candidate =>
          have out := List.find?_some leads
          simp only [leadsOut, Bool.and_eq_true] at out
          exact (PromotionPolicy.edge_known validated out.2).2

structure Explained (engine : Engine) (id : ArtifactId) (destination : Stage) (now : UInt64)
    (artifact : ArtifactRecord) (decision : PromotionDecision) : Prop where
  found : engine.state.findCurrent id = some artifact
  placed : decision.Placed
  listed : decision.Listed PolicyRule.kMaxGates
  settled : decision.outcome ≠ .invalid
  plain : decision.Plain ↔ (engine.explanationOf id artifact destination now).decision.Plain

theorem explain_explained (vetted : engine.Vetted) {id : ArtifactId} {destination : Stage}
    {later : UInt64} (explained : engine.explain id destination now later = some decision) :
    ∃ artifact, engine.Explained id destination now artifact decision := by
  unfold explain at explained
  split at explained
  · cases explained
  rename_i artifact found
  split at explained
  · cases explained
  rename_i named
  have destined : isValidStageValue destination.index = true := by
    simp only [Bool.or_eq_true, decide_eq_true_eq, not_or] at named
    simpa using named.2
  have inside : artifact ∈ engine.state.chain id := List.mem_of_getLast? found
  obtain ⟨subject, registered⟩ :
      ∃ subject, engine.state.findRevision id artifact.revision = some subject := by
    apply Option.isSome_iff_exists.mp
    rw [CoordinatorState.findRevision, List.find?_isSome]
    exact ⟨artifact, inside, beq_self_eq_true _⟩
  have known := vetted.artifacts _ _ (findRevision_mem registered).1
  have blank : (explainedDecision engine.state id artifact destination).Blank := ⟨rfl, rfl, rfl⟩
  obtain ⟨evaluation, evaluated⟩ :
      ∃ evaluation, evaluation = engine.explanationOf id artifact destination now := ⟨_, rfl⟩
  have listed : evaluation.decision.Listed (0 + PolicyRule.kMaxGates) := by
    rw [evaluated]
    exact evaluateGates_listed vetted.policy vetted.evidence blank.listed
  have placed : evaluation.decision.Placed := by
    rw [evaluated]
    exact evaluateGates_placed registered known (explainedStage_known vetted.policy destined)
  have reported : evaluation.result.outcome.Reported := by
    rw [evaluated]
    exact evaluateGates_reported _ _ _ _ _
  rw [Nat.zero_add] at listed
  have answers {outcome : PromotionOutcome} {authoritative : Bool} {decided : Option UInt64}
      (settled : outcome ≠ .invalid) : engine.Explained id destination now artifact
        { evaluation.decision with
          outcome, authoritative, target := destination, decidedUnixMillis := decided } := by
    constructor
    case found => exact found
    case placed => exact ⟨placed.kind, placed.source, destined⟩
    case listed => exact listed.of_lists rfl rfl rfl
    case settled => exact settled
    case plain => exact evaluated ▸ Iff.rfl
  change (if artifact.stage = destination && artifact.currentlyAuthoritative then
      some { { (engine.explanationOf id artifact destination now).decision with
        outcome := (engine.explanationOf id artifact destination now).result.outcome
        target := destination, decidedUnixMillis := some later } with
          outcome := .alreadyPromoted, authoritative := true }
    else some { (engine.explanationOf id artifact destination now).decision with
        outcome := (engine.explanationOf id artifact destination now).result.outcome
        target := destination, decidedUnixMillis := some later }) = _ at explained
  rw [← evaluated] at explained
  refine ⟨artifact, ?_⟩
  split at explained
  · cases explained
    exact answers (show PromotionOutcome.alreadyPromoted ≠ .invalid by decide)
  · cases explained
    exact answers reported.1

end Engine

end ArtifactPromotion
