import ArtifactPromotion.Engine.DeadHolders
import ArtifactPromotion.Engine.StaleAuthority
import ArtifactPromotion.Engine.Inspection

/-! What an explanation and an evaluation of the same transition have in common. -/

namespace ArtifactPromotion

open Runs

def PromotionOutcome.Favourable (outcome : PromotionOutcome) : Prop :=
  outcome = .promotionEligible ∨ outcome = .alreadyPromoted

namespace GateContext

variable {context : GateContext}

def opened (context : GateContext) (request : PromotionRequest) : GateContext :=
  { context with state := context.state.openDecision, request }

theorem checkDependencies_opened (request : PromotionRequest) (dependencies : List Text) :
    (context.opened request).checkDependencies dependencies =
      context.checkDependencies dependencies := by
  induction dependencies with
  | nil => rfl
  | cons dependency rest ih =>
      simp only [checkDependencies, ih]
      rfl

theorem satisfied_opened {request : PromotionRequest}
    (authority : request.authority = context.request.authority)
    (free : context.state.pending[context.artifact.id]? = none) (gate : Gate) :
    (context.opened request).satisfied gate = context.satisfied gate := by
  have unheld (state : CoordinatorState) (other : PromotionRequest)
      (same : state.pending = context.state.pending) :
      conflicted state context.artifact.id other = false := by
    simp [conflicted, same, free]
  have checked : (context.opened request).checkGate gate = context.checkGate gate := by
    unfold checkGate
    cases gate.kind with
    | noConflictingTransition =>
        have asked := unheld context.state.openDecision request rfl
        have own := unheld context.state context.request rfl
        simp only [checkConflict, opened, asked, own]
    | coordinatorEpochCurrent =>
        simp only [checkCoordinatorEpoch, opened, authority]
        rfl
    | policyGenerationCurrent =>
        simp only [checkPolicyGeneration, opened, authority]
        rfl
    | dependentArtifactPromoted => exact checkDependencies_opened _ _
    | _ => rfl
  rw [satisfied, checked, satisfied]

end GateContext

namespace Engine

variable {engine : Engine} {artifact : ArtifactRecord} {request : PromotionRequest}
  {destination : Stage} {now later : UInt64}

def Stands (artifact : ArtifactRecord) (destination : Stage) : Prop :=
  artifact.stage = destination ∧ artifact.currentlyAuthoritative = true

def RequirementsMet (engine : Engine) (artifact : ArtifactRecord) (request : PromotionRequest)
    (now : UInt64) : Prop :=
  ∃ rule, engine.state.policy.findRule artifact.kind artifact.stage request.requestedStage =
      some rule ∧ ∀ gate ∈ rule.requirements, GateContext.satisfied
    ⟨engine.config, engine.state, request, now, artifact, engine.state.activePolicyGeneration⟩
    gate = true

theorem evaluateGates_favourable_iff {config : EngineConfig} {state : CoordinatorState}
    {decision : PromotionDecision} :
    (evaluateGates config state request now decision).result.outcome.Favourable ↔
      (evaluateGates config state request now decision).result.failed = false := by
  constructor
  · intro favourable
    by_contra failed
    have failure := evaluateGates_unsuccessful (by simpa using failed)
    rcases favourable with eligible | promoted
    · rw [eligible] at failure
      cases failure
    · rw [promoted] at failure
      cases failure
  · intro passes
    obtain ⟨_, _, _, _, _, eligible, _⟩ := evaluateGates_eligible passes
    exact .inl eligible

structure Fresh (engine : Engine) (artifact : ArtifactRecord) (destination : Stage)
    (request : PromotionRequest) : Prop where
  named : request.artifact = artifact.id
  revision : request.expectedRevision = artifact.revision
  digest : request.expectedDigest = artifact.digest
  stage : request.requestedStage = destination
  authority : request.authority = engine.state.authority
  identified : request.request.valid = true ∧ request.attempt.valid = true
  unused : engine.state.idempotency[request.request]? = none
  unheld : ∀ reservation, engine.state.pending[artifact.id]? = some reservation →
    reservation.request ≠ request.request

def ExplainsSuccess (engine : Engine) (id : ArtifactId) (destination : Stage)
    (now later : UInt64) : Prop :=
  ∃ decision, engine.explain id destination now later = some decision ∧
    decision.outcome.Favourable

def EvaluatesSuccess (engine : Engine) (request : PromotionRequest) (now : UInt64) : Prop :=
  ∃ result, (engine.evaluate request now).1 = .ok result ∧ result.decision.outcome.Favourable

theorem explainsSuccess_iff (found : engine.state.findCurrent artifact.id = some artifact)
    (registered : engine.state.findRevision artifact.id artifact.revision = some artifact)
    (known : isValidStageValue destination.index = true) :
    engine.ExplainsSuccess artifact.id destination now later ↔
      Stands artifact destination ∨ engine.RequirementsMet artifact
        (explainRequest engine.state artifact.id artifact destination) now := by
  have named : ¬(destination = .invalid || !isValidStageValue destination.index) = true := by
    rw [known, Bool.not_true, Bool.or_false, decide_eq_true_eq]
    rintro rfl
    cases known
  unfold ExplainsSuccess explain
  simp only [found]
  rw [if_neg named]
  by_cases stands : Stands artifact destination
  · rw [if_pos (by simpa [Stands] using stands)]
    exact iff_of_true ⟨_, rfl, .inr rfl⟩ (.inl stands)
  · rw [if_neg (by simpa [Stands] using stands)]
    simp only [Option.some.injEq, exists_eq_left', stands, false_or]
    rw [evaluateGates_favourable_iff, evaluateGates_passes_iff]
    constructor
    · rintro ⟨subject, rule, subjectFound, governed, satisfied⟩
      obtain rfl : subject = artifact := Option.some.inj (subjectFound.symm.trans registered)
      exact ⟨rule, governed, satisfied⟩
    · rintro ⟨rule, governed, satisfied⟩
      exact ⟨artifact, rule, registered, governed, satisfied⟩

theorem issuePlan_favourable {config : EngineConfig} {state : CoordinatorState}
    {evaluation : GateEvaluation} (eligible : evaluation.result.outcome = .promotionEligible)
    (room : state.pending.size < config.maxPendingPromotions.toNat) :
    (issuePlan config state request artifact evaluation now).decision.outcome.Favourable := by
  unfold issuePlan
  dsimp only
  generalize (if state.plans.size ≥ config.maxPlansRetained.toNat then eraseFirst state.plans
    else state.plans) = kept
  split
  · exact .inl eligible
  · rename_i full
    rw [Bool.or_eq_true, decide_eq_true_eq] at full
    exact absurd (.inl room) full

theorem decideTransition_favourable_iff {config : EngineConfig} {state : CoordinatorState}
    {decision : PromotionDecision}
    (registered : state.findRevision request.artifact request.expectedRevision = some artifact)
    (moves : artifact.stage ≠ request.requestedStage)
    (room : state.pending.size < config.maxPendingPromotions.toNat) :
    (decideTransition config state request artifact now decision).decision.outcome.Favourable ↔
      GateContext.conflicted state request.artifact request = false ∧
        (evaluateGates config state request now decision).result.failed = false := by
  unfold decideTransition
  rw [if_neg moves]
  split
  · rename_i unreachable
    refine iff_of_false (by simp [PromotionOutcome.Favourable, PromotionDecision.addReason]) ?_
    rintro ⟨_, passes⟩
    obtain ⟨subject, rule, found, governed, _⟩ := evaluateGates_eligible passes
    obtain rfl : subject = artifact := Option.some.inj (found.symm.trans registered)
    simp [stageIsReachable, governed] at unreachable
  · split
    · rename_i conflicted
      refine iff_of_false (by simp [PromotionOutcome.Favourable, PromotionDecision.addReason]) ?_
      simp [conflicted]
    · rename_i free
      dsimp only
      split
      · rename_i failed
        rw [evaluateGates_favourable_iff]
        simp [failed]
      · rename_i passes
        have passes : (evaluateGates config state request now decision).result.failed = false := by
          simpa using passes
        obtain ⟨_, _, _, _, _, eligible, _⟩ := evaluateGates_eligible passes
        exact iff_of_true (issuePlan_favourable eligible room) ⟨by simpa using free, passes⟩

theorem conflicted_fresh_iff (fresh : engine.Fresh artifact destination request) :
    GateContext.conflicted engine.state request.artifact request = false ↔
      engine.state.pending[artifact.id]? = none := by
  unfold GateContext.conflicted
  rw [fresh.named]
  cases held : engine.state.pending[artifact.id]? with
  | none => simp
  | some reservation => simp [fresh.unheld reservation held]

theorem evaluatesSuccess_iff
    (registered : engine.state.findRevision artifact.id artifact.revision = some artifact)
    (fresh : engine.Fresh artifact destination request)
    (wellFormed : requestIsWellFormed request = true)
    (room : engine.state.pending.size < engine.config.maxPendingPromotions.toNat) :
    engine.EvaluatesSuccess request now ↔ engine.admissionOpen = true ∧
      (Stands artifact destination ∨ artifact.stage ≠ destination ∧
        engine.state.pending[artifact.id]? = none ∧ engine.RequirementsMet artifact request now) := by
  unfold EvaluatesSuccess
  by_cases admitted : engine.admissionOpen = true
  · have found : engine.state.findRevision request.artifact request.expectedRevision =
        some artifact := by rw [fresh.named, fresh.revision, registered]
    rw [evaluate_unbound admitted wellFormed fresh.unused]
    simp only [evaluateFresh, found, fresh.digest, ne_eq, not_true_eq_false, if_false,
      Except.ok.injEq, exists_eq_left', admitted, true_and]
    by_cases same : artifact.stage = destination
    · rw [decideTransition, fresh.stage, if_pos same]
      by_cases authoritative : artifact.currentlyAuthoritative = true
      · rw [if_pos authoritative]
        exact iff_of_true (.inr rfl) (.inl ⟨same, authoritative⟩)
      · rw [if_neg authoritative]
        refine iff_of_false (by simp [PromotionOutcome.Favourable, PromotionDecision.addReason]) ?_
        rintro (⟨_, held⟩ | ⟨apart, _⟩)
        · exact authoritative held
        · exact apart same
    · have moves : artifact.stage ≠ request.requestedStage := by rwa [fresh.stage]
      have opened : engine.state.openDecision.findRevision request.artifact
          request.expectedRevision = some artifact := found
      have unheld : GateContext.conflicted engine.state.openDecision request.artifact request =
          false ↔ engine.state.pending[artifact.id]? = none := conflicted_fresh_iff fresh
      rw [decideTransition_favourable_iff opened moves room, evaluateGates_passes_iff]
      constructor
      · rintro ⟨free, subject, rule, subjectFound, governed, satisfied⟩
        obtain rfl : subject = artifact := Option.some.inj (subjectFound.symm.trans opened)
        refine .inr ⟨same, unheld.mp free, rule, governed, ?_⟩
        intro gate required
        rw [← @GateContext.satisfied_opened _ request rfl (unheld.mp free)]
        exact satisfied gate required
      · rintro (⟨standing, _⟩ | ⟨_, free, rule, governed, satisfied⟩)
        · exact absurd standing same
        · refine ⟨unheld.mpr free, artifact, rule, opened, governed, ?_⟩
          intro gate required
          have met := satisfied gate required
          rw [← @GateContext.satisfied_opened _ request rfl free] at met
          exact met
  · simp [evaluate, admitted, shuttingDown, refuse]

theorem requirementsMet_asked {other : PromotionRequest}
    (free : engine.state.pending[artifact.id]? = none)
    (authority : other.authority = request.authority)
    (stage : other.requestedStage = request.requestedStage) :
    engine.RequirementsMet artifact other now ↔ engine.RequirementsMet artifact request now := by
  have same (gate : Gate) : GateContext.satisfied
      ⟨engine.config, engine.state, other, now, artifact, engine.state.activePolicyGeneration⟩
      gate = GateContext.satisfied
      ⟨engine.config, engine.state, request, now, artifact, engine.state.activePolicyGeneration⟩
      gate := by
    have left := @GateContext.satisfied_opened ⟨engine.config, engine.state, other, now, artifact,
      engine.state.activePolicyGeneration⟩ other rfl free gate
    have right := @GateContext.satisfied_opened ⟨engine.config, engine.state, request, now, artifact,
      engine.state.activePolicyGeneration⟩ _ authority free gate
    exact left.symm.trans right
  unfold RequirementsMet
  simp only [stage, same]

theorem explainedStage_governed {policy : PromotionPolicy}
    (governed : (policy.findRule artifact.kind artifact.stage destination).isSome = true) :
    explainedStage policy artifact destination = destination := by
  obtain ⟨rule, found⟩ := Option.isSome_iff_exists.mp governed
  simp [explainedStage, found]

theorem Fresh.wellFormed (fresh : engine.Fresh artifact destination request)
    (current : engine.AuthorityValid) (valid : artifact.valid = true)
    (known : isValidStageValue destination.index = true) : requestIsWellFormed request = true := by
  obtain ⟨⟨id, revision, _, _, digest, _⟩, _⟩ := (ArtifactRecord.valid_iff artifact).mp valid
  have named : (destination != .invalid) = true := by
    rw [bne_iff_ne]
    rintro rfl
    cases known
  simp only [requestIsWellFormed, fresh.named, fresh.revision, fresh.digest, fresh.stage,
    fresh.authority, fresh.identified.1, fresh.identified.2, id, revision, digest, named, known,
    authority_valid current, Bool.and_self]

theorem step_artifacts_kept_valid {next : Engine} {op : Op} {reply : Reply}
    (kept : engine.Sound ∧ engine.PolicyValid ∧ engine.AuthorityValid ∧ engine.ArtifactsValid)
    (moved : engine.step op = some (reply, next)) :
    next.Sound ∧ next.PolicyValid ∧ next.AuthorityValid ∧ next.ArtifactsValid := by
  obtain ⟨sound, policy, authority, artifacts⟩ := kept
  exact ⟨sound_step sound moved, step_policy_valid moved policy,
    step_authority_valid sound authority moved,
    step_artifacts_valid sound policy authority.2 artifacts moved⟩

/-- What it takes for an explanation to be as good as an evaluation: where the explanation reports
success, the coordinator admits work, and the artifact stands at the destination already or the
destination has a rule of its own and nobody holds the artifact. -/
def Explicable (engine : Engine) (artifact : ArtifactRecord) (destination : Stage)
    (now : UInt64) : Prop :=
  Stands artifact destination ∨ engine.RequirementsMet artifact
      (explainRequest engine.state artifact.id artifact destination) now →
    engine.admissionOpen = true ∧ (Stands artifact destination ∨
      (engine.state.policy.findRule artifact.kind artifact.stage destination).isSome = true ∧
        artifact.stage ≠ destination ∧ engine.state.pending[artifact.id]? = none)

theorem explain_agrees_iff {start : Engine} {trace : List EngineStep}
    (constructed : Constructed start) (run : EngineRun start trace engine)
    (few : trace.countP (fun step => step.input.registers) ≤
      IdentityGenerator.kSpan * IdentityGenerator.kSpan)
    (found : engine.state.findCurrent artifact.id = some artifact)
    (known : isValidStageValue destination.index = true)
    (room : engine.state.pending.size < engine.config.maxPendingPromotions.toNat)
    (fresh : engine.Fresh artifact destination request) :
    (engine.ExplainsSuccess artifact.id destination now later ↔
        engine.EvaluatesSuccess request now) ↔ engine.Explicable artifact destination now := by
  have apart := run_revisions_apart constructed run few
  have wellFormed := constructed_wellFormed constructed
  obtain ⟨sound, _, authority, artifacts⟩ := run.invariant
    (fun engine => engine.Sound ∧ engine.PolicyValid ∧ engine.AuthorityValid ∧
      engine.ArtifactsValid)
    (fun _ _ _ _ kept moved => step_artifacts_kept_valid kept moved)
    ⟨constructed.sound, wellFormed.policy, wellFormed.authority, wellFormed.artifacts⟩
  have registered := current_distinct apart found
  have valid := artifacts artifact.id artifact (List.mem_of_getLast? found)
  rw [explainsSuccess_iff found registered known,
    evaluatesSuccess_iff registered fresh (fresh.wellFormed authority valid known) room]
  have governs (met : engine.RequirementsMet artifact request now) :
      (engine.state.policy.findRule artifact.kind artifact.stage destination).isSome = true := by
    obtain ⟨rule, governed, _⟩ := met
    rw [← fresh.stage, governed]
    rfl
  have same (governed :
      (engine.state.policy.findRule artifact.kind artifact.stage destination).isSome = true)
      (free : engine.state.pending[artifact.id]? = none) : engine.RequirementsMet artifact
        (explainRequest engine.state artifact.id artifact destination) now ↔
          engine.RequirementsMet artifact request now :=
    requirementsMet_asked free fresh.authority.symm
      ((explainedStage_governed governed).trans fresh.stage.symm)
  unfold Explicable
  constructor
  · intro agrees succeeds
    obtain ⟨admitted, standing | ⟨moves, free, met⟩⟩ := agrees.mp succeeds
    · exact ⟨admitted, .inl standing⟩
    · exact ⟨admitted, .inr ⟨governs met, moves, free⟩⟩
  · intro explicable
    constructor
    · intro succeeds
      obtain ⟨admitted, standing | ⟨governed, moves, free⟩⟩ := explicable succeeds
      · exact ⟨admitted, .inl standing⟩
      · rcases succeeds with standing | met
        · exact ⟨admitted, .inl standing⟩
        · exact ⟨admitted, .inr ⟨moves, free, (same governed free).mp met⟩⟩
    · rintro ⟨_, standing | ⟨_, free, met⟩⟩
      · exact .inl standing
      · exact .inr ((same (governs met) free).mpr met)

def registeredChoices : List (Engine → Op) :=
  [fun _ => .publishPolicy directPolicy, fun _ => .registerArtifact (sampleRegistration 1) 0]

def sampleCurrent (engine : Engine) : ArtifactRecord := (engine.state.findCurrent ⟨0, 5⟩).getD {}

def asksFreshly (engine : Engine) : Bool :=
  (engine.state.findCurrent ⟨0, 5⟩).isSome && engine.sampleCurrent.id == ⟨0, 5⟩ &&
    engine.state.pending.size < engine.config.maxPendingPromotions.toNat &&
    engine.state.pending[engine.sampleCurrent.id]?.isNone &&
    engine.state.idempotency[(⟨0, 1⟩ : PromotionRequestId)]?.isNone

theorem asksFreshly_fresh (asks : engine.asksFreshly = true) (destination : Stage) :
    engine.state.findCurrent engine.sampleCurrent.id = some engine.sampleCurrent ∧
      engine.state.pending.size < engine.config.maxPendingPromotions.toNat ∧
      engine.Fresh engine.sampleCurrent destination (engine.sampleRequest destination 1) := by
  simp only [asksFreshly, Bool.and_eq_true, beq_iff_eq, decide_eq_true_eq,
    Option.isNone_iff_eq_none] at asks
  obtain ⟨⟨⟨⟨present, named⟩, room⟩, free⟩, unused⟩ := asks
  obtain ⟨current, found⟩ := Option.isSome_iff_exists.mp present
  have current : engine.state.findCurrent ⟨0, 5⟩ = some engine.sampleCurrent := by
    rw [sampleCurrent, found, Option.getD_some]
  refine ⟨?_, room, named.symm, rfl, rfl, rfl, rfl, ⟨rfl, rfl⟩, unused, ?_⟩
  · rw [named, current]
  · intro reservation held
    rw [free] at held
    cases held

def explainedOutcome (engine : Engine) (destination : Stage) : Option PromotionOutcome :=
  (engine.explain engine.sampleCurrent.id destination 5 5).map PromotionDecision.outcome

theorem explains_of_outcome (explained : engine.explainedOutcome destination =
    some .promotionEligible) :
    engine.ExplainsSuccess engine.sampleCurrent.id destination 5 5 := by
  obtain ⟨decision, explained, eligible⟩ := Option.map_eq_some_iff.mp explained
  exact ⟨decision, explained, .inl eligible⟩

theorem explain_agrees_iff_promoted :
    ∃ trace engine, EngineRun sampleEngine trace engine ∧
      engine.ExplainsSuccess engine.sampleCurrent.id .promoted 5 5 ∧
      engine.EvaluatesSuccess (engine.sampleRequest .promoted 1) 5 := by
  have evaluated : (play step sampleEngine registeredChoices).any (fun played =>
      played.1.length == 2 && played.2.asksFreshly && played.2.admissionOpen &&
        (played.2.state.policy.findRule played.2.sampleCurrent.kind
          played.2.sampleCurrent.stage .promoted).isSome &&
        played.2.sampleCurrent.stage != .promoted &&
        played.2.explainedOutcome .promoted == some .promotionEligible) = true := by
    decide +kernel
  obtain ⟨trace, engine, run, checked⟩ := run_of_checked evaluated
  simp only [Bool.and_eq_true, beq_iff_eq, bne_iff_ne] at checked
  obtain ⟨⟨⟨⟨⟨length, asks⟩, admitted⟩, governed⟩, moves⟩, explained⟩ := checked
  obtain ⟨found, room, fresh⟩ := asksFreshly_fresh asks .promoted
  have free : engine.state.pending[engine.sampleCurrent.id]? = none := by
    simp only [asksFreshly, Bool.and_eq_true, Option.isNone_iff_eq_none] at asks
    exact asks.1.2
  have few : trace.countP (fun step => step.input.registers) ≤
      IdentityGenerator.kSpan * IdentityGenerator.kSpan := by
    calc
      trace.countP (fun step => step.input.registers) ≤ trace.length := List.countP_le_length
      _ = 2 := length
      _ ≤ IdentityGenerator.kSpan * IdentityGenerator.kSpan := by decide
  have explicable : engine.Explicable engine.sampleCurrent .promoted 5 :=
    fun _ => ⟨admitted, .inr ⟨governed, moves, free⟩⟩
  have agrees : engine.ExplainsSuccess engine.sampleCurrent.id .promoted 5 5 ↔
      engine.EvaluatesSuccess _ 5 :=
    (explain_agrees_iff sampleEngine_constructed run few found rfl room fresh).mpr explicable
  have explains := explains_of_outcome explained
  exact ⟨trace, engine, run, explains, agrees.mp explains⟩

/-- A retirement that the lifecycle forbids is explained as eligible. -/
theorem explain_overstates :
    ∃ engine, Reachable engine ∧ ∃ artifact request,
      engine.state.findCurrent artifact.id = some artifact ∧
      engine.state.pending.size < engine.config.maxPendingPromotions.toNat ∧
      engine.Fresh artifact .retired request ∧
      engine.ExplainsSuccess artifact.id .retired 5 5 ∧ ¬engine.EvaluatesSuccess request 5 := by
  obtain ⟨engine, reachable, checked⟩ := @Reachable.of_play _ registeredChoices (fun engine =>
      engine.asksFreshly && engine.explainedOutcome .retired == some .promotionEligible &&
        engine.outcomeOf (engine.sampleRequest .retired 1) 5 == some .transitionIllegal)
    sampleEngine_constructed (by decide +kernel)
  simp only [Bool.and_eq_true, beq_iff_eq] at checked
  obtain ⟨⟨asks, explained⟩, answered⟩ := checked
  obtain ⟨found, room, fresh⟩ := asksFreshly_fresh asks .retired
  refine ⟨engine, reachable, engine.sampleCurrent, engine.sampleRequest .retired 1, found, room,
    fresh, explains_of_outcome explained, ?_⟩
  rintro ⟨result, replied, favourable⟩
  obtain ⟨other, same, illegal⟩ := answers_of_outcome answered
  cases replied.symm.trans same
  simp [PromotionOutcome.Favourable, illegal] at favourable

end Engine

end ArtifactPromotion
