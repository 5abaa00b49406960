import ArtifactPromotion.Engine.Requests

/-! What a reservation whose holder is gone does to the next request for the artifact. -/

namespace ArtifactPromotion

open Runs

namespace Engine

variable {engine : Engine} {request : PromotionRequest} {now : UInt64}

def unreserved (engine : Engine) (id : ArtifactId) : Engine :=
  { engine with state := { engine.state with pending := engine.state.pending.erase id } }

def Answers (engine : Engine) (request : PromotionRequest) (now : UInt64)
    (outcome : PromotionOutcome) : Prop :=
  ∃ result, (engine.evaluate request now).1 = .ok result ∧ result.decision.outcome = outcome

/-- The plan named by the reservation has expired, and the reservation is older than the age the
configuration calls stale. -/
structure Dead (engine : Engine) (reservation : PendingTransition) (now : UInt64) : Prop where
  expired : ∃ plan, engine.state.plans[reservation.plan]? = some plan ∧ plan.hasExpiry = true ∧
    plan.expiresUnixMillis < now
  stale : reservation.createdUnixMillis.toNat + engine.config.reservationStaleMillis.toNat <
    now.toNat

/-- A fresh request under its own identity whose only obstacle is a dead reservation. -/
structure Obstructed (engine : Engine) (request : PromotionRequest) (now : UInt64) : Prop where
  passes : engine.Passes request
  fresh : engine.state.idempotency[request.request]? = none
  dead : ∃ reservation, engine.state.pending[request.artifact]? = some reservation ∧
    reservation.request ≠ request.request ∧ engine.Dead reservation now
  eligible : (engine.unreserved request.artifact).Answers request now .promotionEligible

/-- An eligible request names a registered revision with the expected digest, at a stage from which
the requested one can be reached. -/
structure Reaches (engine : Engine) (request : PromotionRequest) (artifact : ArtifactRecord) :
    Prop where
  registered : engine.state.findRevision request.artifact request.expectedRevision = some artifact
  digest : artifact.digest = request.expectedDigest
  stage : artifact.stage ≠ request.requestedStage
  edge : stageIsReachable engine.state.policy artifact.kind artifact.stage
    request.requestedStage = true

theorem evaluate_fresh (passes : engine.Passes request)
    (fresh : engine.state.idempotency[request.request]? = none) :
    engine.evaluate request now = engine.evaluateFresh request now := by
  simp [evaluate, passes.admitted, passes.wellFormed, fresh]

theorem eligible_reaches
    {result : EvaluationResult} (answered : (engine.evaluateFresh request now).1 = .ok result)
    (eligible : result.decision.outcome = .promotionEligible) :
    ∃ artifact, engine.Reaches request artifact := by
  unfold evaluateFresh at answered
  cases registered : engine.state.findRevision request.artifact request.expectedRevision with
  | none =>
      simp only [registered, Except.ok.injEq] at answered
      subst answered
      simp [PromotionDecision.addReason] at eligible
  | some artifact =>
      simp only [registered] at answered
      by_cases digest : artifact.digest = request.expectedDigest
      · simp only [digest, ne_eq, not_true_eq_false, if_false, Except.ok.injEq] at answered
        subst answered
        unfold decideTransition at eligible
        split at eligible
        · split at eligible <;> simp [PromotionDecision.addReason] at eligible
        rename_i stage
        split at eligible
        · simp [PromotionDecision.addReason] at eligible
        rename_i edge
        have edge : stageIsReachable engine.state.policy artifact.kind artifact.stage
            request.requestedStage = true := by simpa [CoordinatorState.openDecision] using edge
        exact ⟨artifact, registered, digest, stage, edge⟩
      · simp only [ne_eq, digest, not_false_eq_true, if_true, Except.ok.injEq] at answered
        subst answered
        simp [PromotionDecision.addReason] at eligible

theorem reserved_conflicts {artifact : ArtifactRecord} (reaches : engine.Reaches request artifact)
    (conflicted : GateContext.conflicted engine.state request.artifact request = true) :
    ∃ result, (engine.evaluateFresh request now).1 = .ok result ∧
      result.decision.outcome = .conflict := by
  have reserved : GateContext.conflicted engine.state.openDecision request.artifact request =
      true := conflicted
  have edge : stageIsReachable engine.state.openDecision.policy artifact.kind artifact.stage
      request.requestedStage = true := reaches.edge
  simp only [evaluateFresh, reaches.registered, reaches.digest, ne_eq, not_true_eq_false, if_false,
    decideTransition, reaches.stage, edge, Bool.not_true, Bool.false_eq_true, reserved, if_true]
  exact ⟨_, rfl, rfl⟩

/-- Nothing about a dead reservation lets the next request through: every request it obstructs is
answered with a conflict. -/
theorem obstructed_conflicts (obstructed : engine.Obstructed request now) :
    engine.Answers request now .conflict := by
  obtain ⟨result, answered, eligible⟩ := obstructed.eligible
  have passes : (engine.unreserved request.artifact).Passes request :=
    ⟨obstructed.passes.admitted, obstructed.passes.wellFormed⟩
  rw [evaluate_fresh passes obstructed.fresh] at answered
  obtain ⟨artifact, reaches⟩ := eligible_reaches answered eligible
  have reaches : engine.Reaches request artifact :=
    ⟨reaches.registered, reaches.digest, reaches.stage, reaches.edge⟩
  obtain ⟨reservation, held, other, _⟩ := obstructed.dead
  have conflicted : GateContext.conflicted engine.state request.artifact request = true := by
    simp [GateContext.conflicted, held, other]
  unfold Answers
  rw [evaluate_fresh obstructed.passes obstructed.fresh]
  exact reserved_conflicts reaches conflicted

def reservedChoices : List (Engine → Op) :=
  [fun _ => .publishPolicy directPolicy,
    fun _ => .registerArtifact (sampleRegistration 1) 0,
    fun engine => .evaluate (engine.sampleRequest .promoted 1) 0]

def outcomeOf (engine : Engine) (request : PromotionRequest) (now : UInt64) :
    Option PromotionOutcome :=
  (engine.evaluate request now).1.toOption.map fun result => result.decision.outcome

theorem answers_of_outcome {outcome : PromotionOutcome}
    (answered : engine.outcomeOf request now = some outcome) :
    engine.Answers request now outcome := by
  unfold outcomeOf at answered
  cases replied : (engine.evaluate request now).1 with
  | error status => simp [replied, Except.toOption] at answered
  | ok result => exact ⟨result, replied, by simpa [replied, Except.toOption] using answered⟩

def obstructs (engine : Engine) (request : PromotionRequest) (now : UInt64) : Bool :=
  engine.admissionOpen && requestIsWellFormed request &&
    (engine.state.idempotency[request.request]?).isNone &&
    ((engine.state.pending[request.artifact]?).any fun reservation =>
      reservation.request != request.request &&
      ((engine.state.plans[reservation.plan]?).any fun plan =>
        plan.hasExpiry && decide (plan.expiresUnixMillis < now)) &&
      decide (reservation.createdUnixMillis.toNat + engine.config.reservationStaleMillis.toNat <
        now.toNat)) &&
    (engine.unreserved request.artifact).outcomeOf request now == some .promotionEligible

theorem obstructed_of_obstructs (obstructs : engine.obstructs request now = true) :
    engine.Obstructed request now := by
  simp only [Engine.obstructs, Bool.and_eq_true, Option.isNone_iff_eq_none, Option.any_eq_true,
    bne_iff_ne, decide_eq_true_eq, beq_iff_eq] at obstructs
  obtain ⟨⟨⟨⟨admitted, wellFormed⟩, fresh⟩, reservation, held, ⟨other, plan, planned, lifetime⟩,
    stale⟩, eligible⟩ := obstructs
  exact ⟨⟨admitted, wellFormed⟩, fresh,
    ⟨reservation, held, other, ⟨plan, planned, lifetime⟩, stale⟩, answers_of_outcome eligible⟩

theorem reservedChoices_obstructed :
    ∃ engine request, Reachable engine ∧ engine.Obstructed request 60001 ∧
      engine.Answers request 60001 .conflict := by
  have evaluated : ((play step sampleEngine reservedChoices).any fun played =>
      let request := played.2.sampleRequest .promoted 2
      played.2.obstructs request 60001 && played.2.outcomeOf request 60001 == some .conflict) =
      true := by
    decide +kernel
  obtain ⟨engine, reachable, checked⟩ := Reachable.of_play
    (fun engine =>
      let request := engine.sampleRequest .promoted 2
      engine.obstructs request 60001 && engine.outcomeOf request 60001 == some .conflict)
    sampleEngine_constructed evaluated
  simp only [Bool.and_eq_true, beq_iff_eq] at checked
  obtain ⟨obstructs, conflicted⟩ := checked
  exact ⟨engine, _, reachable, obstructed_of_obstructs obstructs, answers_of_outcome conflicted⟩

theorem obstructed_conflicts_expired :
    ∃ engine request, Reachable engine ∧ engine.Obstructed request 60001 ∧
      engine.Answers request 60001 .conflict := by
  obtain ⟨engine, request, reachable, obstructed, _⟩ := reservedChoices_obstructed
  exact ⟨engine, request, reachable, obstructed, obstructed_conflicts obstructed⟩

/-- An expired reservation still keeps an eligible request out. -/
theorem dead_holder_blocks :
    ¬∀ (engine : Engine) (request : PromotionRequest) (now : UInt64), Reachable engine →
      engine.Obstructed request now → ¬engine.Answers request now .conflict := by
  intro unblocked
  obtain ⟨engine, request, reachable, obstructed, conflicted⟩ := reservedChoices_obstructed
  exact unblocked engine request 60001 reachable obstructed conflicted

end Engine

end ArtifactPromotion
