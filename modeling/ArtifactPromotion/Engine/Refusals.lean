import ArtifactPromotion.Engine.Revisions

/-! What a refused operation leaves behind. A refused commit touches one decision and one
reservation; an error answer leaves the state as it was, with two exceptions. -/

namespace ArtifactPromotion

open Runs

/-- At most the decision under `decision` and the reservation of `artifact` differ. -/
structure Settled (before : CoordinatorState) (decision : PromotionDecisionId)
    (artifact : ArtifactId) (after : CoordinatorState) : Prop where
  rest : after = { before with decisions := after.decisions, pending := after.pending }
  decisions : ∀ id, id ≠ decision → after.decisions[id]? = before.decisions[id]?
  pending : ∀ id, id ≠ artifact → after.pending[id]? = before.pending[id]?

namespace Settled

variable {before middle after : CoordinatorState} {decision : PromotionDecisionId}
  {artifact : ArtifactId}

theorem refl (state : CoordinatorState) : Settled state decision artifact state :=
  ⟨rfl, fun _ _ => rfl, fun _ _ => rfl⟩

theorem trans (first : Settled before decision artifact middle)
    (second : Settled middle decision artifact after) : Settled before decision artifact after := by
  constructor
  case rest =>
    rw [second.rest, first.rest]
  case decisions =>
    intro id other
    rw [second.decisions id other, first.decisions id other]
  case pending =>
    intro id other
    rw [second.pending id other, first.pending id other]

theorem decide (state : CoordinatorState) (decision : PromotionDecisionId) (artifact : ArtifactId)
    (value : PromotionDecision) : Settled state decision artifact
      { state with decisions := state.decisions.insert decision value } := by
  refine ⟨rfl, ?_, fun _ _ => rfl⟩
  intro id other
  exact OrderedMaps.getElem?_insert_ne _ _ other

theorem release (state : CoordinatorState) :
    Settled state decision artifact (state.releasePending artifact) := by
  refine ⟨rfl, fun _ _ => rfl, ?_⟩
  intro id other
  exact OrderedMaps.getElem?_erase_ne _ other

end Settled

namespace Engine

variable {engine next : Engine}

theorem closeCommit_settled (plan : PromotionPlan) (outcome : PromotionOutcome)
    (decision : PromotionDecision) (released : Bool) :
    Settled engine.state plan.decision plan.artifact
      (engine.closeCommit plan outcome decision released).2.state := by
  have decided := Settled.decide engine.state plan.decision plan.artifact decision
  cases released with
  | false => exact decided
  | true => exact decided.trans (.release _)

theorem closeStale_settled (plan : PromotionPlan) :
    Settled engine.state plan.decision plan.artifact (engine.closeStale plan).2.state :=
  (Settled.decide engine.state _ _ _).trans (.release _)

def Refused (answer : Result CommitResult) : Prop :=
  ∀ result, answer = .ok result → result.outcome ≠ .promotionCommitted

theorem revalidate_settled {plan : PromotionPlan} {artifact : ArtifactRecord}
    {decision : PromotionDecision} {now : UInt64}
    (refused : Refused (engine.revalidate plan artifact decision now).1) :
    Settled engine.state plan.decision plan.artifact
      (engine.revalidate plan artifact decision now).2.state := by
  revert refused
  unfold revalidate
  dsimp only
  split
  · intro _
    exact closeCommit_settled ..
  split
  · intro _
    exact closeCommit_settled ..
  split
  · intro _
    exact closeCommit_settled ..
  · intro refused
    exact absurd rfl (refused _ rfl)

theorem commitStored_settled {plan : PromotionPlan} {now : UInt64}
    (refused : Refused (engine.commitStored plan now).1) :
    Settled engine.state plan.decision plan.artifact (engine.commitStored plan now).2.state := by
  have touched : Settled engine.state plan.decision plan.artifact (engine.touch plan).state :=
    .decide _ _ _ _
  revert refused
  unfold commitStored
  dsimp only
  split
  · intro _
    exact touched
  split
  · intro _
    exact touched.trans (@closeCommit_settled (engine.touch plan) plan _ _ _)
  split
  · intro _
    exact touched.trans (@closeCommit_settled (engine.touch plan) plan _ _ _)
  · intro refused
    exact touched.trans (@revalidate_settled (engine.touch plan) plan _ _ _ refused)

structure CommitFrame (before : CoordinatorState) (plan : PromotionPlan)
    (after : CoordinatorState) : Prop where
  rest : after = { before with decisions := after.decisions, pending := after.pending }
  decisions : ∀ id, after.decisions[id]? ≠ before.decisions[id]? →
    ∃ stored, before.plans[plan.id]? = some stored ∧ id = stored.decision
  pending : ∀ id, after.pending[id]? ≠ before.pending[id]? → id = plan.artifact

theorem CommitFrame.refl (state : CoordinatorState) (plan : PromotionPlan) :
    CommitFrame state plan state :=
  ⟨rfl, fun _ changes => absurd rfl changes, fun _ changes => absurd rfl changes⟩

theorem CommitFrame.of_settled {before after : CoordinatorState} {plan : PromotionPlan}
    (stored : before.plans[plan.id]? = some plan)
    (settled : Settled before plan.decision plan.artifact after) :
    CommitFrame before plan after := by
  constructor
  case rest => exact settled.rest
  case decisions =>
    intro id changes
    by_contra other
    apply changes
    apply settled.decisions
    intro named
    exact other ⟨plan, stored, named⟩
  case pending =>
    intro id changes
    by_contra other
    exact changes (settled.pending id other)

/-- A commit that is not answered `PromotionCommitted` changes at most the decision its stored plan
names and the reservation of the plan's artifact. -/
theorem commit_refused_frame (engine : Engine) (plan : PromotionPlan) (now : UInt64)
    (refused : Refused (engine.commit plan now).1) :
    CommitFrame engine.state plan (engine.commit plan now).2.state := by
  revert refused
  unfold commit
  split
  · intro _
    exact .refl ..
  split
  · intro _
    exact .refl ..
  cases found : engine.state.plans[plan.id]? with
  | none =>
      intro _
      exact .refl ..
  | some stored =>
      dsimp only
      split
      · intro _
        exact .refl ..
      rename_i same
      have stored_eq : stored = plan := not_not.mp same
      subst stored_eq
      split
      · intro _
        exact .of_settled found (closeStale_settled _)
      · intro refused
        exact .of_settled found (commitStored_settled refused)

def refusesLate (engine : Engine) : Bool :=
  engine.state.plans[(engine.planFor 1).id]? == some (engine.planFor 1) &&
    match (engine.commit (engine.planFor 1) 60001).1 with
    | .ok result => result.outcome == .revalidationRequired
    | .error _ => false

theorem commit_refused_frame_late :
    ∃ (engine : Engine) (plan : PromotionPlan) (now : UInt64), Reachable engine ∧
      engine.state.plans[plan.id]? = some plan ∧ Refused (engine.commit plan now).1 ∧
      CommitFrame engine.state plan (engine.commit plan now).2.state := by
  have evaluated : ((play step sampleEngine (promoteChoices.take 3)).any fun played =>
      refusesLate played.2) = true := by
    have accepts := samplePlan_accepted
    have answer := commit_presented 60001 accepts.admitted accepts.wellFormed accepts.stored
      accepts.policyCurrent
    have stored : plannedEngine.state.plans[(plannedEngine.planFor 1).id]? =
        some (plannedEngine.planFor 1) := accepts.stored
    have late : (plannedEngine.commit (plannedEngine.planFor 1) 60001).1 =
        (plannedEngine.commitStored samplePlan 60001).1 := congrArg Prod.fst answer
    rw [planned_played, Option.any_some, refusesLate, stored, late, beq_self_eq_true]
    decide +kernel
  obtain ⟨engine, reachable, checked⟩ :=
    Reachable.of_play refusesLate sampleEngine_constructed evaluated
  simp only [refusesLate, Bool.and_eq_true, beq_iff_eq] at checked
  obtain ⟨stored, late⟩ := checked
  have refused : Refused (engine.commit (engine.planFor 1) 60001).1 := by
    intro result answered
    simp only [answered, beq_iff_eq] at late
    rw [late]
    simp
  exact ⟨engine, engine.planFor 1, 60001, reachable, stored, refused,
    commit_refused_frame engine _ _ refused⟩

end Engine

def Reply.failed : Reply → Bool
  | .published (.error _) | .restarted (.error _) | .registered (.error _) | .submitted (.error _)
  | .evaluated (.error _) | .committed (.error _) | .mutated (.error _) | .vetoed (.error _)
  | .generation (.error _) | .reloaded (.error _) => true
  | _ => false

/-- The operations that leave the engine as it was unless they succeed and count a new state. -/
def Op.transacts : Op → Bool
  | .registerArtifact _ _ | .commit _ _ | .recoverInFlight | .closeAdmission | .openAdmission =>
      false
  | _ => true

/-- An error answer comes with the state the operation started from. -/
def Atomic {α : Type} (engine : Engine) (outcome : Result α × Engine) : Prop :=
  ∀ status, outcome.1 = .error status → outcome.2.state = engine.state

/-- The operation leaves the engine as it was, or it succeeds and counts a new state. -/
inductive Transacts {α : Type} (engine : Engine) : Result α × Engine → Prop
  | unchanged (answer : Result α) : Transacts engine (answer, engine)
  | counted (value : α) (state : CoordinatorState) :
      Transacts engine (.ok value, engine.dirty state)

namespace Transacts

variable {α : Type} {engine : Engine}

theorem guard {refuses : Prop} [Decidable refuses] {answer : Result α} {rest : Result α × Engine}
    (transacts : Transacts engine rest) :
    Transacts engine (if refuses then (answer, engine) else rest) := by
  by_cases refused : refuses
  · rw [if_pos refused]
    exact unchanged answer
  · rw [if_neg refused]
    exact transacts

theorem atomic {outcome : Result α × Engine} (transacts : Transacts engine outcome) :
    Atomic engine outcome := by
  intro status failed
  cases transacts with
  | unchanged answer => rfl
  | counted value state => cases failed

end Transacts

namespace Atomic

variable {α : Type} {engine : Engine}

theorem perform {outcome : Result α × Engine} {wrap : Result α → Reply} {reply : Reply}
    {next : Engine} (atomic : Atomic engine outcome)
    (moved : Engine.answerWith wrap outcome = some (reply, next)) (failed : reply.failed = true)
    (wraps : ∀ value, (wrap (.ok value)).failed = false) :
    next.state = engine.state := by
  obtain ⟨answer, after⟩ := outcome
  unfold Engine.answerWith at moved
  cases moved
  cases answer with
  | error status => exact atomic status rfl
  | ok value =>
      rw [wraps value] at failed
      cases failed

end Atomic

namespace Engine

variable {engine next : Engine}

theorem publishPolicy_transacts {policy : PromotionPolicy}
    {outcome : Result PolicyGeneration × Engine}
    (published : engine.publishPolicy policy = some outcome) : Transacts engine outcome := by
  obtain ⟨validation, _, rfl⟩ := Option.map_eq_some_iff.mp published
  cases validation with
  | error status => exact .unchanged _
  | ok done => exact .guard (.counted _ _)

theorem restart_transacts (epoch : CoordinatorEpoch) : Transacts engine (engine.restart epoch) := by
  unfold restart
  exact .guard (.counted _ _)

theorem submitEvidence_transacts (submission : EvidenceSubmission) :
    Transacts engine (engine.submitEvidence submission) := by
  unfold submitEvidence
  split
  · exact .unchanged _
  refine .guard ?_
  split
  · exact .unchanged _
  · exact .guard (.guard (.guard (.counted _ _)))

theorem evaluateFresh_transacts (request : PromotionRequest) (now : UInt64) :
    Transacts engine (engine.evaluateFresh request now) := by
  unfold evaluateFresh
  dsimp only
  split
  · exact .counted _ _
  split
  · exact .counted _ _
  · exact .counted _ _

theorem evaluate_transacts (request : PromotionRequest) (now : UInt64) :
    Transacts engine (engine.evaluate request now) := by
  unfold evaluate
  refine .guard (.guard ?_)
  split
  · exact evaluateFresh_transacts request now
  refine .guard ?_
  split
  · exact .unchanged _
  · exact evaluateFresh_transacts request now

theorem revalidate_answers (plan : PromotionPlan) (artifact : ArtifactRecord)
    (decision : PromotionDecision) (now : UInt64) :
    ∃ result, (engine.revalidate plan artifact decision now).1 = .ok result := by
  unfold revalidate
  dsimp only
  split
  · exact ⟨_, rfl⟩
  split
  · exact ⟨_, rfl⟩
  split
  · exact ⟨_, rfl⟩
  · exact ⟨_, rfl⟩

theorem commitStored_answers (plan : PromotionPlan) (now : UInt64) :
    ∃ result, (engine.commitStored plan now).1 = .ok result := by
  unfold commitStored
  dsimp only
  split
  · exact ⟨_, rfl⟩
  split
  · exact ⟨_, rfl⟩
  split
  · exact ⟨_, rfl⟩
  · exact revalidate_answers ..

theorem commit_atomic (plan : PromotionPlan) (now : UInt64) :
    Atomic engine (engine.commit plan now) := by
  intro status failed
  revert failed
  unfold commit
  split
  · intro _
    rfl
  split
  · intro _
    rfl
  split
  · intro _
    rfl
  split
  · intro _
    rfl
  split
  · intro failed
    cases failed
  · intro failed
    obtain ⟨result, answered⟩ := @commitStored_answers engine plan now
    rw [answered] at failed
    cases failed

theorem quarantine_transacts (id : ArtifactId) (reasonClass detail : Text)
    (authority : CoordinatorAuthority) :
    Transacts engine (engine.quarantine id reasonClass detail authority) := by
  unfold quarantine
  refine .guard (.guard (.guard ?_))
  split
  · exact .unchanged _
  · exact .guard (.guard (.guard (.counted _ _)))

theorem releaseQuarantine_transacts (id : ArtifactId) (authority : CoordinatorAuthority)
    (now later : UInt64) : Transacts engine (engine.releaseQuarantine id authority now later) := by
  unfold releaseQuarantine
  refine .guard ?_
  split
  · exact .unchanged _
  refine .guard (.guard ?_)
  dsimp only
  split
  · exact .counted _ _
  · exact .counted _ _

theorem revoke_transacts (id : ArtifactId) (decision : PromotionDecisionId)
    (reasonClass detail : Text) (authority : CoordinatorAuthority) (cause : EvidenceId)
    (now : UInt64) :
    Transacts engine (engine.revoke id decision reasonClass detail authority cause now) := by
  unfold revoke
  refine .guard (.guard ?_)
  split
  · exact .unchanged _
  · exact .guard (.guard (.guard (.guard (.guard (.counted _ _)))))

theorem supersede_transacts (id successor : ArtifactId) (reason : Text)
    (authority : CoordinatorAuthority) (now : UInt64) :
    Transacts engine (engine.supersede id successor reason authority now) := by
  unfold supersede
  refine .guard (.guard (.guard ?_))
  split
  · exact .unchanged _
  split
  · exact .unchanged _
  · exact .guard (.guard (.guard (.guard (.counted _ _))))

theorem retire_transacts (id : ArtifactId) (authority : CoordinatorAuthority) (now : UInt64) :
    Transacts engine (engine.retire id authority now) := by
  unfold retire
  refine .guard ?_
  split
  · exact .unchanged _
  · exact .guard (.guard (.guard (.counted _ _)))

theorem revokeEvidence_transacts (id : EvidenceId) (reason : Text)
    (authority : CoordinatorAuthority) :
    Transacts engine (engine.revokeEvidence id reason authority) := by
  unfold revokeEvidence
  refine .guard ?_
  split
  · exact .unchanged _
  · exact .guard (.guard (.counted _ _))

theorem setVeto_transacts (id : ArtifactId) (message : String) (change : VetoState → VetoState) :
    Transacts engine (engine.setVeto id message change) := by
  unfold setVeto
  exact .guard (.counted _ _)

theorem setCompatibilityGeneration_transacts (generation : CompatibilityGeneration) :
    Transacts engine (engine.setCompatibilityGeneration generation) := by
  unfold setCompatibilityGeneration
  exact .guard (.guard (.counted _ _))

theorem installState_transacts {state : CoordinatorState} {outcome : Result Unit × Engine}
    (installed : engine.installState state = some outcome) : Transacts engine outcome := by
  obtain ⟨consistency, _, rfl⟩ := Option.map_eq_some_iff.mp installed
  cases consistency with
  | error status => exact .unchanged _
  | ok done => exact .counted _ _

theorem reload_transacts {advance : Bool} {outcome : Result Unit × Engine}
    (reloaded : engine.reload advance = some outcome) : Transacts engine outcome := by
  unfold reload at reloaded
  split at reloaded
  · cases reloaded
    exact .unchanged _
  · exact installState_transacts reloaded

theorem perform_transacts {op : Op} {reply : Reply} (transacts : op.transacts = true)
    (moved : engine.perform op = some (reply, next)) :
    next = engine ∨ reply.failed = false ∧ ∃ state, next = engine.dirty state := by
  have answered {α : Type} {outcome : Result α × Engine} {wrap : Result α → Reply}
      (held : Transacts engine outcome) (wrapped : answerWith wrap outcome = some (reply, next))
      (wraps : ∀ value, (wrap (.ok value)).failed = false) :
      next = engine ∨ reply.failed = false ∧ ∃ state, next = engine.dirty state := by
    cases wrapped
    cases held with
    | unchanged answer => exact .inl rfl
    | counted value state => exact .inr ⟨wraps value, state, rfl⟩
  cases op with
  | publishPolicy policy =>
      rw [perform] at moved
      obtain ⟨outcome, published, wrapped⟩ := Option.bind_eq_some_iff.mp moved
      exact answered (publishPolicy_transacts published) wrapped fun _ => rfl
  | reload advance =>
      rw [perform] at moved
      obtain ⟨outcome, reloaded, wrapped⟩ := Option.bind_eq_some_iff.mp moved
      exact answered (reload_transacts reloaded) wrapped fun _ => rfl
  | restart epoch => exact answered (restart_transacts epoch) moved fun _ => rfl
  | submitEvidence submission =>
      exact answered (submitEvidence_transacts submission) moved fun _ => rfl
  | evaluate request now => exact answered (evaluate_transacts request now) moved fun _ => rfl
  | quarantine id reasonClass detail authority =>
      exact answered (quarantine_transacts id reasonClass detail authority) moved fun _ => rfl
  | releaseQuarantine id authority now later =>
      exact answered (releaseQuarantine_transacts id authority now later) moved fun _ => rfl
  | revoke id decision reasonClass detail authority cause now =>
      exact answered (revoke_transacts id decision reasonClass detail authority cause now) moved
        fun _ => rfl
  | supersede id successor reason authority now =>
      exact answered (supersede_transacts id successor reason authority now) moved fun _ => rfl
  | retire id authority now => exact answered (retire_transacts id authority now) moved fun _ => rfl
  | revokeEvidence id reason authority =>
      exact answered (revokeEvidence_transacts id reason authority) moved fun _ => rfl
  | setSecurityVeto id active reason | setDependencyVeto id active reason =>
      exact answered (setVeto_transacts id _ _) moved fun _ => rfl
  | setCompatibilityGeneration generation =>
      exact answered (setCompatibilityGeneration_transacts _) moved fun _ => rfl
  | registerArtifact registration now => cases transacts
  | commit plan now => cases transacts
  | recoverInFlight | closeAdmission | openAdmission => cases transacts

theorem stored_chain {id : ArtifactId} (nonempty : engine.state.chain id ≠ []) :
    engine.state.artifacts.insert id (engine.state.chain id) = engine.state.artifacts := by
  apply OrderedMaps.insert_same
  unfold CoordinatorState.chain at nonempty ⊢
  rw [Std.ExtTreeMap.getD_eq_getD_getElem?] at nonempty ⊢
  cases held : engine.state.artifacts[id]? with
  | none =>
      rw [held] at nonempty
      exact absurd rfl nonempty
  | some chain => rfl

theorem registerArtifact_refused (valid : engine.config.valid = true)
    {registration : ArtifactRegistration} {now : UInt64} {status : Status}
    (refused : (engine.registerArtifact registration now).1 = .error status) :
    (engine.registerArtifact registration now).2.state = engine.state ∨
      (engine.registerArtifact registration now).2.state = { engine.state with
        revisionGenerator := engine.state.revisionGenerator.advance } := by
  have bounded : 0 < engine.config.maxArtifactRevisionsPerId.toNat := by
    have positive : engine.config.maxArtifactRevisionsPerId > 0 := by
      unfold EngineConfig.valid at valid
      simp only [Bool.and_eq_true, decide_eq_true_eq] at valid
      exact valid.1.2
    exact UInt64.lt_iff_toNat_lt.mp positive
  have kept (nonempty : engine.state.chain registration.id ≠ []) :
      { engine.state with
        revisionGenerator := engine.state.revisionGenerator.advance
        artifacts := engine.state.artifacts.insert registration.id
          (engine.state.chain registration.id) } =
        { engine.state with revisionGenerator := engine.state.revisionGenerator.advance } := by
    rw [stored_chain nonempty]
  revert refused
  unfold registerArtifact
  split
  · intro _
    exact .inl rfl
  split
  · intro _
    exact .inl rfl
  split
  · intro _
    exact .inl rfl
  split
  · intro _
    exact .inl rfl
  dsimp only
  split
  · rename_i full
    intro _
    refine .inr (kept ?_)
    intro empty
    rw [empty, List.length_nil] at full
    omega
  split
  · rename_i repeated
    intro _
    refine .inr (kept ?_)
    intro empty
    rw [empty] at repeated
    cases repeated
  · intro refused
    cases refused

end Engine

/-- An operation that was answered with an error: nothing changed, or a registration was refused
after its revision identity was allocated. -/
inductive ErrorKept (engine : Engine) : Op → Engine → Prop
  | unchanged {op next} (same : next.state = engine.state) : ErrorKept engine op next
  | allocated {registration now next}
      (changed : next.state = { engine.state with
        revisionGenerator := engine.state.revisionGenerator.advance }) :
      ErrorKept engine (.registerArtifact registration now) next

/-- What the evaluation of a `promote` call leaves behind when it issued a plan. -/
def EvaluationKept (config : EngineConfig) (request : PromotionRequest)
    (before after : CoordinatorState) : Prop :=
  ∃ (decision : PromotionDecision) (plan : PromotionPlan) (reservation : PendingTransition)
    (event : HistoryEvent) (kept : OrderedMap PromotionPlanId PromotionPlan),
    Evicts before.plans kept ∧ after = { before with
      decisions := before.decisions.insert decision.id decision
      plans := kept.insert plan.id plan
      pending := before.pending.insert plan.artifact reservation
      idempotency := before.idempotency.insert request.request (idempotencyRecord request decision)
      history := putBounded config.maxHistoryEvents before.history event.sequence event
      commitSequence := before.commitSequence.next.next
      decisionSequence := before.decisionSequence.next
      decisionGenerator := before.decisionGenerator.advance
      planGenerator := before.planGenerator.advance
      reservationGenerator := before.reservationGenerator.advance }

namespace Engine

variable {engine next : Engine}

theorem issuePlan_state {config : EngineConfig} {state : CoordinatorState}
    {request : PromotionRequest} {artifact : ArtifactRecord} {evaluation : GateEvaluation}
    {now : UInt64} {plan : PromotionPlan}
    (planned : (issuePlan config state request artifact evaluation now).plan = some plan) :
    ∃ (reservation : PendingTransition) (kept : OrderedMap PromotionPlanId PromotionPlan),
      Evicts state.plans kept ∧
        (issuePlan config state request artifact evaluation now).state = { state with
          plans := kept.insert plan.id plan
          pending := state.pending.insert plan.artifact reservation
          commitSequence := state.commitSequence.next
          planGenerator := state.planGenerator.advance
          reservationGenerator := state.reservationGenerator.advance } := by
  have evicts : Evicts state.plans (if state.plans.size ≥ config.maxPlansRetained.toNat then
      eraseFirst state.plans else state.plans) := by
    split
    · exact .inr rfl
    · exact .inl rfl
  revert planned
  unfold issuePlan
  dsimp only
  generalize (if state.plans.size ≥ config.maxPlansRetained.toNat then eraseFirst state.plans
    else state.plans) = kept at evicts ⊢
  split
  · intro planned
    cases planned
    exact ⟨_, kept, evicts, rfl⟩
  · intro planned
    cases planned

theorem decideTransition_state {config : EngineConfig} {state : CoordinatorState}
    {request : PromotionRequest} {artifact : ArtifactRecord} {now : UInt64}
    {decision : PromotionDecision} {plan : PromotionPlan}
    (planned : (decideTransition config state request artifact now decision).plan = some plan) :
    ∃ (reservation : PendingTransition) (kept : OrderedMap PromotionPlanId PromotionPlan),
      Evicts state.plans kept ∧
        (decideTransition config state request artifact now decision).state = { state with
          plans := kept.insert plan.id plan
          pending := state.pending.insert plan.artifact reservation
          commitSequence := state.commitSequence.next
          planGenerator := state.planGenerator.advance
          reservationGenerator := state.reservationGenerator.advance } := by
  revert planned
  unfold decideTransition
  split
  · split
    · intro planned
      cases planned
    · intro planned
      cases planned
  split
  · intro planned
    cases planned
  split
  · intro planned
    cases planned
  dsimp only
  split
  · intro planned
    cases planned
  · exact issuePlan_state

theorem evaluateFresh_kept {request : PromotionRequest} {now : UInt64} {result : EvaluationResult}
    (answered : engine.evaluateFresh request now = (.ok result, next))
    (planned : result.hasPlan = true) :
    EvaluationKept engine.config request engine.state next.state := by
  revert answered
  unfold evaluateFresh
  dsimp only
  split
  · intro answered
    cases answered
    cases planned
  split
  · intro answered
    cases answered
    cases planned
  · intro answered
    cases answered
    obtain ⟨plan, derived⟩ := Option.isSome_iff_exists.mp planned
    obtain ⟨reservation, kept, evicts, state_eq⟩ := decideTransition_state derived
    unfold EvaluationKept CoordinatorState.settle dirty
    dsimp only
    rw [state_eq]
    exact ⟨_, plan, reservation, _, kept, evicts, rfl⟩

theorem evaluate_kept {request : PromotionRequest} {now : UInt64} {result : EvaluationResult}
    (answered : engine.evaluate request now = (.ok result, next))
    (planned : result.hasPlan = true) :
    EvaluationKept engine.config request engine.state next.state := by
  revert answered
  unfold evaluate
  split
  · intro answered
    cases answered
  split
  · intro answered
    cases answered
  split
  · intro answered
    exact evaluateFresh_kept answered planned
  split
  · intro answered
    cases answered
  split
  · intro answered
    cases answered
    cases planned
  · intro answered
    exact evaluateFresh_kept answered planned

theorem perform_failed (valid : engine.config.valid = true) {op : Op} {reply : Reply}
    (moved : engine.perform op = some (reply, next)) (failed : reply.failed = true) :
    ErrorKept engine op next := by
  by_cases transacts : op.transacts = true
  · rcases perform_transacts transacts moved with rfl | ⟨succeeded, _⟩
    · exact .unchanged rfl
    · rw [succeeded] at failed
      cases failed
  cases op with
  | registerArtifact registration now =>
      cases answered : (engine.registerArtifact registration now).1 with
      | ok record =>
          rw [perform, answerWith, answered] at moved
          cases moved
          cases failed
      | error status =>
          cases moved
          rcases registerArtifact_refused valid answered with same | allocated
          · exact .unchanged same
          · exact .allocated allocated
  | commit plan now =>
      exact .unchanged ((commit_atomic plan now).perform moved failed fun _ => rfl)
  | recoverInFlight | closeAdmission | openAdmission =>
      cases moved
      cases failed
  | _ => exact absurd rfl transacts

/-- A `promote` call that issued a plan at its first step and was refused at its second one. -/
structure FailedPromote (request : PromotionRequest) (call last : EngineStep) : Prop where
  answers : ∃ now later result status, call.input = .evaluate request now ∧
    call.output = .evaluated (.ok result) ∧ result.hasPlan = true ∧
    last.input = .commit result.plan later ∧ last.output = .committed (.error status)

theorem failedPromote_kept {request : PromotionRequest} {call last : EngineStep}
    {between : List EngineStep} {final : Engine}
    (run : EngineRun engine (call :: (between ++ [last])) final)
    (failed : FailedPromote request call last) :
    EvaluationKept engine.config request engine.state call.after.state ∧
      final.state = last.before.state := by
  obtain ⟨now, later, result, status, asked, planned, hasPlan, committed, refused⟩ :=
    failed.answers
  cases run with
  | cons called rest =>
      dsimp only at asked planned
      subst asked planned
      obtain ⟨_, moved, ended⟩ := rest.cut
      cases ended
      constructor
      · have evaluated := (step_eq_some called).1
        simp only [perform, answerWith, Option.some.injEq, Prod.mk.injEq,
          Reply.evaluated.injEq] at evaluated
        exact evaluate_kept (Prod.ext evaluated.1 evaluated.2) hasPlan
      · have answered := (step_eq_some moved).1
        rw [committed, refused] at answered
        exact (commit_atomic result.plan later).perform answered rfl fun _ => rfl

theorem promote_failed_kept {request : PromotionRequest} {now later : UInt64} {status : Status}
    (failed : engine.promote request now later = (.error status, next)) :
    next.state = engine.state ∨
      EvaluationKept engine.config request engine.state next.state := by
  unfold promote at failed
  cases evaluated : engine.evaluate request now with
  | mk answer middle =>
      rw [evaluated] at failed
      cases answer with
      | error refusal =>
          cases failed
          have same := (@evaluate_transacts engine request now).atomic status
          rw [evaluated] at same
          exact .inl (same rfl)
      | ok result =>
          dsimp only at failed
          split at failed
          · cases failed
          · rename_i planned
            right
            have same := @commit_atomic middle result.plan later status
            rw [failed] at same
            rw [same rfl]
            exact evaluate_kept evaluated (by simpa using planned)

/-- An error answer leaves the state as it was, but for a revision identity that a refused
registration allocated, and for what the evaluation half of a `promote` call stored. -/
theorem reachable_error_kept (reachable : Reachable engine) :
    (∀ op reply next, engine.perform op = some (reply, next) → reply.failed = true →
      ErrorKept engine op next) ∧
    (∀ state status next, engine.installState state = some (.error status, next) →
      next.state = engine.state) ∧
    (∀ request call between last final, EngineRun engine (call :: (between ++ [last])) final →
      FailedPromote request call last →
        EvaluationKept engine.config request engine.state call.after.state ∧
          final.state = last.before.state) ∧
    (∀ request now later status next, engine.promote request now later = (.error status, next) →
      next.state = engine.state ∨
        EvaluationKept engine.config request engine.state next.state) := by
  have valid := reachable.config_valid
  refine ⟨?_, ?_, ?_, ?_⟩
  · intro op reply next moved failed
    exact perform_failed valid moved failed
  · intro state status next installed
    exact (installState_transacts installed).atomic status rfl
  · intro request call between last final run failed
    exact failedPromote_kept run failed
  · intro request now later status next failed
    exact promote_failed_kept failed

def shutOutChoices : List (Engine → Op) :=
  [fun engine => .evaluate (engine.sampleRequest .promoted 1) 0,
    fun _ => .closeAdmission,
    fun engine => .commit (engine.planFor 1) 0]

def shutsOut (played : List EngineStep × Engine) : Bool :=
  match played.1 with
  | [call, closing, last] =>
      (match call.input, call.output, closing.input, last.input, last.output with
        | .evaluate _ _, .evaluated (.ok result), .closeAdmission, .commit plan _,
            .committed (.error _) => result.hasPlan && plan == result.plan
        | _, _, _, _, _ => false) &&
        (call.before.state.pending[(⟨0, 5⟩ : ArtifactId)]?).isNone &&
        (last.after.state.pending[(⟨0, 5⟩ : ArtifactId)]?).isSome
  | _ => false

theorem shut_out_promote :
    ∃ (engine final : Engine) (request : PromotionRequest) (call closing last : EngineStep),
      Reachable engine ∧ EngineRun engine [call, closing, last] final ∧
        FailedPromote request call last ∧ closing.input = .closeAdmission ∧
        final.state.pending ≠ engine.state.pending := by
  have evaluated : ((play step sampleEngine (promoteChoices.take 2)).any fun played =>
      (play step played.2 shutOutChoices).any shutsOut) = true := by
    decide +kernel
  obtain ⟨engine, reachable, continued⟩ := Reachable.of_play
    (fun engine => (play step engine shutOutChoices).any shutsOut) sampleEngine_constructed
    evaluated
  obtain ⟨trace, final, run, checked⟩ := run_of_checked continued
  unfold shutsOut at checked
  dsimp only at checked
  split at checked
  · rename_i call closing last
    simp only [Bool.and_eq_true] at checked
    obtain ⟨⟨answers, free⟩, held⟩ := checked
    have reserved : final.state.pending ≠ engine.state.pending := by
      cases run with
      | cons _ rest =>
          cases rest with
          | cons _ rest =>
              cases rest with
              | cons _ ended =>
                  cases ended
                  intro same
                  rw [same, Option.isSome_iff_ne_none] at held
                  exact held (Option.isNone_iff_eq_none.mp free)
    split at answers
    · rename_i request now result plan later status asked planned closed committed refused
      simp only [Bool.and_eq_true, beq_iff_eq] at answers
      obtain ⟨hasPlan, rfl⟩ := answers
      exact ⟨engine, final, request, call, closing, last, reachable, run,
        ⟨now, later, result, status, asked, planned, hasPlan, committed, refused⟩, closed,
        reserved⟩
    · cases answers
  · cases checked

theorem reachable_error_kept_shut_out :
    ∃ (engine final : Engine) (request : PromotionRequest) (call last : EngineStep),
      Reachable engine ∧ FailedPromote request call last ∧
        EvaluationKept engine.config request engine.state call.after.state ∧
        final.state = last.before.state := by
  obtain ⟨engine, final, request, call, closing, last, reachable, run, failed, _, _⟩ :=
    shut_out_promote
  obtain ⟨_, _, promotes, _⟩ := reachable_error_kept reachable
  obtain ⟨kept, same⟩ := promotes request call [closing] last final run failed
  exact ⟨engine, final, request, call, last, reachable, failed, kept, same⟩

/-- A `promote` call that is answered with an error has changed more than the decisions, the plans
and the idempotency records. -/
theorem failed_promote_reserves :
    ∃ (engine final : Engine) (request : PromotionRequest) (call closing last : EngineStep),
      Reachable engine ∧ EngineRun engine [call, closing, last] final ∧
        FailedPromote request call last ∧ closing.input = .closeAdmission ∧
        ∀ decisions plans idempotency,
          final.state ≠ { engine.state with decisions, plans, idempotency } := by
  obtain ⟨engine, final, request, call, closing, last, reachable, run, failed, closed,
    reserved⟩ := shut_out_promote
  refine ⟨engine, final, request, call, closing, last, reachable, run, failed, closed, ?_⟩
  intro decisions plans idempotency same
  apply reserved
  rw [same]

end Engine

end ArtifactPromotion
