import ArtifactPromotion.Engine.Decisions

/-! Whether a committed decision is the last word on its request. -/

namespace ArtifactPromotion

open Runs

namespace Engine

variable {engine next : Engine}

/-- A retry of a bound request is answered from the stored decision and changes nothing. -/
theorem evaluate_replays {request : PromotionRequest} {record : IdempotencyRecord}
    {decision : PromotionDecision} (admitted : engine.admissionOpen = true)
    (wellFormed : requestIsWellFormed request = true)
    (bound : engine.state.idempotency[request.request]? = some record)
    (digest : record.requestDigest = computeRequestDigest request)
    (stored : engine.state.decisions[record.decision]? = some decision) (now : UInt64) :
    engine.evaluate request now = (.ok { decision }, engine) := by
  simp [evaluate, admitted, wellFormed, bound, digest, stored]

/-- The operation commits a stored plan whose decision is committed already. -/
def Recommits (engine : Engine) (op : Op) : Prop :=
  ∃ plan now decision, op = .commit plan now ∧ engine.admissionOpen = true ∧ plan.valid = true ∧
    engine.state.plans[plan.id]? = some plan ∧
    engine.state.decisions[plan.decision]? = some decision ∧
    decision.outcome = .promotionCommitted

def CommittedAt (engine : Engine) (id : PromotionDecisionId) : Prop :=
  ∃ decision, engine.state.decisions[id]? = some decision ∧ decision.outcome = .promotionCommitted

theorem step_committed (sound : engine.Sound) {op : Op} {reply : Reply}
    (moved : engine.step op = some (reply, next)) {id : PromotionDecisionId}
    (committed : engine.CommittedAt id) (once : ¬engine.Recommits op) : next.CommittedAt id := by
  obtain ⟨decision, held, final⟩ := committed
  obtain ⟨changed, present, change⟩ := step_decision sound moved held
  refine ⟨changed, present, ?_⟩
  cases change with
  | kept => exact final
  | restored => exact final
  | refused named stored rewrites =>
      subst named
      exact absurd ⟨_, _, decision, rfl, rewrites.admitted, rewrites.wellFormed, stored, held,
        final⟩ once
  | applied named accepts acknowledged settled => exact settled

/-- In every run none of whose steps commits a committed plan again, a committed decision stays
committed, and every retry of a request bound to it is answered with it. -/
theorem run_committed_final {start middle final : Engine} {past later : List EngineStep}
    (constructed : Constructed start) (before : EngineRun start past middle)
    (after : EngineRun middle later final)
    (condition : ∀ step ∈ later, ¬step.before.Recommits step.input) {id : PromotionDecisionId}
    (committed : middle.CommittedAt id) :
    final.CommittedAt id ∧ ∀ request now,
      middle.Binds request.request id (computeRequestDigest request) →
      final.admissionOpen = true → requestIsWellFormed request = true →
      ∃ result, final.evaluate request now = (.ok result, final) ∧ result.decision.id = id ∧
        result.decision.outcome = .promotionCommitted := by
  have initially := EngineRun.sound before constructed.sound
  have answerable := EngineRun.answerable before constructed
  have kept := after.guarded
    (fun engine => engine.Sound ∧ engine.Answerable ∧ engine.CommittedAt id ∧
      ∀ request digest, middle.Binds request id digest → engine.Binds request id digest)
    (fun step => ¬step.before.Recommits step.input)
    (fun _ held once moved => ⟨sound_step held.1 moved, step_answerable held.1 held.2.1 moved,
      step_committed held.1 moved held.2.2.1 once,
      fun request digest binds => step_bound held.1 held.2.1 moved (held.2.2.2 request digest binds)⟩)
    ⟨initially, answerable, committed, fun _ _ binds => binds⟩ condition
  obtain ⟨sound, _, stays, bound⟩ := kept
  refine ⟨stays, ?_⟩
  intro request now binds admitted wellFormed
  obtain ⟨decision, held, outcome⟩ := stays
  obtain ⟨record, present, named, digest⟩ := bound _ _ binds
  rw [← named] at held
  refine ⟨{ decision }, evaluate_replays admitted wellFormed present digest held now, ?_, outcome⟩
  rw [← named]
  exact (sound.coherent.decisions _ _ held).1

def settledSample (engine : Engine) : Bool :=
  (engine.state.idempotency[(⟨0, 1⟩ : PromotionRequestId)]?.any fun record =>
    record.requestDigest == computeRequestDigest (engine.sampleRequest .promoted 1) &&
      (engine.state.decisions[record.decision]?.any fun decision =>
        decision.outcome == .promotionCommitted))

theorem settledSample_spec (settled : settledSample engine = true) :
    ∃ id, engine.CommittedAt id ∧ engine.Binds ⟨0, 1⟩ id
      (computeRequestDigest (engine.sampleRequest .promoted 1)) := by
  simp only [settledSample, Option.any_eq_true, Bool.and_eq_true, beq_iff_eq] at settled
  obtain ⟨record, bound, digest, decision, held, committed⟩ := settled
  exact ⟨record.decision, ⟨decision, held, committed⟩, record, bound, rfl, digest⟩

def settlesOvertaken (played : List EngineStep × Engine) : Bool :=
  settledSample played.2 && requestIsWellFormed (played.2.sampleRequest .promoted 1) &&
    (play step played.2 [fun _ => .registerArtifact (sampleRegistration 2) 0]).any fun later =>
      later.2.admissionOpen && later.1.all fun step => match step.input with
        | .commit _ _ => false
        | _ => true

theorem run_committed_final_overtaken :
    ∃ (past later : List EngineStep) (middle final : Engine) (id : PromotionDecisionId)
      (request : PromotionRequest) (result : EvaluationResult),
      EngineRun sampleEngine past middle ∧ EngineRun middle later final ∧
        (∀ step ∈ later, ¬step.before.Recommits step.input) ∧ middle.CommittedAt id ∧
        middle.Binds request.request id (computeRequestDigest request) ∧ final.CommittedAt id ∧
        final.evaluate request 0 = (.ok result, final) ∧ result.decision.id = id ∧
        result.decision.outcome = .promotionCommitted := by
  have evaluated : (play step sampleEngine promoteChoices).any settlesOvertaken = true := by
    rw [promote_played]
    decide +kernel
  obtain ⟨past, middle, before, checked⟩ := run_of_checked evaluated
  simp only [settlesOvertaken, Bool.and_eq_true] at checked
  obtain ⟨⟨settled, wellFormed⟩, overtaken⟩ := checked
  obtain ⟨later, final, after, quiet⟩ := run_of_checked overtaken
  simp only [Bool.and_eq_true, List.all_eq_true] at quiet
  obtain ⟨id, committed, binds⟩ := settledSample_spec settled
  have condition : ∀ step ∈ later, ¬step.before.Recommits step.input := by
    rintro step executed ⟨plan, now, _, input, _⟩
    have alone := quiet.2 step executed
    simp [input] at alone
  obtain ⟨stays, retried⟩ :=
    run_committed_final sampleEngine_constructed before after condition committed
  obtain ⟨result, answered, named, outcome⟩ := retried _ 0 binds quiet.1 wellFormed
  exact ⟨past, later, middle, final, id, _, result, before, after, condition, committed, binds,
    stays, answered, named, outcome⟩

def settlesRecommitted (played : List EngineStep × Engine) : Bool :=
  settledSample played.2 &&
    (play step played.2 [fun engine => .commit (engine.planFor 1) 0]).any fun later =>
      match (later.2.evaluate (played.2.sampleRequest .promoted 1) 0).1 with
      | .ok result => result.decision.outcome == .conflict
      | .error _ => false

/-- A late duplicate of an acknowledged commit turns its decision into a conflict. -/
theorem recommitted_decision_conflicts :
    ∃ (past later : List EngineStep) (middle final : Engine) (id : PromotionDecisionId)
      (request : PromotionRequest) (result : EvaluationResult),
      EngineRun sampleEngine past middle ∧ EngineRun middle later final ∧ middle.CommittedAt id ∧
        middle.Binds request.request id (computeRequestDigest request) ∧
        (final.evaluate request 0).1 = .ok result ∧
        result.decision.outcome ≠ .promotionCommitted := by
  have evaluated : (play step sampleEngine promoteChoices).any settlesRecommitted = true := by
    rw [promote_played]
    decide +kernel
  obtain ⟨past, middle, before, checked⟩ := run_of_checked evaluated
  simp only [settlesRecommitted, Bool.and_eq_true] at checked
  obtain ⟨settled, recommitted⟩ := checked
  obtain ⟨later, final, after, retried⟩ := run_of_checked recommitted
  obtain ⟨id, committed, binds⟩ := settledSample_spec settled
  split at retried
  · rename_i result answered
    have outcome : result.decision.outcome = .conflict := by simpa using retried
    exact ⟨past, later, middle, final, id, _, result, before, after, committed, binds, answered,
      by rw [outcome]; decide⟩
  · simp at retried

end Engine

end ArtifactPromotion
