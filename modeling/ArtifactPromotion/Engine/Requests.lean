import ArtifactPromotion.Engine.Finality
import ArtifactPromotion.Engine.LiveEvidence

/-! What a request identity is bound to, and what later calls under the same identity get. -/

namespace ArtifactPromotion

open Runs

structure PromotionRequest.SameContent (left right : PromotionRequest) : Prop where
  artifact : left.artifact = right.artifact
  revision : left.expectedRevision = right.expectedRevision
  digest : left.expectedDigest = right.expectedDigest
  stage : left.requestedStage = right.requestedStage

theorem sameContent_of_preimage {left right : PromotionRequest}
    (same : requestPreimage left = requestPreimage right) : left.SameContent right := by
  simp only [requestPreimage, List.append_assoc] at same
  obtain ⟨artifact, same⟩ := Writer.identity_delimited _ _ _ _ same
  obtain ⟨revision, same⟩ := Writer.identity_delimited _ _ _ _ same
  obtain ⟨digest, same⟩ := Writer.digest_delimited _ _ _ _ same
  refine ⟨artifact, revision, digest, Stage.toByte_injective ?_⟩
  simpa [Writer.u8] using same

theorem PromotionRequest.SameContent.preimage {left right : PromotionRequest}
    (same : left.SameContent right) : requestPreimage left = requestPreimage right := by
  rw [requestPreimage, same.artifact, same.revision, same.digest, same.stage]
  rfl

def RequestsCollisionFree (trace : List EngineStep) : Prop :=
  ∀ first ∈ trace, ∀ second ∈ trace, ∀ left right now later, first.input = .evaluate left now →
    second.input = .evaluate right later →
    sha256 (requestPreimage left) = sha256 (requestPreimage right) →
    requestPreimage left = requestPreimage right

namespace Engine

variable {engine next : Engine}

structure Passes (engine : Engine) (request : PromotionRequest) : Prop where
  admitted : engine.admissionOpen = true
  wellFormed : requestIsWellFormed request = true

/-- The identity of the request is bound to this content already, or it is free and the revision
the request names is registered with the digest it expects. -/
def RecordsIdentity (engine : Engine) (request : PromotionRequest) : Prop :=
  (∃ decision, engine.Binds request.request decision (computeRequestDigest request)) ∨
    (engine.control.idempotency[request.request]? = none ∧ engine.Identifies request)

theorem step_evaluate {request : PromotionRequest} {now : UInt64} {reply : Reply}
    (moved : engine.step (.evaluate request now) = some (reply, next)) :
    reply = .evaluated (engine.evaluate request now).1 ∧ next = (engine.evaluate request now).2 := by
  have performed := (step_eq_some moved).1
  simp only [perform, answerWith, Option.some.injEq, Prod.mk.injEq] at performed
  exact ⟨performed.1.symm, performed.2.symm⟩

theorem bound_answers (sound : engine.Sound) {request : PromotionRequest} {now : UInt64}
    {reply : Reply} (moved : engine.step (.evaluate request now) = some (reply, next))
    (passes : engine.Passes request) {decision : PromotionDecisionId}
    (binds : engine.Binds request.request decision (computeRequestDigest request)) :
    ∃ result, reply = .evaluated (.ok result) ∧ result.decision.id = decision ∧
      result.hasPlan = false ∧ engine.control.decisions[decision]? = some result.decision ∧
      next = engine := by
  obtain ⟨record, bound, rfl, digest⟩ := binds
  obtain ⟨stored, held⟩ := held_decision (sound.coherent.idempotency _ _ bound).2
  have replayed := evaluate_replays passes.admitted passes.wellFormed bound digest held now
  obtain ⟨answer, same⟩ := step_evaluate moved
  rw [replayed] at answer same
  exact ⟨{ decision := stored }, answer, (sound.coherent.decisions _ _ held).1, rfl, held, same⟩

theorem bound_refuses {request : PromotionRequest} {now : UInt64} {reply : Reply}
    (moved : engine.step (.evaluate request now) = some (reply, next))
    (passes : engine.Passes request) {decision : PromotionDecisionId} {digest : Digest}
    (binds : engine.Binds request.request decision digest)
    (other : digest ≠ computeRequestDigest request) :
    ∃ status, reply = .evaluated (.error status) ∧ status.code = .conflict := by
  obtain ⟨record, bound, _, rfl⟩ := binds
  have bound : engine.state.idempotency[request.request]? = some record := bound
  obtain ⟨answer, _⟩ := step_evaluate moved
  simp only [evaluate, passes.admitted, passes.wellFormed, bound, Bool.not_true,
    Bool.false_eq_true, if_false, if_pos other, refuse] at answer
  exact ⟨_, answer, rfl⟩

theorem evaluate_answers (sound : engine.Sound) {request : PromotionRequest} {now : UInt64}
    {result : EvaluationResult}
    (moved : engine.step (.evaluate request now) = some (.evaluated (.ok result), next)) :
    (∃ decision, engine.Binds request.request decision (computeRequestDigest request) ∧
        engine.control.decisions[decision]? = some result.decision) ∨
      ∃ decision, engine.Opens request decision result := by
  obtain ⟨answer, _⟩ := step_evaluate moved
  have passes : engine.Passes request := by
    unfold evaluate at answer
    split at answer
    · simp [shuttingDown, refuse] at answer
    rename_i admitted
    split at answer
    · simp [refuse] at answer
    rename_i wellFormed
    exact ⟨by simpa using admitted, by simpa using wellFormed⟩
  cases bound : engine.control.idempotency[request.request]? with
  | some record =>
      by_cases digest : record.requestDigest = computeRequestDigest request
      · have binds : engine.Binds request.request record.decision (computeRequestDigest request) :=
          ⟨record, bound, rfl, digest⟩
        obtain ⟨replayed, same, _, _, held, _⟩ := bound_answers sound moved passes binds
        cases same
        exact .inl ⟨record.decision, binds, held⟩
      · obtain ⟨status, refused, _⟩ :=
          bound_refuses moved passes ⟨record, bound, rfl, rfl⟩ digest
        simp at refused
  | none =>
      have changes := evaluate_changes sound moved passes.admitted passes.wellFormed bound
      cases step_effect moved with
      | idle _ same => exact absurd same changes
      | undecided _ opens _ _ => exact .inr ⟨_, opens⟩
      | decided _ _ opens _ _ _ _ => exact .inr ⟨_, opens⟩
      | issued _ _ _ _ opens _ _ => exact .inr ⟨_, opens⟩

theorem recorded_binds (sound : engine.Sound) (answerable : engine.Answerable)
    {request : PromotionRequest} {now : UInt64} {reply : Reply}
    (moved : engine.step (.evaluate request now) = some (reply, next))
    (passes : engine.Passes request) (records : engine.RecordsIdentity request) :
    ∃ result, reply = .evaluated (.ok result) ∧
      next.Binds request.request result.decision.id (computeRequestDigest request) := by
  rcases records with ⟨decision, binds⟩ | ⟨unbound, identifies⟩
  · obtain ⟨result, answered, named, _⟩ := bound_answers sound moved passes binds
    refine ⟨result, answered, ?_⟩
    rw [named]
    exact step_bound sound answerable moved binds
  · have changes := evaluate_changes sound moved passes.admitted passes.wellFormed unbound
    cases step_effect moved with
    | idle _ same => exact absurd same changes
    | undecided _ _ planless _ => exact absurd identifies planless.2
    | @decided _ _ result decision _ _ _ _ _ opens _ _ _ changed =>
        have idempotency := congrArg Control.idempotency changed
        refine ⟨result, rfl, idempotencyRecord request decision, ?_, ?_, rfl⟩
        · exact idempotency ▸ Std.ExtTreeMap.getElem?_insert_self
        · rw [opens.answered]
          rfl
    | @issued _ _ _ result decision _ _ _ _ _ _ opens _ changed =>
        have idempotency := congrArg Control.idempotency changed
        refine ⟨result, rfl, idempotencyRecord request decision, ?_, ?_, rfl⟩
        · exact idempotency ▸ Std.ExtTreeMap.getElem?_insert_self
        · rw [opens.answered]
          rfl

/-- Of two calls under one identity in a run, when the first records the identity, the second one
is answered with the same decision if it asks for the same thing, and refused with a conflict
otherwise. A `promote` call passes an answer without a plan and every error on as they are. -/
theorem identity_answers_alike {start final : Engine} {past between future : List EngineStep}
    {first second : EngineStep} (constructed : Constructed start)
    (run : EngineRun start (past ++ first :: (between ++ second :: future)) final)
    (collisionFree : RequestsCollisionFree (past ++ first :: (between ++ second :: future)))
    {asked again : PromotionRequest} {now later : UInt64}
    (firstInput : first.input = .evaluate asked now)
    (secondInput : second.input = .evaluate again later) (firstPasses : first.before.Passes asked)
    (secondPasses : second.before.Passes again) (same : again.request = asked.request)
    (records : first.before.RecordsIdentity asked) :
    ∃ answer, first.output = .evaluated (.ok answer) ∧
      (again.SameContent asked → ∃ result, second.output = .evaluated (.ok result) ∧
        result.decision.id = answer.decision.id ∧ result.hasPlan = false) ∧
      (¬again.SameContent asked → ∃ status, second.output = .evaluated (.error status) ∧
        status.code = .conflict) := by
  obtain ⟨before, firstMoved, rest⟩ := run.cut
  obtain ⟨window, secondMoved, _⟩ := rest.cut
  rw [firstInput] at firstMoved
  rw [secondInput] at secondMoved
  have sound := EngineRun.sound before constructed.sound
  have answerable := EngineRun.answerable before constructed
  obtain ⟨answer, answered, binds⟩ :=
    recorded_binds sound answerable firstMoved firstPasses records
  have kept := window.invariant
    (fun engine => engine.Sound ∧ engine.Answerable ∧
      engine.Binds asked.request answer.decision.id (computeRequestDigest asked))
    (fun _ _ _ _ held moved => ⟨sound_step held.1 moved, step_answerable held.1 held.2.1 moved,
      step_bound held.1 held.2.1 moved held.2.2⟩)
    ⟨sound_step sound firstMoved, step_answerable sound answerable firstMoved, binds⟩
  obtain ⟨laterSound, _, bound⟩ := kept
  rw [← same] at bound
  refine ⟨answer, answered, ?_, ?_⟩
  · intro content
    have digest : computeRequestDigest asked = computeRequestDigest again := by
      rw [computeRequestDigest, computeRequestDigest, content.preimage]
    rw [digest] at bound
    obtain ⟨result, replied, named, planless, _⟩ :=
      bound_answers laterSound secondMoved secondPasses bound
    exact ⟨result, replied, named, planless⟩
  · intro differs
    refine bound_refuses secondMoved secondPasses bound fun digest => differs ?_
    exact sameContent_of_preimage (collisionFree second (by simp) first (by simp) again asked later
      now secondInput firstInput digest.symm)

def repeatedChoices : List (Engine → Op) :=
  [fun _ => .publishPolicy directPolicy,
    fun _ => .registerArtifact (sampleRegistration 1) 0,
    fun engine => .evaluate (engine.sampleRequest .promoted 1) 0,
    fun engine => .evaluate (engine.sampleRequest .promoted 1) 0,
    fun engine => .evaluate (engine.sampleRequest .retired 1) 0]

def askedRequest (step : EngineStep) : Option PromotionRequest :=
  match step.input with
  | .evaluate request _ => some request
  | _ => none

def asksWell (step : EngineStep) : Bool :=
  (askedRequest step).any fun request =>
    step.before.admissionOpen && requestIsWellFormed request

theorem asksWell_passes {step : EngineStep} (well : asksWell step = true) :
    ∃ request now, step.input = .evaluate request now ∧ askedRequest step = some request ∧
      step.before.Passes request := by
  unfold asksWell askedRequest at well
  unfold askedRequest
  split at well
  · rename_i request now input
    simp only [Option.any_some, Bool.and_eq_true] at well
    exact ⟨request, now, input, rfl, well.1, well.2⟩
  · simp at well

def asksFreely (step : EngineStep) : Bool :=
  (askedRequest step).any fun request =>
    (step.before.state.idempotency[request.request]?).isNone &&
      (step.before.state.findRevision request.artifact request.expectedRevision).any fun artifact =>
        artifact.digest == request.expectedDigest

theorem asksFreely_records {step : EngineStep} (free : asksFreely step = true)
    {request : PromotionRequest} (asked : askedRequest step = some request) :
    step.before.control.idempotency[request.request]? = none ∧ step.before.Identifies request := by
  simp only [asksFreely, asked, Option.any_some, Bool.and_eq_true, Option.isNone_iff_eq_none,
    Option.any_eq_true, beq_iff_eq] at free
  exact free

def requestsApart (trace : List EngineStep) : Bool :=
  (trace.filterMap askedRequest).all fun left =>
    (trace.filterMap askedRequest).all fun right =>
      requestPreimage left == requestPreimage right ||
        computeRequestDigest left != computeRequestDigest right

theorem collisionFree_of_apart {trace : List EngineStep} (apart : requestsApart trace = true) :
    RequestsCollisionFree trace := by
  intro first firstExecuted second secondExecuted left right now later firstInput secondInput digest
  have inside {step : EngineStep} {request : PromotionRequest} {now : UInt64}
      (executed : step ∈ trace) (input : step.input = .evaluate request now) :
      request ∈ trace.filterMap askedRequest :=
    List.mem_filterMap.mpr ⟨step, executed, by simp [askedRequest, input]⟩
  have told := List.all_eq_true.mp (List.all_eq_true.mp apart left (inside firstExecuted firstInput))
    right (inside secondExecuted secondInput)
  simpa [computeRequestDigest, digest] using told

def repeatsThenDiffers (played : List EngineStep × Engine) : Bool :=
  requestsApart played.1 && match played.1 with
    | [_, _, first, second, third] =>
        asksFreely first && asksWell first && asksWell second && asksWell third &&
          askedRequest second == askedRequest first &&
          (askedRequest first).any fun asked => (askedRequest third).any fun other =>
            other.request == asked.request && other.requestedStage != asked.requestedStage
    | _ => false

theorem identity_answers_alike_repeated :
    ∃ (past : List EngineStep) (first second third : EngineStep) (final : Engine)
      (answer result : EvaluationResult) (status : Status),
      EngineRun sampleEngine (past ++ [first, second, third]) final ∧
        first.output = .evaluated (.ok answer) ∧ second.output = .evaluated (.ok result) ∧
        result.decision.id = answer.decision.id ∧ third.output = .evaluated (.error status) ∧
        status.code = .conflict := by
  have evaluated : (play step sampleEngine repeatedChoices).any repeatsThenDiffers = true := by
    decide +kernel
  obtain ⟨trace, final, run, checked⟩ := run_of_checked evaluated
  simp only [repeatsThenDiffers, Bool.and_eq_true] at checked
  obtain ⟨apart, shape⟩ := checked
  have collisionFree := collisionFree_of_apart apart
  split at shape
  · rename_i publication registration first second third
    simp only [Bool.and_eq_true, beq_iff_eq] at shape
    obtain ⟨⟨⟨⟨⟨free, firstWell⟩, secondWell⟩, thirdWell⟩, repeated⟩, differs⟩ := shape
    obtain ⟨asked, now, firstInput, firstAsked, firstPasses⟩ := asksWell_passes firstWell
    obtain ⟨again, later, secondInput, secondAsked, secondPasses⟩ := asksWell_passes secondWell
    obtain ⟨other, last, thirdInput, thirdAsked, thirdPasses⟩ := asksWell_passes thirdWell
    rw [firstAsked, secondAsked, Option.some.injEq] at repeated
    subst repeated
    simp only [firstAsked, thirdAsked, Option.any_some, Bool.and_eq_true, beq_iff_eq,
      bne_iff_ne] at differs
    have records : first.before.RecordsIdentity again := .inr (asksFreely_records free firstAsked)
    have repetition : EngineRun sampleEngine
        ([publication, registration] ++ first :: ([] ++ second :: [third])) final := run
    obtain ⟨answer, answered, alike, _⟩ := identity_answers_alike sampleEngine_constructed
      repetition collisionFree firstInput secondInput firstPasses secondPasses rfl records
    obtain ⟨result, replied, named, _⟩ := alike ⟨rfl, rfl, rfl, rfl⟩
    have difference : EngineRun sampleEngine
        ([publication, registration] ++ first :: ([second] ++ third :: [])) final := run
    obtain ⟨_, _, _, refused⟩ := identity_answers_alike sampleEngine_constructed difference
      collisionFree firstInput thirdInput firstPasses thirdPasses differs.1 records
    obtain ⟨status, conflict, code⟩ := refused fun same => differs.2 same.stage
    exact ⟨[publication, registration], first, second, third, final, answer, result, status, run,
      answered, replied, named, conflict, code⟩
  · simp at shape

def answeredDecision (step : EngineStep) : Option PromotionDecisionId :=
  match step.output with
  | .evaluated (.ok result) => some result.decision.id
  | _ => none

def strayedTwice (played : List EngineStep × Engine) : Bool :=
  match played.1 with
  | [first, second] =>
      asksWell first && asksWell second && askedRequest second == askedRequest first &&
        (answeredDecision first).isSome && answeredDecision second != answeredDecision first
  | _ => false

/-- An early rejection does not record the identity: the repetition gets another decision. -/
theorem stray_request_forgotten :
    ∃ (first second : EngineStep) (final : Engine) (request : PromotionRequest)
      (now later : UInt64) (answer : EvaluationResult),
      EngineRun sampleEngine [first, second] final ∧ first.input = .evaluate request now ∧
        second.input = .evaluate request later ∧ first.before.Passes request ∧
        second.before.Passes request ∧ first.output = .evaluated (.ok answer) ∧
        ¬∃ result, second.output = .evaluated (.ok result) ∧
          result.decision.id = answer.decision.id := by
  have evaluated : (play step sampleEngine [fun engine => .evaluate engine.strayRequest 0,
      fun engine => .evaluate engine.strayRequest 0]).any strayedTwice = true := by
    decide +kernel
  obtain ⟨trace, final, run, checked⟩ := run_of_checked evaluated
  unfold strayedTwice at checked
  dsimp only at checked
  split at checked
  · rename_i first second
    simp only [Bool.and_eq_true, beq_iff_eq, bne_iff_ne] at checked
    obtain ⟨⟨⟨⟨firstWell, secondWell⟩, repeated⟩, answered⟩, apart⟩ := checked
    obtain ⟨request, now, firstInput, firstAsked, firstPasses⟩ := asksWell_passes firstWell
    obtain ⟨again, later, secondInput, secondAsked, secondPasses⟩ := asksWell_passes secondWell
    rw [firstAsked, secondAsked, Option.some.injEq] at repeated
    subst repeated
    unfold answeredDecision at answered
    split at answered
    · rename_i answer output
      refine ⟨first, second, final, again, now, later, answer, run, firstInput, secondInput,
        firstPasses, secondPasses, output, ?_⟩
      rintro ⟨result, replied, same⟩
      simp [answeredDecision, replied, output, same] at apart
    · simp at answered
  · simp at checked

end Engine

end ArtifactPromotion
