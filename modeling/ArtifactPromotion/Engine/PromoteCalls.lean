import ArtifactPromotion.Engine.Requests

/-! What the success of a `promote` call means. The call is an evaluation and, when it issued a plan,
a commit of that plan in a later critical section. -/

namespace ArtifactPromotion

open Runs

/-- No rule of the policy governs a stage's transition to itself. -/
def PromotionPolicy.Irreflexive (policy : PromotionPolicy) : Prop :=
  ∀ rule ∈ policy.rules, rule.source ≠ rule.target

namespace PromotionPolicy

variable {policy : PromotionPolicy}

theorem Irreflexive.unruled (irreflexive : policy.Irreflexive) (kind : ArtifactKind)
    (stage : Stage) : policy.findRule kind stage stage = none := by
  rw [findRule, List.find?_eq_none]
  intro rule inside covers
  simp only [PolicyRule.covers, Bool.and_eq_true, beq_iff_eq] at covers
  exact irreflexive rule inside (covers.1.1.trans covers.1.2.symm)

theorem Irreflexive.restored (irreflexive : policy.Irreflexive) : policy.restored.Irreflexive := by
  intro rule inside
  obtain ⟨original, held, rfl⟩ := List.mem_map.mp inside
  exact irreflexive original held

theorem irreflexive_of_validate (validated : policy.validate = some (.ok ())) :
    policy.Irreflexive := by
  unfold validate at validated
  split at validated
  · simp at validated
  · split at validated
    · simp at validated
    · simp at validated
    · simp only [Option.some.injEq, bind_eq_ok, checkEach_eq_ok] at validated
      obtain ⟨_, rules, _⟩ := validated
      intro rule inside
      have checked := rules rule inside
      simp only [checkRule, bind_eq_ok] at checked
      obtain ⟨_, valid, _⟩ := checked
      simp only [PolicyRule.validate, bind_eq_ok, rejectWhen_eq_ok] at valid
      obtain ⟨_, _, _, distinct, _⟩ := valid
      simpa using distinct

theorem reference_irreflexive (id : PromotionPolicyId) (generation : PolicyGeneration) :
    (makeReferencePolicy id generation).Irreflexive := by
  have rules : ∀ rule ∈ referenceRules, rule.source ≠ rule.target := by
    simp [referenceRules]
  exact rules

end PromotionPolicy

namespace Engine

variable {engine next : Engine}

theorem step_irreflexive (sound : engine.Sound) {op : Op} {reply : Reply}
    (moved : engine.step op = some (reply, next))
    (irreflexive : engine.control.policy.Irreflexive) : next.control.policy.Irreflexive := by
  cases step_effect moved with
  | published validated _ changed =>
      rw [changed]
      exact PromotionPolicy.irreflexive_of_validate validated
  | closed released _ _ _ _ changed =>
      rw [changed]
      cases released <;> exact irreflexive
  | reloaded decoded changed =>
      rw [(image_reloaded sound decoded changed).policy]
      exact irreflexive.restored
  | idle _ changed | restarted _ changed | recovered changed | compatibilityMoved _ changed
  | registrationRefused _ _ changed | registered _ _ _ _ _ _ _ changed | submitted _ _ _ _ changed
  | undecided _ _ _ changed | decided _ _ _ _ _ _ changed | issued _ _ _ _ _ _ changed
  | committed _ _ _ _ _ changed | quarantined _ _ _ _ changed | releaseRefused _ _ changed
  | released _ _ _ _ _ _ _ _ changed | revoked _ _ _ _ _ _ changed
  | superseded _ _ _ _ _ _ changed | retired _ _ _ changed | evidenceRevoked _ _ changed =>
      rw [changed]
      exact irreflexive

theorem commit_success {plan : PromotionPlan} {now : UInt64} {result : CommitResult}
    (irreflexive : engine.control.policy.Irreflexive)
    (moved : engine.step (.commit plan now) = some (.committed (.ok result), next))
    (success : isSuccessOutcome result.outcome = true) : result.outcome = .promotionCommitted := by
  cases step_effect moved with
  | idle quiet _ => simp [Reply.confirmsChange] at quiet
  | closed _ _ _ _ rewrites _ =>
      obtain ⟨kind, rule, found⟩ := rewrites.unmerited success
      have irreflexive : engine.state.policy.Irreflexive := irreflexive
      rw [irreflexive.unruled] at found
      simp at found
  | committed _ acknowledged _ _ _ _ => exact acknowledged

end Engine

theorem EngineRun.irreflexive {start final : Engine} {trace : List EngineStep}
    (run : EngineRun start trace final) (constructed : Constructed start) :
    final.control.policy.Irreflexive := by
  have initially : start.control.policy.Irreflexive := by
    obtain ⟨config, epoch, salting, naming, rfl⟩ := constructed
    exact PromotionPolicy.reference_irreflexive _ _
  have kept := run.invariant (fun engine => engine.Sound ∧ engine.control.policy.Irreflexive)
    (fun _ _ _ _ held moved => ⟨Engine.sound_step held.1 moved,
      Engine.step_irreflexive held.1 moved held.2⟩) ⟨constructed.sound, initially⟩
  exact kept.2

namespace Engine

variable {engine next : Engine}

/-- Every committed decision that answers an identity comes from a commit for that identity. -/
def SettledBy (past : List EngineStep) (engine : Engine) : Prop :=
  ∀ (request : PromotionRequestId) (record : IdempotencyRecord),
    engine.control.idempotency[request]? = some record → engine.CommittedAt record.decision →
    ∃ step ∈ past, ∃ plan, Commits step plan ∧ plan.request = request ∧
      computeRequestDigest (requestOfPlan plan) = record.requestDigest

theorem step_settled_by {past : List EngineStep} (sound : engine.Sound)
    (answerable : engine.Answerable) (settled : SettledBy past engine) {op : Op} {reply : Reply}
    (moved : engine.step op = some (reply, next)) :
    SettledBy (past ++ [⟨engine, op, reply, next⟩]) next := by
  intro request record bound ⟨decision, held, committed⟩
  have held : next.control.decisions[record.decision]? = some decision := held
  cases before : engine.control.idempotency[request]? with
  | none =>
      obtain ⟨asked, _, opened, result, _, _, _, opens, _, stored, rfl⟩ :=
        step_binds sound moved before bound
      have same : opened = decision := Option.some.inj (stored.symm.trans held)
      exact absurd (same ▸ committed) opens.uncommitted
  | some old =>
      obtain ⟨kept, present, named, digest⟩ :=
        step_bound sound answerable moved ⟨old, before, rfl, rfl⟩
      have equal : kept = record := Option.some.inj (present.symm.trans bound)
      subst equal
      rw [named] at held
      obtain ⟨earlier, earlierHeld⟩ := held_decision (sound.coherent.idempotency _ _ before).2
      obtain ⟨changed, changedHeld, change⟩ := step_decision sound moved earlierHeld
      have same : changed = decision := Option.some.inj (changedHeld.symm.trans held)
      subst same
      -- A decision that was committed before has its commit in the past.
      have earlierCommitted (final : earlier.outcome = .promotionCommitted) :
          ∃ step ∈ past ++ [⟨engine, op, reply, next⟩], ∃ plan, Commits step plan ∧
            plan.request = request ∧
            computeRequestDigest (requestOfPlan plan) = kept.requestDigest := by
        obtain ⟨step, executed, plan, commits, asked, hashed⟩ :=
          settled request old before ⟨earlier, earlierHeld, final⟩
        exact ⟨step, by simp [executed], plan, commits, asked, hashed.trans digest.symm⟩
      cases change with
      | kept => exact earlierCommitted committed
      | restored => exact earlierCommitted committed
      | refused refusedPlan stored rewrites =>
          rcases rewrites.uncommitted with open_ | unchanged
          · exact absurd committed open_
          · rw [refusedPlan, Std.ExtTreeMap.getD_eq_getD_getElem?, earlierHeld,
              Option.getD_some] at unchanged
            exact earlierCommitted (unchanged ▸ committed)
      | @applied plan now artifact result _ _ appliedPlan accepts acknowledged _ =>
          obtain ⟨planned, planBound, decided, hashed⟩ := answerable.plans _ plan accepts.stored
          have asked : plan.request = request :=
            answerable.distinct _ _ planned old planBound before (decided.trans appliedPlan)
          rw [asked, before, Option.some.injEq] at planBound
          refine ⟨_, List.mem_append_right _ (List.mem_singleton_self _), plan,
            ⟨now, result, rfl, rfl, acknowledged⟩, asked, ?_⟩
          rw [← hashed, ← planBound, digest]

theorem run_settled {start final : Engine} {trace : List EngineStep}
    (constructed : Constructed start) (run : EngineRun start trace final) :
    SettledBy trace final := by
  refine run.byHistory SettledBy ?_ ?_
  · obtain ⟨config, epoch, salting, naming, rfl⟩ := constructed
    intro request record bound
    exact (no_entry rfl bound).elim
  · intro past before op reply after reached settled moved
    exact step_settled_by (EngineRun.sound reached constructed.sound)
      (EngineRun.answerable reached constructed) settled moved

end Engine

/-- A `promote` call that is answered at the end of the trace, with the engine it was made on: its
evaluation gave no plan and the decision is the answer, or it gave a plan and the answer is the one
of that plan's commit. -/
inductive Promotes (request : PromotionRequest) : List EngineStep → Engine → CommitResult → Prop
  | planless {past call now evaluated} (input : call.input = .evaluate request now)
      (output : call.output = .evaluated (.ok evaluated)) (planless : evaluated.hasPlan = false) :
      Promotes request (past ++ [call]) call.before
        { outcome := evaluated.decision.outcome, decision := evaluated.decision }
  | planned {past call between commit now later evaluated result}
      (input : call.input = .evaluate request now)
      (output : call.output = .evaluated (.ok evaluated)) (planned : evaluated.hasPlan = true)
      (commitInput : commit.input = .commit evaluated.plan later)
      (commitOutput : commit.output = .committed (.ok result)) :
      Promotes request (past ++ call :: (between ++ [commit])) call.before result

/-- A transition of the requested revision to the requested stage was committed for the request. -/
def CommittedFor (trace : List EngineStep) (request : PromotionRequest) : Prop :=
  ∃ step ∈ trace, ∃ plan, Commits step plan ∧ plan.request = request.request ∧
    plan.artifact = request.artifact ∧ plan.artifactRevision = request.expectedRevision ∧
    plan.target = request.requestedStage

namespace Engine

variable {engine next : Engine}

theorem promote_promotes {request : PromotionRequest} {now later : UInt64} {result : CommitResult}
    (past : List EngineStep) (room : (engine.evaluate request now).2.representable = true)
    (fits : next.representable = true)
    (answered : engine.promote request now later = (.ok result, next)) :
    ∃ steps, EngineRun engine steps next ∧ Promotes request (past ++ steps) engine result := by
  unfold promote at answered
  cases evaluation : engine.evaluate request now with
  | mk reply middle =>
      rw [evaluation] at answered room
      have called : engine.step (.evaluate request now) = some (.evaluated reply, middle) := by
        simp [step, perform, answerWith, evaluation, room]
      cases reply with
      | error status => simp at answered
      | ok evaluated =>
          dsimp only at answered
          split at answered
          · rename_i planless
            cases answered
            exact ⟨[_], .cons called (.nil _), .planless rfl rfl (by simpa using planless)⟩
          · rename_i planned
            have committed : middle.step (.commit evaluated.plan later) =
                some (.committed (.ok result), next) := by
              simp [step, perform, answerWith, answered, fits]
            have planned : evaluated.hasPlan = true := by simpa using planned
            refine ⟨_, .cons called (.cons committed (.nil _)), ?_⟩
            have promotes : Promotes request
                (past ++ ⟨engine, .evaluate request now, .evaluated (.ok evaluated), middle⟩ ::
                  ([] ++ [⟨middle, .commit evaluated.plan later, .committed (.ok result), next⟩]))
                engine result := .planned rfl rfl planned rfl rfl
            exact promotes

/-- The call would be answered from a stored decision that is `PromotionEligible` or
`AlreadyPromoted` although the revision is not in the requested stage under current authority. -/
def ReplaysUnsettled (engine : Engine) (request : PromotionRequest) : Prop :=
  (∃ id decision, engine.Binds request.request id (computeRequestDigest request) ∧
    engine.state.decisions[id]? = some decision ∧
    (decision.outcome = .promotionEligible ∨ decision.outcome = .alreadyPromoted)) ∧
  ¬engine.Occupies request

theorem planned_for (sound : engine.Sound) {request : PromotionRequest} {now : UInt64}
    {result : EvaluationResult}
    (moved : engine.step (.evaluate request now) = some (.evaluated (.ok result), next))
    (hasPlan : result.hasPlan = true) :
    result.plan.request = request.request ∧ (requestOfPlan result.plan).SameContent request := by
  cases step_effect moved with
  | idle quiet _ => simp [Reply.confirmsChange, hasPlan] at quiet
  | undecided _ _ planless _ => simp [hasPlan] at planless
  | decided _ _ _ planless _ _ _ => simp [hasPlan] at planless
  | issued issues _ plan_eq _ _ _ _ =>
      rw [plan_eq]
      exact ⟨rfl, sameContent_of_preimage (issued_request sound issues)⟩

theorem settled_content {start final : Engine} {trace : List EngineStep}
    (constructed : Constructed start) (run : EngineRun start trace final)
    (collisionFree : RequestsCollisionFree trace) {call step : EngineStep} (called : call ∈ trace)
    {request : PromotionRequest} {now : UInt64} (input : call.input = .evaluate request now)
    (executed : step ∈ trace) {plan : PromotionPlan} (commits : Commits step plan)
    (hashed : computeRequestDigest (requestOfPlan plan) = computeRequestDigest request) :
    (requestOfPlan plan).SameContent request := by
  obtain ⟨past, future, rfl⟩ := List.append_of_mem executed
  obtain ⟨before, moved, _⟩ := run.cut
  obtain ⟨later, result, commitInput, commitOutput, acknowledged⟩ := commits
  rw [commitInput, commitOutput] at moved
  obtain ⟨artifact, accepts, _⟩ := acknowledged_accepts moved acknowledged
  have empty : start.state.pending = ∅ := by
    obtain ⟨config, epoch, salting, naming, rfl⟩ := constructed
    rfl
  obtain ⟨front, issue, since, reservation, rfl, issues, _⟩ :=
    commit_window constructed.sound empty before accepts
  obtain ⟨earlier, _, _⟩ := before.cut
  obtain ⟨asked, issueNow, planned, _, issueInput, _, _, _, established, plan_eq, _⟩ :=
    issues.evaluated
  have preimage := issued_request (EngineRun.sound earlier constructed.sound) established
  rw [← plan_eq] at preimage
  have collides : sha256 (requestPreimage asked) = sha256 (requestPreimage request) := by
    rw [← preimage]
    exact hashed
  have same := collisionFree issue (by simp) call called asked request issueNow now issueInput
    input collides
  exact sameContent_of_preimage (preimage.trans same)

theorem committed_for {trace : List EngineStep} {step : EngineStep} {plan : PromotionPlan}
    {request : PromotionRequest} (executed : step ∈ trace) (commits : Commits step plan)
    (asked : plan.request = request.request)
    (content : (requestOfPlan plan).SameContent request) : CommittedFor trace request :=
  ⟨step, executed, plan, commits, asked, content.artifact, content.revision, content.stage⟩

/-- A `promote` call that does not replay an unsettled decision reports success only when its
transition was committed or the revision was in the requested stage under current authority. -/
theorem promote_success_final {start final : Engine} {trace : List EngineStep}
    (constructed : Constructed start) (run : EngineRun start trace final)
    (collisionFree : RequestsCollisionFree trace) {request : PromotionRequest} {before : Engine}
    {result : CommitResult} (promotes : Promotes request trace before result)
    (settled : ¬before.ReplaysUnsettled request)
    (success : isSuccessOutcome result.outcome = true) :
    CommittedFor trace request ∨ before.Occupies request := by
  cases promotes with
  | @planless past call now evaluated input output planless =>
      obtain ⟨reached, moved, _⟩ := run.cut
      rw [input, output] at moved
      have sound := EngineRun.sound reached constructed.sound
      rcases evaluate_answers sound moved with ⟨id, binds, held⟩ | ⟨decision, opens⟩
      · by_cases committed : evaluated.decision.outcome = .promotionCommitted
        · obtain ⟨record, bound, rfl, digest⟩ := binds
          obtain ⟨step, executed, plan, commits, asked, hashed⟩ :=
            run_settled constructed reached _ record bound ⟨evaluated.decision, held, committed⟩
          have content := settled_content constructed run collisionFree (by simp) input
            (List.mem_append_left _ executed) commits (hashed.trans digest)
          exact .inl (committed_for (List.mem_append_left _ executed) commits asked content)
        · have unsettled : evaluated.decision.outcome = .promotionEligible ∨
              evaluated.decision.outcome = .alreadyPromoted := by
            simpa [isSuccessOutcome, committed] using success
          by_contra neither
          exact settled ⟨⟨id, evaluated.decision, binds, held, unsettled⟩,
            fun occupies => neither (.inr occupies)⟩
      · refine .inr (opens.merited planless ?_)
        rw [← opens.answered]
        exact success
  | @planned past call between commit now later evaluated _ input output hasPlan commitInput
      commitOutput =>
      obtain ⟨reached, moved, rest⟩ := run.cut
      obtain ⟨window, commitMoved, _⟩ := rest.cut
      rw [input, output] at moved
      rw [commitInput, commitOutput] at commitMoved
      obtain ⟨asked, content⟩ := planned_for (EngineRun.sound reached constructed.sound) moved hasPlan
      have entered : call.before.step call.input = some (call.output, call.after) := by
        rw [input, output, moved]
      have irreflexive := EngineRun.irreflexive (reached.append (.cons entered window)) constructed
      have acknowledged := commit_success irreflexive commitMoved success
      exact .inl (committed_for (by simp) ⟨later, result, commitInput, commitOutput, acknowledged⟩
        asked content)

def promotesFreely (played : List EngineStep × Engine) : Bool :=
  requestsApart played.1 && match played.1 with
    | [_, _, call, commit] =>
        asksWell call && asksFreely call && (match call.output, commit.input, commit.output with
          | .evaluated (.ok evaluated), .commit plan _, .committed (.ok result) =>
              evaluated.hasPlan && plan == evaluated.plan && isSuccessOutcome result.outcome
          | _, _, _ => false)
    | _ => false

theorem promote_success_final_promoted :
    ∃ (trace : List EngineStep) (before final : Engine) (request : PromotionRequest)
      (result : CommitResult), EngineRun sampleEngine trace final ∧ RequestsCollisionFree trace ∧
        Promotes request trace before result ∧ ¬before.ReplaysUnsettled request ∧
        isSuccessOutcome result.outcome = true ∧
        (CommittedFor trace request ∨ before.Occupies request) := by
  have evaluated : (play step sampleEngine promoteChoices).any promotesFreely = true := by
    rw [promote_played]
    decide +kernel
  obtain ⟨trace, final, run, checked⟩ := run_of_checked evaluated
  simp only [promotesFreely, Bool.and_eq_true] at checked
  obtain ⟨apart, shape⟩ := checked
  have collisionFree := collisionFree_of_apart apart
  split at shape
  · rename_i publication registration call commit
    rw [Bool.and_eq_true, Bool.and_eq_true] at shape
    obtain ⟨⟨well, free⟩, answers⟩ := shape
    split at answers
    · rename_i evaluated plan later result output commitInput commitOutput
      simp only [Bool.and_eq_true, beq_iff_eq] at answers
      obtain ⟨⟨hasPlan, rfl⟩, success⟩ := answers
      obtain ⟨request, now, input, asked, _⟩ := asksWell_passes well
      have unbound := (asksFreely_records free asked).1
      have settled : ¬call.before.ReplaysUnsettled request := by
        rintro ⟨⟨_, _, ⟨record, bound, _⟩, _⟩, _⟩
        rw [unbound] at bound
        simp at bound
      have promotes : Promotes request ([publication, registration] ++ call :: ([] ++ [commit]))
          call.before result := .planned input output hasPlan commitInput commitOutput
      exact ⟨_, call.before, final, request, result, run, collisionFree, promotes, settled, success,
        promote_success_final sampleEngine_constructed run collisionFree promotes settled success⟩
    · simp at answers
  · simp at shape

def abandonedChoices : List (Engine → Op) :=
  [fun _ => .publishPolicy directPolicy,
    fun _ => .registerArtifact (sampleRegistration 1) 0,
    fun engine => .evaluate (engine.sampleRequest .promoted 1) 0,
    fun engine => .evaluate (engine.sampleRequest .promoted 1) 0]

def succeedsUncommitted (played : List EngineStep × Engine) : Bool :=
  (played.1.all fun step => match step.input with
    | .commit _ _ => false
    | _ => true) && match played.1 with
    | [_, _, _, call] =>
        (match call.input, call.output with
          | .evaluate request _, .evaluated (.ok evaluated) =>
              !evaluated.hasPlan && evaluated.decision.outcome == .promotionEligible &&
                (call.before.state.findRevision request.artifact request.expectedRevision).all
                  fun artifact => artifact.stage != request.requestedStage
          | _, _ => false)
    | _ => false

/-- After a plain evaluation, `promote` reports success for a transition nobody commits. -/
theorem abandoned_request_succeeds :
    ∃ (trace : List EngineStep) (before final : Engine) (request : PromotionRequest)
      (result : CommitResult), EngineRun sampleEngine trace final ∧
        Promotes request trace before result ∧ isSuccessOutcome result.outcome = true ∧
        ¬CommittedFor trace request ∧ ¬before.Occupies request := by
  have evaluated : (play step sampleEngine abandonedChoices).any succeedsUncommitted = true := by
    decide +kernel
  obtain ⟨trace, final, run, checked⟩ := run_of_checked evaluated
  simp only [succeedsUncommitted, Bool.and_eq_true, List.all_eq_true] at checked
  obtain ⟨quiet, shape⟩ := checked
  have uncommitted (request : PromotionRequest) : ¬CommittedFor trace request := by
    rintro ⟨step, executed, plan, ⟨now, _, input, _⟩, _⟩
    have alone := quiet step executed
    simp [input] at alone
  split at shape
  · rename_i publication registration first call
    split at shape
    · rename_i request now evaluated input output
      simp only [Bool.and_eq_true, Bool.not_eq_true', beq_iff_eq, Option.all_eq_true,
        bne_iff_ne] at shape
      obtain ⟨⟨planless, eligible⟩, elsewhere⟩ := shape
      have promotes : Promotes request ([publication, registration, first] ++ [call]) call.before
          { outcome := evaluated.decision.outcome, decision := evaluated.decision } :=
        .planless input output planless
      refine ⟨_, call.before, final, request, _, run, promotes, ?_, uncommitted request, ?_⟩
      · simp [eligible, isSuccessOutcome]
      · rintro ⟨artifact, found, stage, _⟩
        exact elsewhere artifact found stage
    · simp at shape
  · simp at shape

end Engine

end ArtifactPromotion
