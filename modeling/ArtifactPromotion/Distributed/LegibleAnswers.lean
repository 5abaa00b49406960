import ArtifactPromotion.Distributed.Answers
import ArtifactPromotion.Engine.Explanations
import ArtifactPromotion.Engine.PlanDecisions
import ArtifactPromotion.Persist.Exactness

/-! Which results of evaluations, promotions and explanations the client can read. -/

namespace ArtifactPromotion

open Protocol Runs

/-- The client's decoder accepts the plan, and nothing of it is cut. -/
def PromotionPlan.Sendable (plan : PromotionPlan) : Prop :=
  plan.valid = true ∧ plan.Unabridged

/-- The client's decoder accepts the decision, and nothing of a reason's text is cut. -/
def PromotionDecision.Legible (decision : PromotionDecision) : Prop :=
  decision.Readable ∧ decision.Plain

namespace Protocol.PromotionResultPayload

variable {payload : PromotionResultPayload}

structure TextsFit (payload : PromotionResultPayload) : Prop where
  gates : ∀ gate ∈ payload.decision.gates,
    gate.label.length ≤ kMaxNameLength ∧ gate.detail.length ≤ kMaxTextLength
  findings : ∀ finding ∈ payload.decision.findings,
    finding.customType.length ≤ kMaxNameLength ∧
      finding.detail.length ≤ kMaxTextLength
  subjects : ∀ reason ∈ payload.decision.reasons,
    reason.subject.length ≤ kMaxReferenceLength

instance (payload : PromotionResultPayload) : Decidable payload.TextsFit :=
  decidable_of_iff
    ((∀ gate ∈ payload.decision.gates,
        gate.label.length ≤ kMaxNameLength ∧ gate.detail.length ≤ kMaxTextLength) ∧
      (∀ finding ∈ payload.decision.findings,
        finding.customType.length ≤ kMaxNameLength ∧ finding.detail.length ≤ kMaxTextLength) ∧
      ∀ reason ∈ payload.decision.reasons, reason.subject.length ≤ kMaxReferenceLength)
    ⟨fun ⟨gates, findings, subjects⟩ => ⟨gates, findings, subjects⟩,
      fun ⟨gates, findings, subjects⟩ => ⟨gates, findings, subjects⟩⟩

/-- What the server never sends as it stands is left at its default. -/
structure Trimmed (payload : PromotionResultPayload) : Prop where
  plan : payload.hasPlan = false → payload.plan = {}
  record : payload.hasRecord = false → payload.record = {}
  placed : payload.hasPlan = true → payload.plan.Placed
  recorded : payload.hasRecord = true →
    payload.record.Readable ∧ payload.record.note.length ≤ kMaxTextLength

theorem decodes_iff (fits : payload.TextsFit) (trimmed : payload.Trimmed) :
    decodePromotionResult (encodePromotionResult payload) = .ok payload ↔
      payload.outcome ≠ .invalid ∧ payload.decision.Legible ∧
        (payload.hasPlan = true → payload.plan.Sendable) := by
  rw [decodePromotionResult_eq_ok]
  constructor
  · rintro ⟨readable, whole⟩
    have decision : payload.decision.restored = payload.decision :=
      congrArg PromotionResultPayload.decision whole
    have plain : payload.decision.Plain := fun reason inside =>
      (((PromotionDecision.restored_eq_iff _).mp decision).reasons reason inside).1
    refine ⟨(isValidPromotionOutcome_iff _).mp readable.outcome, ⟨readable.decision, plain⟩,
      fun announced => ⟨(readable.plan announced).valid, ?_⟩⟩
    have plan := congrArg PromotionResultPayload.plan whole
    simp only [restored, announced, if_true] at plan
    exact (PromotionPlan.restored_eq_iff _).mp plan
  · rintro ⟨settled, ⟨readable, plain⟩, sendable⟩
    refine ⟨⟨(isValidPromotionOutcome_iff _).mpr settled, readable, ?_, ?_⟩, ?_⟩
    · intro announced
      obtain ⟨kind, source, target⟩ := trimmed.placed announced
      exact ⟨kind, source, target, (sendable announced).1⟩
    · exact fun announced => (trimmed.recorded announced).1
    · have decision : payload.decision.restored = payload.decision :=
        (PromotionDecision.restored_eq_iff _).mpr ⟨fits.gates, fits.findings,
          fun reason inside => ⟨plain reason inside, fits.subjects reason inside⟩⟩
      have plan : (if payload.hasPlan then payload.plan.restored else {}) = payload.plan := by
        by_cases announced : payload.hasPlan = true
        · rw [if_pos announced]
          exact (PromotionPlan.restored_eq_iff _).mpr (sendable announced).2
        · rw [if_neg announced]
          exact (trimmed.plan (Bool.eq_false_iff.mpr announced)).symm
      have record : (if payload.hasRecord then payload.record.restored else {}) =
          payload.record := by
        by_cases announced : payload.hasRecord = true
        · rw [if_pos announced]
          exact (PromotionRecord.restored_eq_iff _).mpr (trimmed.recorded announced).2
        · rw [if_neg announced]
          exact (trimmed.record (Bool.eq_false_iff.mpr announced)).symm
      unfold restored
      rw [decision, plan, record]

end Protocol.PromotionResultPayload

structure PromotionDecision.Extensible (decision : PromotionDecision) : Prop where
  placed : decision.Placed
  gatesFit : decision.gates.length ≤ Codec.kMaxDecisionGates
  gates : ∀ gate ∈ decision.gates, isValidGateKind gate.kind.toByte.toNat = true
  findingsFit : decision.findings.length ≤ Codec.kMaxDecisionFindings
  findings : ∀ finding ∈ decision.findings, finding.Readable
  reasonsFit : decision.reasons.length < Codec.kMaxDecisionReasons
  plain : decision.Plain

theorem PromotionDecision.legible_addReason {decision : PromotionDecision}
    {outcome : PromotionOutcome} {reason : Reason} (settled : outcome ≠ .invalid)
    (plain : 0 ∉ reason.text.view) :
    ({ decision with outcome }.addReason reason).Legible ↔ decision.Extensible := by
  have longer : ({ decision with outcome }.addReason reason).reasons.length =
      decision.reasons.length + 1 := List.length_append
  constructor
  · rintro ⟨⟨kind, source, target, _, gatesFit, gates, findingsFit, findings, reasonsFit⟩, clean⟩
    rw [longer] at reasonsFit
    exact ⟨⟨kind, source, target⟩, gatesFit, gates, findingsFit, findings, reasonsFit,
      fun listed inside => clean listed (List.mem_append_left _ inside)⟩
  · rintro ⟨⟨kind, source, target⟩, gatesFit, gates, findingsFit, findings, reasonsFit, clean⟩
    refine ⟨⟨kind, source, target, (isValidPromotionOutcome_iff _).mpr settled, gatesFit, gates,
      findingsFit, findings, ?_⟩, PromotionDecision.Plain.addReason clean plain⟩
    rw [longer]
    exact reasonsFit

theorem PromotionDecision.legible_settled {decision : PromotionDecision} {outcome : PromotionOutcome}
    {authoritative : Bool} {decidedAt : Option UInt64} (placed : decision.Placed)
    (listed : decision.Listed 64) (settled : outcome ≠ .invalid) :
    PromotionDecision.Legible { decision with
      outcome, authoritative, decidedUnixMillis := decidedAt } ↔ decision.Plain := by
  constructor
  · exact fun legible => legible.2
  · intro plain
    obtain ⟨kind, source, target⟩ := placed
    exact ⟨readable_of_listed ⟨kind, source, target⟩ (listed.of_lists rfl rfl rfl) settled, plain⟩

namespace Engine

variable {engine next : Engine} {request : PromotionRequest} {plan : PromotionPlan}
  {artifact : ArtifactRecord} {now later : UInt64}

/-- The client can read the decision of the evaluation: a repeated request is answered by a legible
decision, and a first one asks for a registered revision and lists no zero byte in its reasons. -/
structure DecidesLegibly (engine : Engine) (request : PromotionRequest) (now : UInt64) : Prop where
  replayed : ∀ decision, engine.Replays request decision → decision.Legible
  fresh : engine.state.idempotency[request.request]? = none →
    ∃ artifact, engine.state.findRevision request.artifact request.expectedRevision =
      some artifact ∧ (artifact.digest = request.expectedDigest →
        ReachesGates engine.state request artifact →
          (engine.evaluationOf request artifact now).decision.Plain)

structure EvaluatesLegibly (engine : Engine) (request : PromotionRequest) (now : UInt64) :
    Prop where
  decision : engine.DecidesLegibly request now
  plan : ∀ artifact, engine.Plans request now artifact →
    (engine.planOf request artifact now).Sendable

/-- The client can read the decision of the commit: the policy is still the one of the plan; a plan
that came too late has a decision that takes one more reason, and any other still rests on its
evidence and lists no zero byte in its reasons. -/
structure CommitsLegibly (engine : Engine) (plan : PromotionPlan) (now : UInt64) : Prop where
  current : policyMoved engine.state plan = false
  dropped : expired plan now = true ∨ holdsReservation engine.state plan = false →
    (engine.decisionOf plan).Extensible
  kept : expired plan now = false → holdsReservation engine.state plan = true →
    ∀ artifact, engine.state.findRevision plan.artifact plan.artifactRevision = some artifact →
      engine.KeepsEvidence plan now artifact ∧ (engine.revalidation plan now).decision.Plain

theorem opened_legible {result : EvaluationResult}
    (opened : engine.Opened request artifact now result) :
    result.decision.Legible ↔ (artifact.digest = request.expectedDigest →
      ReachesGates engine.state request artifact →
        (engine.evaluationOf request artifact now).decision.Plain) := by
  have listed := opened.listed.mono (show PolicyRule.kMaxGates + 1 ≤ 64 by decide)
  rw [← opened.plain]
  constructor
  · exact fun legible => legible.2
  · exact fun plain =>
      ⟨PromotionDecision.readable_of_listed opened.placed listed opened.settled, plain⟩

theorem decidesLegibly_iff {result : EvaluationResult}
    (exits : engine.EvaluationExit request now result) :
    result.decision.Legible ↔ engine.DecidesLegibly request now := by
  have apart {decision : PromotionDecision}
      (unbound : engine.state.idempotency[request.request]? = none) :
      ¬engine.Replays request decision := by
    rintro ⟨record, bound, _⟩
    exact Option.some_ne_none _ (bound.symm.trans unbound)
  cases exits with
  | replayed replays =>
      constructor
      · intro legible
        refine ⟨fun other again => replays.unique again ▸ legible, fun unbound => ?_⟩
        exact absurd replays (apart unbound)
      · exact fun decides => decides.replayed _ replays
  | unknown unbound missing unnamed _ =>
      constructor
      · rintro ⟨readable, _⟩
        have kind := readable.kind
        rw [unnamed] at kind
        exact absurd kind (by decide)
      · intro decides
        obtain ⟨artifact, found, _⟩ := decides.fresh unbound
        exact absurd (found.symm.trans missing) (Option.some_ne_none _)
  | opened unbound found opened =>
      rw [opened_legible opened]
      constructor
      · exact fun plain => ⟨fun _ replays => absurd replays (apart unbound),
          fun _ => ⟨_, found, plain⟩⟩
      · intro decides
        obtain ⟨artifact, again, plain⟩ := decides.fresh unbound
        obtain rfl := Option.some.inj (found.symm.trans again)
        exact plain

theorem plans_fresh {decision : PromotionDecision} (plans : engine.Plans request now artifact) :
    ¬engine.Replays request decision := by
  rintro ⟨record, bound, held⟩
  exact Option.some_ne_none _ (held.symm.trans (plans.issues.unseen record bound))

theorem plans_unique {other : ArtifactRecord} (plans : engine.Plans request now artifact)
    (again : engine.Plans request now other) : other = artifact :=
  Option.some.inj (again.issues.found.symm.trans plans.issues.found)

theorem replays_answered (sound : engine.Sound) {decision : PromotionDecision}
    {result : EvaluationResult} (replays : engine.Replays request decision)
    (answered : engine.evaluate request now = (.ok result, next)) :
    result = { decision } ∧ next = engine := by
  obtain ⟨_, ⟨record, stored, bound, held, rfl, rfl⟩ | ⟨unbound, _⟩⟩ :=
    evaluate_exits sound answered
  · obtain rfl := replays.unique ⟨record, bound, held⟩
    exact ⟨rfl, rfl⟩
  · obtain ⟨record, bound, _⟩ := replays
    exact absurd (bound.symm.trans unbound) (Option.some_ne_none _)

theorem plans_cases (vetted : engine.Vetted) {result : EvaluationResult}
    (answered : engine.evaluate request now = (.ok result, next)) :
    (result.hasPlan = false ∧ result.plan = {} ∧ ∀ artifact, ¬engine.Plans request now artifact) ∨
      ∃ artifact, engine.Plans request now artifact ∧ result.hasPlan = true ∧
        result.plan = engine.planOf request artifact now ∧ result.decision.Legible := by
  have exits := evaluate_exit vetted answered
  have replied : (engine.evaluate request now).1 = .ok result := congrArg Prod.fst answered
  cases hasPlan : result.hasPlan with
  | false =>
      have plan : result.plan = {} := by
        cases exits with
        | replayed _ => rfl
        | unknown _ _ _ planless => exact planless.2.2
        | opened _ _ opened => exact (opened.planless hasPlan).2
      refine .inl ⟨rfl, plan, fun artifact plans => ?_⟩
      obtain ⟨other, again, planned⟩ := (evaluate_plans_iff vetted.sound).mpr ⟨artifact, plans⟩
      cases replied.symm.trans again
      exact Bool.false_ne_true (hasPlan.symm.trans planned)
  | true =>
      have legible : result.decision.Legible := by
        cases exits with
        | replayed _ => cases hasPlan
        | unknown _ _ _ planless => exact absurd (planless.2.1.symm.trans hasPlan) Bool.false_ne_true
        | opened _ _ opened =>
            have plain := (opened.planned hasPlan).2.plain
            exact (opened_legible opened).mpr (opened.plain.mp plain)
      have effect := @evaluate_effect engine request now
      rw [replied] at effect
      generalize (engine.evaluate request now).2 = last at effect
      cases effect with
      | idle quiet _ => simp [Reply.confirmsChange, hasPlan] at quiet
      | undecided _ _ planless _ => simp [hasPlan] at planless
      | decided _ _ _ planless _ _ _ => simp [hasPlan] at planless
      | @issued _ _ artifact _ _ _ _ issues _ plan_eq _ opens _ _ =>
          obtain ⟨other, again, planned⟩ := issues_answered vetted.sound opens.admitted issues
          cases replied.symm.trans again
          exact .inr ⟨artifact, planned.mp hasPlan, rfl, plan_eq, legible⟩

theorem revalidation_shaped (vetted : engine.Vetted) (decided : engine.PlansDecided)
    {id : PromotionPlanId} (stored : engine.state.plans[id]? = some plan)
    (revalidates : engine.Revalidates plan now artifact) :
    (engine.revalidation plan now).decision.Placed ∧
      (engine.revalidation plan now).decision.Listed 64 := by
  have held := plan_decision_held vetted.sound stored
  have pristine := decided.pristine id plan _ stored held revalidates.reserved
  have known := vetted.artifacts _ _ (findRevision_mem revalidates.found).1
  have placed := decided.placed id plan stored
  have found : engine.state.findRevision (requestOfPlan plan).artifact
      (requestOfPlan plan).expectedRevision = some artifact := revalidates.found
  constructor
  · exact evaluateGates_placed found known placed.target
  · have twice : PolicyRule.kMaxGates + PolicyRule.kMaxGates = 64 := by decide
    rw [← twice]
    exact evaluateGates_listed vetted.policy vetted.evidence pristine.listed

theorem commitsLegibly_iff_late (current : policyMoved engine.state plan = false)
    (late : expired plan now = true ∨ holdsReservation engine.state plan = false) :
    engine.CommitsLegibly plan now ↔ (engine.decisionOf plan).Extensible := by
  constructor
  · exact fun legibly => legibly.dropped late
  · intro extensible
    refine ⟨current, fun _ => extensible, fun timely reserved => ?_⟩
    rcases late with expires | lost
    · exact absurd (timely.symm.trans expires) Bool.false_ne_true
    · exact absurd (lost.symm.trans reserved) Bool.false_ne_true

theorem commitsLegibly_iff_kept (revalidates : engine.Revalidates plan now artifact) :
    engine.CommitsLegibly plan now ↔ engine.KeepsEvidence plan now artifact ∧
      (engine.revalidation plan now).decision.Plain := by
  obtain ⟨current, found, timely, reserved⟩ := revalidates
  constructor
  · exact fun legibly => legibly.kept timely reserved artifact found
  · intro kept
    refine ⟨current, fun late => ?_, fun _ _ other again => ?_⟩
    · rcases late with expires | lost
      · exact absurd (timely.symm.trans expires) Bool.false_ne_true
      · exact absurd (lost.symm.trans reserved) Bool.false_ne_true
    · rw [← Option.some.inj (found.symm.trans again)]
      exact kept

theorem commitsLegibly_iff (vetted : engine.Vetted) (decided : engine.PlansDecided)
    {result : CommitResult} (stored : engine.state.plans[plan.id]? = some plan)
    (exits : engine.CommitExit plan now result next) :
    result.outcome ≠ .invalid ∧ result.decision.Legible ↔ engine.CommitsLegibly plan now := by
  have closes {artifact : ArtifactRecord} {outcome : PromotionOutcome} {authoritative : Bool}
      {decidedAt : Option UInt64} (revalidates : engine.Revalidates plan now artifact)
      (kept : engine.KeepsEvidence plan now artifact) (settled : outcome ≠ .invalid) :
      outcome ≠ .invalid ∧ PromotionDecision.Legible { (engine.revalidation plan now).decision with
        outcome, authoritative, decidedUnixMillis := decidedAt } ↔
          engine.CommitsLegibly plan now := by
    obtain ⟨placed, listed⟩ := revalidation_shaped vetted decided stored revalidates
    rw [commitsLegibly_iff_kept revalidates, PromotionDecision.legible_settled placed listed settled]
    exact ⟨fun legible => ⟨kept, legible.2⟩, fun kept => ⟨settled, kept.2⟩⟩
  cases exits with
  | stale moved _ _ =>
      refine iff_of_false (fun legible => ?_) fun legibly => ?_
      · exact absurd legible.2.1.kind (by decide)
      · exact absurd (legibly.current.symm.trans moved) Bool.false_ne_true
  | missing unknown _ =>
      obtain ⟨artifact, found⟩ := decided.registered _ _ stored
      exact absurd (found.symm.trans unknown) (Option.some_ne_none _)
  | dropped current late settled plain _ =>
      rw [commitsLegibly_iff_late current late, PromotionDecision.legible_addReason settled.1 plain]
      exact ⟨fun legible => legible.2, fun extensible => ⟨settled.1, extensible⟩⟩
  | changed revalidates differs _ _ =>
      refine iff_of_false (fun legible => legible.1 rfl) fun legibly => ?_
      exact differs ((commitsLegibly_iff_kept revalidates).mp legibly).1
  | refused revalidates kept settled _ => exact closes revalidates kept settled.1
  | applied revalidates kept _ =>
      exact closes revalidates kept (show PromotionOutcome.promotionCommitted ≠ .invalid by decide)

theorem evaluated_reachable (reachable : Reachable engine)
    (fits : (engine.evaluate request now).2.representable = true) :
    Reachable (engine.evaluate request now).2 := by
  obtain ⟨start, trace, constructed, run⟩ := reachable
  have moved : engine.step (.evaluate request now) =
      some (.evaluated (engine.evaluate request now).1, (engine.evaluate request now).2) :=
    step_of_perform rfl fits
  exact ⟨start, _, constructed, run.append (.cons moved (.nil _))⟩

theorem committed_reachable (reachable : Reachable engine)
    (fits : (engine.commit plan now).2.representable = true) :
    Reachable (engine.commit plan now).2 := by
  obtain ⟨start, trace, constructed, run⟩ := reachable
  have moved : engine.step (.commit plan now) =
      some (.committed (engine.commit plan now).1, (engine.commit plan now).2) :=
    step_of_perform rfl fits
  exact ⟨start, _, constructed, run.append (.cons moved (.nil _))⟩

def ShowsSendable (engine : Engine) (id : PromotionPlanId) (others : List (Engine → Op)) : Prop :=
  ∀ last plan, engine.amid others = some last → last.state.plans[id]? = some plan → plan.Sendable

structure PromotesLegibly (engine : Engine) (request : PromotionRequest) (now later : UInt64)
    (committing inspecting : List (Engine → Op)) : Prop where
  decision : engine.DecidesLegibly request now
  replayed : ∀ decision, engine.Replays request decision → decision.plan.valid = true →
    engine.ShowsSendable decision.plan inspecting
  committed : ∀ artifact middle, engine.Plans request now artifact →
    (engine.evaluate request now).2.amid committing = some middle →
      middle.CommitsLegibly (engine.planOf request artifact now) later ∧
        (middle.commit (engine.planOf request artifact now) later).2.ShowsSendable
          (engine.planOf request artifact now).id inspecting

theorem recorded_readable (vetted : engine.Vetted) (decided : engine.PlansDecided)
    {result : CommitResult} (stored : engine.state.plans[plan.id]? = some plan)
    (exits : engine.CommitExit plan now result next) :
    (result.hasRecord = false → result.record = {}) ∧
      (result.hasRecord = true →
        result.record.Readable ∧ result.record.note.length ≤ kMaxTextLength) := by
  cases exits with
  | stale _ _ _ | missing _ _ | dropped _ _ _ _ _ | changed _ _ _ _ | refused _ _ _ _ =>
      exact ⟨fun _ => rfl, fun recorded => absurd recorded Bool.false_ne_true⟩
  | @applied artifact _ _ _ revalidates _ _ =>
      refine ⟨fun unrecorded => absurd unrecorded.symm Bool.false_ne_true, fun _ => ?_⟩
      have known := vetted.artifacts _ _ (findRevision_mem revalidates.found).1
      have placed := decided.placed _ plan stored
      refine ⟨⟨known.stage, placed.target⟩, ?_⟩
      have short : ∀ stage : Stage, stage.name.length ≤ 32 := by
        intro stage
        cases stage with
        | unnamed _ _ => exact show (text "INVALID").length ≤ 32 by decide
        | _ => decide
      have source := short artifact.stage
      have target := short plan.target
      have fixed : (text "committed ").length + (text " -> ").length ≤ 32 := by decide
      change (text "committed " ++ artifact.stage.name ++ text " -> " ++ plan.target.name).length ≤
        512
      simp only [List.length_append]
      omega

theorem committed_plan (vetted : engine.Vetted) (decided : engine.PlansDecided)
    {result : CommitResult} (stored : engine.state.plans[plan.id]? = some plan)
    (exits : engine.CommitExit plan now result next)
    (legibly : engine.CommitsLegibly plan now) : result.decision.plan = plan.id := by
  have named : (engine.decisionOf plan).plan = plan.id :=
    decided.named _ plan _ stored (plan_decision_held vetted.sound stored)
  cases exits with
  | stale moved _ _ => exact absurd (legibly.current.symm.trans moved) Bool.false_ne_true
  | missing _ _ => exact named
  | dropped _ _ _ _ _ => exact named
  | changed revalidates differs _ _ =>
      exact absurd ((commitsLegibly_iff_kept revalidates).mp legibly).1 differs
  | refused _ _ _ _ => exact revalidation_plan.trans named
  | applied _ _ _ => exact revalidation_plan.trans named

theorem plan_named (valid : plan.valid = true) : plan.id.valid = true := by
  simp only [PromotionPlan.valid, Bool.and_eq_true, and_assoc] at valid
  exact valid.1

theorem shownPlan_sendable {last : Engine} {result : CommitResult}
    {inspecting : List (Engine → Op)} (inspected : engine.amid inspecting = some last) :
    ((FrameServer.promotionPayload last result).hasPlan = true →
        (FrameServer.promotionPayload last result).plan.Sendable) ↔
      (result.decision.plan.valid = true →
        engine.ShowsSendable result.decision.plan inspecting) := by
  unfold FrameServer.promotionPayload inspectPlan
  dsimp only
  by_cases named : result.decision.plan.valid = true
  · rw [if_pos named]
    simp only [named, true_implies]
    constructor
    · intro sendable final plan used stored
      obtain rfl := Option.some.inj (inspected.symm.trans used)
      rw [stored] at sendable
      exact sendable rfl
    · intro shows shown
      obtain ⟨plan, stored⟩ := Option.isSome_iff_exists.mp shown
      rw [stored]
      exact shows last plan inspected stored
  · rw [if_neg named]
    exact iff_of_true (fun shown => absurd shown Bool.false_ne_true) fun valid => absurd valid named

theorem promotionPayload_trimmed {last : Engine} {result : CommitResult}
    (decided : last.PlansDecided) (unrecorded : result.hasRecord = false → result.record = {})
    (recorded : result.hasRecord = true →
      result.record.Readable ∧ result.record.note.length ≤ kMaxTextLength) :
    (FrameServer.promotionPayload last result).Trimmed := by
  constructor
  case record => exact unrecorded
  case recorded => exact recorded
  all_goals
    unfold FrameServer.promotionPayload inspectPlan
    dsimp only
    generalize shown : (if result.decision.plan.valid = true then
      last.state.plans[result.decision.plan]? else none) = plan
    intro shows
  case plan =>
    rw [Option.isSome_eq_false_iff, Option.isNone_iff_eq_none] at shows
    rw [shows]
    rfl
  case placed =>
    obtain ⟨stored, rfl⟩ := Option.isSome_iff_exists.mp shows
    split at shown
    · exact decided.placed _ stored shown
    · cases shown

theorem planless_decodes_iff (reachable : Reachable engine)
    {committing inspecting : List (Engine → Op)} {evaluated : EvaluationResult} {last : Engine}
    (evaluation : engine.evaluate request now = (.ok evaluated, next))
    (planless : evaluated.hasPlan = false)
    (unplanned : ∀ artifact, ¬engine.Plans request now artifact)
    (inspected : next.amid inspecting = some last)
    (fits : (FrameServer.promotionPayload last
      { outcome := evaluated.decision.outcome, decision := evaluated.decision }).TextsFit) :
    decodePromotionResult (encodePromotionResult (FrameServer.promotionPayload last
        { outcome := evaluated.decision.outcome, decision := evaluated.decision })) =
        .ok (FrameServer.promotionPayload last
          { outcome := evaluated.decision.outcome, decision := evaluated.decision }) ↔
      engine.PromotesLegibly request now later committing inspecting := by
  have vetted := (reachable_decided reachable).1
  have exits := evaluate_exit vetted evaluation
  have legible := decidesLegibly_iff exits
  have after : (engine.evaluate request now).2 = next := congrArg Prod.snd evaluation
  have fit := representable_of_amid inspected
  rw [← after] at fit
  have final := amid_reachable (after ▸ evaluated_reachable reachable fit) inspected
  have trimmed := @promotionPayload_trimmed last
    { outcome := evaluated.decision.outcome, decision := evaluated.decision }
    (reachable_decided final).2 (fun _ => rfl) nofun
  rw [PromotionResultPayload.decodes_iff fits trimmed, shownPlan_sendable inspected]
  constructor
  · rintro ⟨_, readable, shows⟩
    refine ⟨legible.mp readable, fun decision replays named => ?_, fun artifact _ plans => ?_⟩
    · obtain ⟨rfl, rfl⟩ := replays_answered vetted.sound replays evaluation
      exact shows named
    · exact absurd plans (unplanned artifact)
  · rintro ⟨decides, replayed, _⟩
    have readable := legible.mpr decides
    refine ⟨(isValidPromotionOutcome_iff _).mp readable.1.outcome, readable, fun named => ?_⟩
    -- only a replayed decision names a plan
    cases exits with
    | replayed replays =>
        obtain ⟨_, rfl⟩ := replays_answered vetted.sound replays evaluation
        exact replayed _ replays named
    | unknown _ _ _ unplanned =>
        rw [unplanned.1] at named
        cases named
    | opened _ _ opened =>
        rw [(opened.planless planless).1] at named
        cases named

/-- A promotion whose evaluation made a plan answers with what the commit of it says. -/
theorem planned_decodes_iff (reachable : Reachable engine)
    {committing inspecting : List (Engine → Op)} {evaluated : EvaluationResult}
    {artifact : ArtifactRecord} {result : CommitResult} {resumed middle last : Engine}
    (evaluation : engine.evaluate request now = (.ok evaluated, next))
    (plans : engine.Plans request now artifact) (readable : evaluated.decision.Legible)
    (used : next.amid committing = some resumed)
    (answered : resumed.commit (engine.planOf request artifact now) later = (.ok result, middle))
    (inspected : middle.amid inspecting = some last)
    (fits : (FrameServer.promotionPayload last result).TextsFit) :
    decodePromotionResult (encodePromotionResult (FrameServer.promotionPayload last result)) =
        .ok (FrameServer.promotionPayload last result) ↔
      engine.PromotesLegibly request now later committing inspecting := by
  have legible := decidesLegibly_iff (evaluate_exit (reachable_decided reachable).1 evaluation)
  have after : (engine.evaluate request now).2 = next := congrArg Prod.snd evaluation
  have fit := representable_of_amid used
  rw [← after] at fit
  have resumes := amid_reachable (after ▸ evaluated_reachable reachable fit) used
  obtain ⟨vetted, decided⟩ := reachable_decided resumes
  obtain ⟨valid, stored, exits⟩ := commit_exits answered
  have committed : (resumed.commit (engine.planOf request artifact now) later).2 = middle :=
    congrArg Prod.snd answered
  have fit := representable_of_amid inspected
  rw [← committed] at fit
  have final := amid_reachable (committed ▸ committed_reachable resumes fit) inspected
  obtain ⟨unrecorded, recorded⟩ := recorded_readable vetted decided stored exits
  have trimmed := promotionPayload_trimmed (reachable_decided final).2 unrecorded recorded
  have commits := commitsLegibly_iff vetted decided stored exits
  have named : (engine.planOf request artifact now).id.valid = true := plan_named valid
  rw [PromotionResultPayload.decodes_iff fits trimmed, shownPlan_sendable inspected]
  constructor
  · rintro ⟨settled, sent, shows⟩
    refine ⟨legible.mp readable, fun decision replays => absurd replays (plans_fresh plans), ?_⟩
    intro other again others usedAgain
    obtain rfl := plans_unique plans others
    rw [after, used] at usedAgain
    obtain rfl := Option.some.inj usedAgain
    have legibly := commits.mp ⟨settled, sent⟩
    rw [committed_plan vetted decided stored exits legibly] at shows
    exact ⟨legibly, committed ▸ shows named⟩
  · intro promotes
    obtain ⟨legibly, shows⟩ := promotes.committed artifact resumed plans (after ▸ used)
    obtain ⟨settled, sent⟩ := commits.mpr legibly
    rw [committed_plan vetted decided stored exits legibly]
    exact ⟨settled, sent, fun _ => committed ▸ shows⟩

theorem promotion_decodes_iff (reachable : Reachable engine)
    {committing inspecting : List (Engine → Op)} {result : CommitResult} {middle last : Engine}
    (promoted : engine.promoteAmid request now later committing = some (.ok result, middle))
    (inspected : middle.amid inspecting = some last)
    (fits : (FrameServer.promotionPayload last result).TextsFit) :
    decodePromotionResult (encodePromotionResult (FrameServer.promotionPayload last result)) =
        .ok (FrameServer.promotionPayload last result) ↔
      engine.PromotesLegibly request now later committing inspecting := by
  have vetted := (reachable_decided reachable).1
  unfold promoteAmid at promoted
  split at promoted
  · cases promoted
  rename_i evaluated asked evaluation
  rcases plans_cases vetted evaluation with
    ⟨planless, _, unplanned⟩ | ⟨artifact, plans, planned, made, readable⟩
  · rw [planless] at promoted
    cases promoted
    exact planless_decodes_iff reachable evaluation planless unplanned inspected fits
  · rw [planned] at promoted
    obtain ⟨resumed, used, answered⟩ := Option.map_eq_some_iff.mp promoted
    rw [made] at answered
    exact planned_decodes_iff reachable evaluation plans readable used answered inspected fits

theorem evaluation_decodes_iff (vetted : engine.Vetted) {result : EvaluationResult}
    (answered : engine.evaluate request now = (.ok result, next))
    (fits : (FrameServer.evaluationPayload result).TextsFit) :
    decodePromotionResult (encodePromotionResult (FrameServer.evaluationPayload result)) =
        .ok (FrameServer.evaluationPayload result) ↔ engine.EvaluatesLegibly request now := by
  have legible := decidesLegibly_iff (evaluate_exit vetted answered)
  have settled (readable : result.decision.Legible) : result.decision.outcome ≠ .invalid :=
    (isValidPromotionOutcome_iff _).mp readable.1.outcome
  rcases plans_cases vetted answered with
    ⟨planless, blank, unplanned⟩ | ⟨artifact, plans, planned, made, readable⟩
  · have trimmed : (FrameServer.evaluationPayload result).Trimmed :=
      ⟨fun _ => blank, fun _ => rfl, fun planned => absurd (planless.symm.trans planned)
        Bool.false_ne_true, fun recorded => absurd recorded Bool.false_ne_true⟩
    rw [PromotionResultPayload.decodes_iff fits trimmed]
    constructor
    · rintro ⟨_, readable, _⟩
      exact ⟨legible.mp readable, fun artifact plans => absurd plans (unplanned artifact)⟩
    · rintro ⟨decides, _⟩
      have readable := legible.mpr decides
      exact ⟨settled readable, readable, fun planned =>
        absurd (planless.symm.trans planned) Bool.false_ne_true⟩
  · have known := vetted.artifacts _ _ (findRevision_mem plans.issues.found).1
    have placed : result.plan.Placed := by
      rw [made]
      exact ⟨known.kind, known.stage, wellFormed_stage plans.issues.wellFormed⟩
    have trimmed : (FrameServer.evaluationPayload result).Trimmed :=
      ⟨fun planless => absurd (planless.symm.trans planned) Bool.false_ne_true, fun _ => rfl,
        fun _ => placed, fun recorded => absurd recorded Bool.false_ne_true⟩
    rw [PromotionResultPayload.decodes_iff fits trimmed]
    constructor
    · rintro ⟨_, _, sendable⟩
      refine ⟨legible.mp readable, fun other others => ?_⟩
      obtain rfl := plans_unique plans others
      rw [← made]
      exact sendable planned
    · rintro ⟨_, sendable⟩
      refine ⟨settled readable, readable, fun _ => ?_⟩
      change result.plan.Sendable
      rw [made]
      exact sendable artifact plans

theorem explanation_decodes_iff (vetted : engine.Vetted) {id : ArtifactId} {destination : Stage}
    {decision : PromotionDecision}
    (explained : engine.explain id destination now later = some decision)
    (fits : (FrameServer.explanationPayload decision).TextsFit) :
    decodePromotionResult (encodePromotionResult (FrameServer.explanationPayload decision)) =
        .ok (FrameServer.explanationPayload decision) ↔
      ∀ artifact, engine.state.findCurrent id = some artifact →
        (engine.explanationOf id artifact destination now).decision.Plain := by
  obtain ⟨artifact, found, placed, listed, settled, plain⟩ := explain_explained vetted explained
  have trimmed : (FrameServer.explanationPayload decision).Trimmed :=
    ⟨fun _ => rfl, fun _ => rfl, fun planned => absurd planned Bool.false_ne_true,
      fun recorded => absurd recorded Bool.false_ne_true⟩
  rw [PromotionResultPayload.decodes_iff fits trimmed]
  constructor
  · rintro ⟨_, legible, _⟩ other again
    obtain rfl := Option.some.inj (found.symm.trans again)
    exact plain.mp legible.2
  · intro clean
    have wide := listed.mono (show PolicyRule.kMaxGates ≤ 64 by decide)
    exact ⟨settled, ⟨PromotionDecision.readable_of_listed placed wide settled,
      plain.mpr (clean artifact found)⟩, fun planned => absurd planned Bool.false_ne_true⟩

end Engine

namespace FrameServer

variable {server next : FrameServer} {circumstances : Circumstances} {meanwhile : Meanwhile}
  {request : Frame}

def Legible (server : FrameServer) (circumstances : Circumstances) (meanwhile : Meanwhile)
    (request : Frame) : Prop :=
  ∀ payload, decodePromotionRequest request.payload = .ok payload →
    match request.type with
    | .explainRequest =>
        ∀ artifact, server.engine.state.findCurrent payload.artifact = some artifact →
          (server.engine.explanationOf payload.artifact artifact payload.requestedStage
            circumstances.now).decision.Plain
    | .evaluateRequest =>
        ∀ engine, server.engine.amid meanwhile.arriving = some engine →
          engine.EvaluatesLegibly (receivedPromotion server.engine request payload)
            circumstances.now
    | _ =>
        ∀ engine, server.engine.amid meanwhile.arriving = some engine →
          engine.PromotesLegibly (receivedPromotion server.engine request payload)
            circumstances.now circumstances.later meanwhile.committing meanwhile.inspecting

theorem explanation_read_iff (reachable : Reachable server.engine) {sent : PromotionResultPayload}
    (made : server.resultAmid circumstances meanwhile request = some (.ok sent, next))
    (asked : request.type = .explainRequest) (fits : sent.TextsFit) :
    decodePromotionResult (encodePromotionResult sent) = .ok sent ↔
      server.Legible circumstances meanwhile request := by
  have vetted := (Engine.reachable_decided reachable).1
  simp only [resultAmid, asked, Option.some.injEq, Prod.mk.injEq] at made
  obtain ⟨payload, decoded, explained⟩ := (bind_eq_ok _ _ _).mp made.1
  unfold explanationResult at explained
  split at explained
  · cases explained
  rename_i decision answered
  cases explained
  unfold Legible
  simp only [asked]
  rw [Engine.explanation_decodes_iff vetted answered fits]
  constructor
  · intro clean other again
    cases decoded.symm.trans again
    exact clean
  · exact fun legible => legible payload decoded

theorem decision_read_iff (reachable : Reachable server.engine) {payload : PromotionPayload}
    {sent : PromotionResultPayload} {last : Engine}
    (decoded : decodePromotionRequest request.payload = .ok payload)
    (made : promotionResult server.engine circumstances meanwhile request payload =
      some (.ok sent, last))
    (asked : request.type = .evaluateRequest ∨ request.type = .promotionRequest)
    (fits : sent.TextsFit) :
    decodePromotionResult (encodePromotionResult sent) = .ok sent ↔
      server.Legible circumstances meanwhile request := by
  unfold promotionResult at made
  split at made
  · cases made
  dsimp only at made
  obtain ⟨arrived, used, made⟩ := Option.bind_eq_some_iff.mp made
  have arrives := Engine.amid_reachable reachable used
  have vetted := (Engine.reachable_decided arrives).1
  unfold Legible
  rcases asked with evaluates | promotes
  · rw [if_pos evaluates] at made
    simp only [evaluates]
    rw [Option.some.injEq, Prod.mk.injEq] at made
    cases evaluation : arrived.evaluate (receivedPromotion server.engine request payload)
        circumstances.now with
    | mk answer after =>
        rw [evaluation] at made
        cases answer with
        | error status => cases made.1
        | ok result =>
            cases made.1
            rw [Engine.evaluation_decodes_iff vetted evaluation fits]
            constructor
            · intro legible other again engine usedAgain
              cases decoded.symm.trans again
              cases used.symm.trans usedAgain
              exact legible
            · exact fun legible => legible payload decoded arrived used
  · have other : request.type ≠ .evaluateRequest := by
      rw [promotes]
      decide
    rw [if_neg other] at made
    simp only [promotes]
    obtain ⟨⟨committed, middle⟩, promoted, made⟩ := Option.bind_eq_some_iff.mp made
    obtain ⟨final, inspected, made⟩ := Option.map_eq_some_iff.mp made
    rw [Prod.mk.injEq] at made
    cases committed with
    | error status => cases made.1
    | ok result =>
        cases made.1
        rw [Engine.promotion_decodes_iff arrives promoted inspected fits]
        constructor
        · intro legible other again engine usedAgain
          cases decoded.symm.trans again
          cases used.symm.trans usedAgain
          exact legible
        · exact fun legible => legible payload decoded arrived used

/-- In every reachable state, and whatever others do meanwhile, the client gets back the result the
server encoded exactly when it is legible. -/
theorem answer_read_iff (reachable : Reachable server.engine) {answer : Answer}
    (served : server.handleFrameAmid circumstances meanwhile request = some (.ok answer, next))
    (carries : CarriesResult answer.type)
    (fits : ∀ sent, server.resultAmid circumstances meanwhile request = some (.ok sent, next) →
      sent.TextsFit) :
    (∃ sent, server.resultAmid circumstances meanwhile request = some (.ok sent, next) ∧
        answer = ⟨resultType request.type, encodePromotionResult sent⟩ ∧
        decodePromotionResult answer.payload = .ok sent) ↔
      server.Legible circumstances meanwhile request := by
  obtain ⟨sent, made, rfl, asked⟩ := handleFrameAmid_results served carries
  have read : decodePromotionResult (encodePromotionResult sent) = .ok sent ↔
      server.Legible circumstances meanwhile request := by
    by_cases explains : request.type = .explainRequest
    · exact explanation_read_iff reachable made explains (fits sent made)
    · have decides : request.type = .evaluateRequest ∨ request.type = .promotionRequest := by
        rcases asked with evaluates | promotes | explained
        · exact .inl evaluates
        · exact .inr promotes
        · exact absurd explained explains
      have called := made
      unfold resultAmid at called
      split at called
      · contradiction
      split at called
      · cases called
      split at called
      · cases called
      rename_i payload decoded
      obtain ⟨⟨result, last⟩, decided, same⟩ := Option.map_eq_some_iff.mp called
      cases same
      exact decision_read_iff reachable decoded decided decides (fits sent made)
  constructor
  · rintro ⟨other, again, _, delivered⟩
    cases made.symm.trans again
    exact read.mp delivered
  · exact fun legible => ⟨sent, made, rfl, read.mpr legible⟩

def readsBack (server : FrameServer) (request : Frame) : Bool :=
  match server.resultAmid ⟨5, 5, .ok ()⟩ {} request with
  | some (.ok sent, _) => decide sent.TextsFit &&
      (decodePromotionResult (encodePromotionResult sent)).toOption == some sent
  | _ => false

def askingFrame : Frame :=
  { type := .explainRequest, request := ⟨0, 2⟩
    payload := encodePromotionRequest { artifact := ⟨0, 5⟩, requestedStage := .promoted } }

theorem answer_read_iff_explained :
    ∃ server : FrameServer, Reachable server.engine ∧
      server.Legible ⟨5, 5, .ok ()⟩ {} askingFrame := by
  obtain ⟨engine, reachable, checked⟩ := @Reachable.of_play _ Engine.registeredChoices
    (fun engine => ({ engine } : FrameServer).readsBack askingFrame)
    Engine.sampleEngine_constructed (by decide +kernel)
  unfold readsBack at checked
  split at checked
  · rename_i sent next made
    rw [Bool.and_eq_true, decide_eq_true_eq, beq_iff_eq] at checked
    obtain ⟨fits, delivered⟩ := checked
    have served : ({ engine } : FrameServer).handleFrameAmid ⟨5, 5, .ok ()⟩ {} askingFrame =
        some (.ok ⟨.explainResponse, encodePromotionResult sent⟩, next) := by
      have asked : askingFrame.type = .explainRequest := rfl
      simp only [handleFrameAmid, asked, made]
      rfl
    have read := answer_read_iff reachable served (.inr (.inr rfl)) fun other again => by
      cases made.symm.trans again
      exact fits
    refine ⟨{ engine }, reachable, read.mp ⟨sent, made, rfl, ?_⟩⟩
    cases decoded : decodePromotionResult (encodePromotionResult sent) with
    | error status =>
        rw [decoded] at delivered
        cases delivered
    | ok received =>
        rw [decoded] at delivered
        cases delivered
        rfl
  · cases checked

def strayFrame : Frame :=
  { type := .evaluateRequest, request := ⟨0, 1⟩,
    coordinator := Engine.sampleEngine.state.coordinator, epoch := Engine.sampleEngine.state.epoch,
    worker := ⟨0, 7⟩, boot := ⟨0, 1⟩,
    payload := encodePromotionRequest
      { artifact := ⟨0, 5⟩, revision := ⟨0, 1⟩, digest := (Engine.sampleRegistration 1).digest,
        requestedStage := .promoted } }

/-- The client's decoder rejects what the server sends about an artifact it does not find. -/
def misreads (server : FrameServer) (request : Frame) : Bool :=
  match server.resultAmid ⟨5, 5, .ok ()⟩ {} request with
  | some (.ok sent, _) => decide sent.TextsFit && sent.outcome == .artifactNotFound &&
      (decodePromotionResult (encodePromotionResult sent)).toOption.isNone
  | _ => false

theorem misread_of_misreads (evaluates : request.type = .evaluateRequest)
    (misread : server.misreads request = true) :
    ∃ (next : FrameServer) (sent : PromotionResultPayload) (status : Status),
      server.handleFrame ⟨5, 5, .ok ()⟩ request =
          (.ok ⟨.evaluateResponse, encodePromotionResult sent⟩, next) ∧
        sent.outcome = .artifactNotFound ∧ sent.TextsFit ∧
        decodePromotionResult (encodePromotionResult sent) = .error status := by
  unfold misreads at misread
  split at misread
  · rename_i sent next made
    simp only [Bool.and_eq_true, decide_eq_true_eq, beq_iff_eq] at misread
    obtain ⟨⟨fits, missing⟩, refused⟩ := misread
    have served : server.handleFrame ⟨5, 5, .ok ()⟩ request =
        (.ok ⟨.evaluateResponse, encodePromotionResult sent⟩, next) := by
      apply handleFrameAmid_undisturbed
      simp only [handleFrameAmid, evaluates, made]
      rfl
    cases decoded : decodePromotionResult (encodePromotionResult sent) with
    | error status => exact ⟨next, sent, status, served, missing, fits, decoded⟩
    | ok received =>
        rw [decoded] at refused
        cases refused
  · cases misread

/-- The evaluation of an unregistered revision is answered by a decision of no artifact class, which
the client's decoder rejects. -/
theorem unregistered_misread :
    ∃ (server next : FrameServer) (circumstances : Circumstances) (request : Frame)
      (sent : PromotionResultPayload) (status : Status),
      Reachable server.engine ∧
        server.handleFrame circumstances request =
          (.ok ⟨.evaluateResponse, encodePromotionResult sent⟩, next) ∧
        sent.outcome = .artifactNotFound ∧ sent.TextsFit ∧
        decodePromotionResult (encodePromotionResult sent) = .error status := by
  have misread : ({ engine := Engine.sampleEngine } : FrameServer).misreads strayFrame = true := by
    decide +kernel
  obtain ⟨next, sent, status, facts⟩ := misread_of_misreads rfl misread
  have reachable : Reachable Engine.sampleEngine :=
    ⟨Engine.sampleEngine, [], Engine.sampleEngine_constructed, Run.nil Engine.sampleEngine⟩
  exact ⟨{ engine := Engine.sampleEngine }, next, ⟨5, 5, .ok ()⟩, strayFrame, sent, status,
    reachable, facts⟩

end FrameServer

end ArtifactPromotion
