import ArtifactPromotion.Engine.Decisions

/-! What a stored decision is about, and that the plans, the request bindings and the promotion
records that refer to decisions never dangle. -/

namespace ArtifactPromotion

open Runs

/-- A decision was rewritten: it answers the same request in the same place of the sequence, and it
is about what it was about before or about the given revision. -/
structure PromotionDecision.Follows (decision old : PromotionDecision) (artifact : ArtifactId)
    (revision : ArtifactRevision) : Prop where
  request : decision.request = old.request
  attempt : decision.attempt = old.attempt
  sequence : decision.sequence = old.sequence
  subject : (decision.artifact = old.artifact ∧ decision.artifactRevision = old.artifactRevision) ∨
    (decision.artifact = artifact ∧ decision.artifactRevision = revision)

namespace PromotionDecision.Follows

variable {decision old : PromotionDecision} {artifact : ArtifactId} {revision : ArtifactRevision}

theorem bound (follows : decision.Follows old artifact revision) (named : old.artifact = artifact)
    (revised : old.artifactRevision = revision) :
    decision.artifact = artifact ∧ decision.artifactRevision = revision := by
  rcases follows.subject with kept | bound
  · exact ⟨kept.1.trans named, kept.2.trans revised⟩
  · exact bound

end PromotionDecision.Follows

theorem evaluateRequirements_subject (context : GateContext) (gates : List Gate)
    (result : GateOutcome) (decision : PromotionDecision) :
    let evaluated := (evaluateRequirements context gates result decision).2
    evaluated.request = decision.request ∧ evaluated.attempt = decision.attempt ∧
      evaluated.sequence = decision.sequence ∧ evaluated.artifact = decision.artifact ∧
      evaluated.artifactRevision = decision.artifactRevision := by
  obtain ⟨explanations, findings, reasons, same⟩ :=
    evaluateRequirements_decision context gates result decision
  rw [same]
  exact ⟨rfl, rfl, rfl, rfl, rfl⟩

theorem evaluateGates_follows (config : EngineConfig) (state : CoordinatorState)
    (request : PromotionRequest) (now : UInt64) (decision : PromotionDecision)
    (named : ∀ record ∈ state.chain request.artifact, record.id = request.artifact) :
    (evaluateGates config state request now decision).decision.Follows decision request.artifact
      request.expectedRevision := by
  unfold evaluateGates
  cases found : state.findRevision request.artifact request.expectedRevision with
  | none => exact ⟨rfl, rfl, rfl, .inl ⟨rfl, rfl⟩⟩
  | some artifact =>
      have inside := Engine.findRevision_mem found
      have subject : artifact.id = request.artifact ∧ artifact.revision = request.expectedRevision :=
        ⟨named artifact inside.1, inside.2⟩
      cases governed : state.policy.findRule artifact.kind artifact.stage request.requestedStage with
      | none =>
          simp only [governed]
          split <;> exact ⟨rfl, rfl, rfl, .inr subject⟩
      | some rule =>
          simp only [governed]
          have kept := evaluateRequirements_subject
            ⟨config, state, request, now, artifact, decision.policyGeneration⟩ rule.requirements {}
            { decision.bindArtifact artifact request.requestedStage with
              evidenceSnapshotDigest := computeSnapshotDigest artifact.id artifact.revision
                artifact.digest (snapshotEntries state artifact.id artifact.revision) }
          obtain ⟨sameRequest, sameAttempt, sameSequence, sameArtifact, sameRevision⟩ := kept
          exact ⟨sameRequest, sameAttempt, sameSequence,
            .inr ⟨sameArtifact.trans subject.1, sameRevision.trans subject.2⟩⟩

theorem decideTransition_follows (config : EngineConfig) (state : CoordinatorState)
    {request : PromotionRequest} (artifact : ArtifactRecord) (now : UInt64)
    (decision : PromotionDecision)
    (named : ∀ record ∈ state.chain request.artifact, record.id = request.artifact) :
    (decideTransition config state request artifact now decision).decision.Follows decision
      request.artifact request.expectedRevision := by
  have follows := evaluateGates_follows config state request now decision named
  unfold decideTransition
  split
  · split <;> exact ⟨rfl, rfl, rfl, .inl ⟨rfl, rfl⟩⟩
  split
  · exact ⟨rfl, rfl, rfl, .inl ⟨rfl, rfl⟩⟩
  split
  · exact ⟨rfl, rfl, rfl, .inl ⟨rfl, rfl⟩⟩
  dsimp only
  split
  · exact ⟨follows.request, follows.attempt, follows.sequence, follows.subject⟩
  · unfold issuePlan
    generalize (if state.plans.size ≥ config.maxPlansRetained.toNat then eraseFirst state.plans
      else state.plans) = kept
    dsimp only
    split <;> exact ⟨follows.request, follows.attempt, follows.sequence, follows.subject⟩

open Engine in
/-- Where a decision that is stored after an operation comes from. -/
inductive Stems (engine : Engine) : Op → PromotionDecisionId → PromotionDecision → Prop
  | held {op id decision} (old : PromotionDecision)
      (found : engine.control.decisions[id]? = some old)
      (same : decision.request = old.request ∧ decision.attempt = old.attempt ∧
        decision.sequence = old.sequence ∧ decision.artifact = old.artifact ∧
        decision.artifactRevision = old.artifactRevision) : Stems engine op id decision
  | rebound {plan now decision} (old : PromotionDecision)
      (stored : engine.control.plans[plan.id]? = some plan)
      (found : engine.control.decisions[plan.decision]? = some old)
      (follows : decision.Follows old plan.artifact plan.artifactRevision) :
      Stems engine (.commit plan now) plan.decision decision
  | requested {request now decision} (asked : decision.request = request.request)
      (attempted : decision.attempt = request.attempt)
      (sequenced : decision.sequence = engine.state.decisionSequence.next)
      (named : decision.artifact = request.artifact)
      (revised : decision.artifactRevision = request.expectedRevision) :
      Stems engine (.evaluate request now) engine.control.decisionGenerator.next decision
  | released {id authority now later decision}
      (sequenced : decision.sequence = engine.state.decisionSequence.next) :
      Stems engine (.releaseQuarantine id authority now later)
        engine.control.decisionGenerator.next decision

namespace Engine

variable {engine next : Engine}

theorem evaluateFresh_subject (coherent : Coherent engine.control) (request : PromotionRequest)
    (now : UInt64) :
    ∃ result, (engine.evaluateFresh request now).1 = .ok result ∧
      result.decision.Follows (openingDecision engine.state request) request.artifact
        request.expectedRevision := by
  unfold evaluateFresh
  dsimp only
  cases found : engine.state.findRevision request.artifact request.expectedRevision with
  | none => exact ⟨_, rfl, rfl, rfl, rfl, .inl ⟨rfl, rfl⟩⟩
  | some artifact =>
      dsimp only
      split
      · exact ⟨_, rfl, rfl, rfl, rfl, .inl ⟨rfl, rfl⟩⟩
      · refine ⟨_, rfl, ?_⟩
        have follows := decideTransition_follows engine.config engine.state.openDecision artifact
          now (engine.fullDecision request artifact now) (coherent.chain_named request.artifact)
        exact ⟨follows.request, follows.attempt, follows.sequence, follows.subject⟩

theorem evaluate_stems (sound : engine.Sound) {request : PromotionRequest} {now : UInt64}
    {result : EvaluationResult} {decision : PromotionDecision}
    (answered : (engine.evaluate request now).1 = .ok result)
    (opens : engine.Opens request decision result) :
    Stems engine (.evaluate request now) engine.control.decisionGenerator.next decision := by
  have unbound := unbound_of_unseen sound opens.unseen
  rw [evaluate_unbound opens.admitted opens.wellFormed unbound] at answered
  obtain ⟨given, reply, follows⟩ := evaluateFresh_subject sound.coherent request now
  have same : given = result := Except.ok.inj (reply.symm.trans answered)
  rw [same, opens.answered] at follows
  have bound := follows.bound rfl rfl
  exact .requested follows.request follows.attempt follows.sequence bound.1 bound.2

def Rewritten (engine : Engine) (plan : PromotionPlan) (next : Engine) : Prop :=
  ∃ decision, next.state.decisions = engine.state.decisions.insert plan.decision decision ∧
    decision.Follows (engine.state.decisions.getD plan.decision {}) plan.artifact
      plan.artifactRevision

theorem closeCommit_rewrites (plan : PromotionPlan) (outcome : PromotionOutcome)
    {decision : PromotionDecision} (released : Bool)
    (follows : decision.Follows (engine.state.decisions.getD plan.decision {}) plan.artifact
      plan.artifactRevision) :
    engine.Rewritten plan ((engine.touch plan).closeCommit plan outcome decision released).2 := by
  refine ⟨decision, ?_, follows⟩
  have merged : (engine.state.touchDecision plan.decision).decisions.insert plan.decision decision =
      engine.state.decisions.insert plan.decision decision := OrderedMaps.insert_insert _ _ _ _
  rw [← merged]
  unfold closeCommit
  cases released <;> rfl

theorem revalidate_rewrites (coherent : Coherent engine.control) (plan : PromotionPlan)
    (artifact : ArtifactRecord) (now : UInt64) :
    engine.Rewritten plan ((engine.touch plan).revalidate plan artifact
      (engine.state.decisions.getD plan.decision {}) now).2 := by
  have follows := evaluateGates_follows (engine.touch plan).config (engine.touch plan).state
    (requestOfPlan plan) now (engine.state.decisions.getD plan.decision {}) (coherent.chain_named plan.artifact)
  unfold revalidate
  dsimp only
  split
  · exact closeCommit_rewrites plan _ _
      ⟨follows.request, follows.attempt, follows.sequence, follows.subject⟩
  split
  · exact closeCommit_rewrites plan _ _
      ⟨follows.request, follows.attempt, follows.sequence, follows.subject⟩
  split
  · exact closeCommit_rewrites plan _ _
      ⟨follows.request, follows.attempt, follows.sequence, follows.subject⟩
  · have applied := congrArg Control.decisions (applyCommit_control engine plan artifact
      (evaluateGates (engine.touch plan).config (engine.touch plan).state (requestOfPlan plan) now
        (engine.state.decisions.getD plan.decision {})).decision now)
    exact ⟨_, applied, follows.request, follows.attempt, follows.sequence, follows.subject⟩

theorem commit_rewrites (coherent : Coherent engine.control) (plan : PromotionPlan)
    (now : UInt64) :
    (engine.commit plan now).2.state.decisions = engine.state.decisions ∨
      (engine.state.plans[plan.id]? = some plan ∧
        engine.Rewritten plan (engine.commit plan now).2) := by
  unfold commit
  split
  · exact .inl rfl
  split
  · exact .inl rfl
  cases found : engine.state.plans[plan.id]? with
  | none => exact .inl rfl
  | some stored =>
      dsimp only
      split
      · exact .inl rfl
      rename_i same
      have stored_eq : stored = plan := not_not.mp same
      subst stored_eq
      refine .inr ⟨rfl, ?_⟩
      split
      · exact ⟨_, rfl, rfl, rfl, rfl, .inl ⟨rfl, rfl⟩⟩
      unfold commitStored
      dsimp only
      split
      · exact ⟨_, rfl, rfl, rfl, rfl, .inl ⟨rfl, rfl⟩⟩
      split
      · exact closeCommit_rewrites stored _ _ ⟨rfl, rfl, rfl, .inl ⟨rfl, rfl⟩⟩
      split
      · exact closeCommit_rewrites stored _ _ ⟨rfl, rfl, rfl, .inl ⟨rfl, rfl⟩⟩
      · exact revalidate_rewrites coherent stored _ now

theorem release_decisions (coherent : Coherent engine.control) (id : ArtifactId)
    (authority : CoordinatorAuthority) (now later : UInt64) :
    (engine.releaseQuarantine id authority now later).2.state.decisions = engine.state.decisions ∨
      ∃ decision, (engine.releaseQuarantine id authority now later).2.state.decisions =
          engine.state.decisions.insert engine.control.decisionGenerator.next decision ∧
        decision.sequence = engine.state.decisionSequence.next := by
  unfold releaseQuarantine
  split
  · exact .inl rfl
  split
  · exact .inl rfl
  rename_i artifact found
  split
  · exact .inl rfl
  split
  · exact .inl rfl
  dsimp only
  generalize evaluation_eq : evaluateGates engine.config _ _ now _ = evaluation
  have follows := evaluateGates_follows engine.config
    { engine.state.openDecision with
      internalRequestGenerator := engine.state.internalRequestGenerator.advance
      internalAttemptGenerator := engine.state.internalAttemptGenerator.advance }
    (releaseRequest engine.state id artifact) now
    (releaseDecision engine.state id artifact (releaseRequest engine.state id artifact))
    (coherent.chain_named id)
  have named := evaluateGates_decision_id engine.config
    { engine.state.openDecision with
      internalRequestGenerator := engine.state.internalRequestGenerator.advance
      internalAttemptGenerator := engine.state.internalAttemptGenerator.advance }
    (releaseRequest engine.state id artifact) now
    (releaseDecision engine.state id artifact (releaseRequest engine.state id artifact))
  rw [evaluation_eq] at follows named
  right
  rw [show engine.control.decisionGenerator.next = evaluation.decision.id from named.symm]
  split
  · exact ⟨_, rfl, follows.sequence⟩
  · exact ⟨_, rfl, follows.sequence⟩

/-- Every decision stored after a step was stored before, was rewritten by a commit of its plan, or
was just opened. -/
theorem step_stems (sound : engine.Sound) {op : Op} {reply : Reply}
    (moved : engine.step op = some (reply, next)) {id : PromotionDecisionId}
    {decision : PromotionDecision} (present : next.control.decisions[id]? = some decision) :
    Stems engine op id decision := by
  have performed := (step_eq_some moved).1
  have kept (same : next.control.decisions = engine.control.decisions) :
      Stems engine op id decision := by
    rw [same] at present
    exact .held decision present ⟨rfl, rfl, rfl, rfl, rfl⟩
  have inserted {key : PromotionDecisionId} {stored : PromotionDecision}
      (changed : next.control.decisions = engine.control.decisions.insert key stored)
      (stems : Stems engine op key stored) : Stems engine op id decision := by
    rw [changed] at present
    rcases OrderedMaps.insert_cases present with ⟨rfl, rfl⟩ | ⟨_, old⟩
    · exact stems
    · exact .held decision old ⟨rfl, rfl, rfl, rfl, rfl⟩
  have evaluated {request : PromotionRequest} {now : UInt64} {result : EvaluationResult}
      {opened : PromotionDecision}
      (same : engine.step (.evaluate request now) = some (.evaluated (.ok result), next))
      (named : opened.id = engine.control.decisionGenerator.next)
      (opens : engine.Opens request opened result) :
      Stems engine (.evaluate request now) opened.id opened := by
    have answered := (step_eq_some same).1
    simp only [perform, answerWith, Option.some.injEq, Prod.mk.injEq, Reply.evaluated.injEq]
      at answered
    rw [named]
    exact evaluate_stems sound answered.1 opens
  cases step_effect moved with
  | idle _ unchanged => exact kept (congrArg Control.decisions unchanged)
  | undecided named opens _ changed =>
      have stored := congrArg Control.decisions changed
      exact inserted stored (evaluated moved named opens)
  | decided _ named opens _ _ _ changed =>
      have stored := congrArg Control.decisions changed
      exact inserted stored (evaluated moved named opens)
  | issued _ _ _ named opens _ changed =>
      have stored := congrArg Control.decisions changed
      exact inserted stored (evaluated moved named opens)
  | @closed plan now _ _ _ _ _ stored _ _ _ | @committed plan now _ _ _ _ _ _ _ _ _ _ =>
      simp only [perform, answerWith, Option.some.injEq, Prod.mk.injEq] at performed
      have rewrites := commit_rewrites sound.coherent plan now
      rw [performed.2] at rewrites
      rcases rewrites with same | ⟨stored, rewritten, changed, follows⟩
      · exact kept same
      · obtain ⟨held, _⟩ := plan_decision_named sound.coherent stored
        obtain ⟨old, found⟩ := held_decision held
        have read : engine.state.decisions.getD plan.decision {} = old := by
          rw [Std.ExtTreeMap.getD_eq_getD_getElem?,
            show engine.state.decisions[plan.decision]? = some old from found, Option.getD_some]
        rw [read] at follows
        exact inserted changed (.rebound old stored found follows)
  | @releaseRefused id authority now later _ _ _ _ _ _
  | @released id authority now later _ _ _ _ _ _ _ _ _ _ _ _ _ =>
      simp only [perform, answerWith, Option.some.injEq, Prod.mk.injEq] at performed
      have opened := release_decisions sound.coherent id authority now later
      rw [performed.2] at opened
      rcases opened with same | ⟨fresh, changed, sequenced⟩
      · exact kept same
      · exact inserted changed (.released sequenced)
  | reloaded decoded changed =>
      rw [(image_reloaded sound decoded changed).decisions, Std.ExtTreeMap.getElem?_map,
        Option.map_eq_some_iff] at present
      obtain ⟨old, found, rfl⟩ := present
      exact .held old found ⟨rfl, rfl, rfl, rfl, rfl⟩
  | published _ _ changed | restarted _ changed | recovered changed
  | compatibilityMoved _ changed | registrationRefused _ _ changed
  | registered _ _ _ _ _ _ _ changed | submitted _ _ _ _ changed
  | quarantined _ _ _ _ changed | revoked _ _ _ _ _ _ changed
  | superseded _ _ _ _ _ _ changed | retired _ _ _ changed | evidenceRevoked _ _ changed =>
      have same := congrArg Control.decisions changed
      exact kept same

end Engine

open Engine in
/-- Where a promotion record that is stored after an operation comes from. -/
inductive Logged (engine : Engine) : Op → TransitionId → PromotionRecord → Prop
  | held {op id record} (old : PromotionRecord) (found : engine.control.records[id]? = some old)
      (same : record = old ∨ record = old.restored) : Logged engine op id record
  | committed {plan now} (artifact : ArtifactRecord) (accepts : engine.Accepts plan now artifact) :
      Logged engine (.commit plan now) engine.control.transitionGenerator.next
        (commitRecord engine.state.advanceSequence plan artifact.stage now)
  | released {id authority now later} (artifact : ArtifactRecord) (request : PromotionRequest)
      (decision : PromotionDecision) (found : engine.state.findCurrent id = some artifact)
      (authorized : request.authority = engine.state.authority) :
      Logged engine (.releaseQuarantine id authority now later)
        engine.control.transitionGenerator.next
        (releaseRecord engine.state.advanceSequence artifact request decision later)
  | revoked {id decision reasonClass detail authority cause now} (artifact : ArtifactRecord)
      (target : PromotionDecisionId) (found : engine.state.findCurrent id = some artifact)
      (held : engine.state.decisions.contains target = true) :
      Logged engine (.revoke id decision reasonClass detail authority cause now)
        engine.control.transitionGenerator.next (trustRecord engine.state.advanceSequence
          (revokedArtifact engine.state.advanceSequence artifact target reasonClass detail cause)
          artifact.stage .revoked target now (text "revocation: " ++ reasonClass))
  | superseded {id successor reason authority now} (artifact successorRecord : ArtifactRecord)
      (found : engine.state.findCurrent id = some artifact) :
      Logged engine (.supersede id successor reason authority now)
        engine.control.transitionGenerator.next (trustRecord engine.state.advanceSequence
          (supersededArtifact engine.state.advanceSequence artifact successorRecord successor reason)
          artifact.stage .superseded artifact.promotionDecision now
          (text "superseded by " ++ successor.toText))
  | retired {id authority now} (artifact : ArtifactRecord)
      (found : engine.state.findCurrent id = some artifact) :
      Logged engine (.retire id authority now) engine.control.transitionGenerator.next
        (trustRecord engine.state.advanceSequence
          (retiredArtifact engine.state.advanceSequence artifact) artifact.stage .retired
          artifact.promotionDecision now (text "retired"))

namespace Engine

variable {engine next : Engine}

theorem step_logged (sound : engine.Sound) {op : Op} {reply : Reply}
    (moved : engine.step op = some (reply, next)) {id : TransitionId} {record : PromotionRecord}
    (present : next.control.records[id]? = some record) : Logged engine op id record := by
  have kept (same : next.control.records = engine.control.records) :
      Logged engine op id record := by
    rw [same] at present
    exact .held record present (.inl rfl)
  have added {made : PromotionRecord}
      (changed : next.control.records = putBounded engine.config.maxRecordsRetained
        engine.control.records made.transition made)
      (logged : Logged engine op made.transition made) : Logged engine op id record := by
    rw [changed] at present
    rcases putBounded_entry present with ⟨rfl, rfl⟩ | ⟨_, old⟩
    · exact logged
    · exact .held record old (.inl rfl)
  cases step_effect moved with
  | closed released _ _ _ _ changed =>
      refine kept ?_
      rw [changed]
      cases released <;> rfl
  | committed accepts _ record_eq _ _ changed =>
      have records := congrArg Control.records changed
      refine added records ?_
      rw [record_eq]
      exact .committed _ accepts
  | released request found _ _ _ _ authorized record_eq changed =>
      have records := congrArg Control.records changed
      refine added records ?_
      rw [record_eq]
      exact .released _ request _ found authorized
  | revoked _ found _ _ held record_eq changed =>
      have records := congrArg Control.records changed
      refine added records ?_
      rw [record_eq]
      exact .revoked _ _ found held
  | superseded found _ _ _ _ record_eq changed =>
      have records := congrArg Control.records changed
      refine added records ?_
      rw [record_eq]
      exact .superseded _ _ found
  | retired found _ record_eq changed =>
      have records := congrArg Control.records changed
      refine added records ?_
      rw [record_eq]
      exact .retired _ found
  | reloaded decoded changed =>
      have records := (image_reloaded sound decoded changed).records
      rw [records, Std.ExtTreeMap.getElem?_map] at present
      obtain ⟨old, found, rfl⟩ := Option.map_eq_some_iff.mp present
      exact .held old found (.inr rfl)
  | idle _ changed | published _ _ changed | restarted _ changed | recovered changed
  | compatibilityMoved _ changed | registrationRefused _ _ changed
  | registered _ _ _ _ _ _ _ changed | submitted _ _ _ _ changed | undecided _ _ _ changed
  | decided _ _ _ _ _ _ changed | issued _ _ _ _ _ _ changed | quarantined _ _ _ _ changed
  | releaseRefused _ _ changed | evidenceRevoked _ _ changed =>
      have same := congrArg Control.records changed
      exact kept same

def DecidesPlan (decision : PromotionDecision) (plan : PromotionPlan) : Prop :=
  decision.request = plan.request ∧ decision.attempt = plan.attempt ∧
    decision.artifact = plan.artifact ∧ decision.artifactRevision = plan.artifactRevision

structure Linked (engine : Engine) : Prop where
  plans : ∀ (id : PromotionPlanId) (plan : PromotionPlan), engine.state.plans[id]? = some plan →
    ∃ decision, engine.state.decisions[plan.decision]? = some decision ∧ DecidesPlan decision plan
  bindings : ∀ (id : PromotionRequestId) (record : IdempotencyRecord),
    engine.state.idempotency[id]? = some record →
      ∃ decision, engine.state.decisions[record.decision]? = some decision ∧
        decision.request = record.request
  records : ∀ (id : TransitionId) (record : PromotionRecord),
    engine.state.records[id]? = some record →
      record.plan.valid = true ∨ record.target = .promoted →
        engine.state.decisions.contains record.decision = true

theorem step_subject (sound : engine.Sound) (linked : engine.Linked) {op : Op} {reply : Reply}
    (moved : engine.step op = some (reply, next)) {id : PromotionDecisionId}
    {old : PromotionDecision} (held : engine.state.decisions[id]? = some old) :
    ∃ decision, next.state.decisions[id]? = some decision ∧ decision.request = old.request ∧
      decision.attempt = old.attempt ∧ decision.sequence = old.sequence ∧
      decision.artifact = old.artifact ∧ decision.artifactRevision = old.artifactRevision := by
  obtain ⟨decision, present, _⟩ := step_decision sound moved held
  refine ⟨decision, present, ?_⟩
  have fresh (same : id = engine.control.decisionGenerator.next) : False := by
    have absent := sound.coherent.decision_fresh sound.roomy
    rw [← same, show engine.control.decisions[id]? = some old from held] at absent
    cases absent
  generalize id_eq : id = key at present
  cases step_stems sound moved present with
  | held before found same =>
      subst id_eq
      cases Option.some.inj (found.symm.trans held)
      exact same
  | @rebound plan _ _ before stored found follows =>
      subst id_eq
      cases Option.some.inj (found.symm.trans held)
      obtain ⟨decision', present', about⟩ := linked.plans _ _ stored
      cases Option.some.inj (present'.symm.trans held)
      obtain ⟨_, _, artifact, revision⟩ := about
      have bound := follows.bound artifact revision
      exact ⟨follows.request, follows.attempt, follows.sequence, bound.1.trans artifact.symm,
        bound.2.trans revision.symm⟩
  | requested _ _ _ _ _ => exact (fresh id_eq).elim
  | released _ => exact (fresh id_eq).elim

theorem step_plan_stored (sound : engine.Sound) {op : Op} {reply : Reply}
    (moved : engine.step op = some (reply, next)) {id : PromotionPlanId} {plan : PromotionPlan}
    (present : next.control.plans[id]? = some plan) :
    (∃ old, engine.control.plans[id]? = some old ∧ (plan = old ∨ plan = old.restored)) ∨
      ∃ request now artifact, op = .evaluate request now ∧ engine.Issues request now artifact ∧
        plan = engine.planOf request artifact now ∧
        next.control.decisions.contains engine.control.decisionGenerator.next = true := by
  cases step_effect moved with
  | decided _ _ _ _ evicted _ changed =>
      rw [changed] at present
      exact .inl ⟨plan, Coherent.evicts_entry evicted.evicts present, .inl rfl⟩
  | issued issues _ _ named _ evicted changed =>
      have decisions := congrArg Control.decisions changed
      rw [changed] at present
      rcases OrderedMaps.insert_cases present with ⟨_, rfl⟩ | ⟨_, old⟩
      · refine .inr ⟨_, _, _, rfl, issues, rfl, ?_⟩
        rw [decisions, ← named]
        exact Std.ExtTreeMap.contains_insert_self
      · exact .inl ⟨plan, Coherent.evicts_entry evicted.evicts old, .inl rfl⟩
  | closed released _ _ _ _ changed =>
      rw [changed] at present
      cases released <;> exact .inl ⟨plan, present, .inl rfl⟩
  | reloaded decoded changed =>
      have plans := (image_reloaded sound decoded changed).plans
      rw [plans, Std.ExtTreeMap.getElem?_map] at present
      obtain ⟨old, found, rfl⟩ := Option.map_eq_some_iff.mp present
      exact .inl ⟨old, found, .inr rfl⟩
  | idle _ changed | published _ _ changed | restarted _ changed | recovered changed
  | compatibilityMoved _ changed | registrationRefused _ _ changed
  | registered _ _ _ _ _ _ _ changed | submitted _ _ _ _ changed | undecided _ _ _ changed
  | committed _ _ _ _ _ changed | quarantined _ _ _ _ changed | releaseRefused _ _ changed
  | released _ _ _ _ _ _ _ _ changed | revoked _ _ _ _ _ _ changed
  | superseded _ _ _ _ _ _ changed | retired _ _ _ changed | evidenceRevoked _ _ changed =>
      rw [changed] at present
      exact .inl ⟨plan, present, .inl rfl⟩

theorem requested_answers (sound : engine.Sound) {request : PromotionRequest} {now : UInt64}
    {decision : PromotionDecision}
    (stems : Stems engine (.evaluate request now) engine.control.decisionGenerator.next decision) :
    decision.request = request.request ∧ decision.attempt = request.attempt ∧
      decision.artifact = request.artifact ∧
      decision.artifactRevision = request.expectedRevision := by
  generalize key_eq : engine.control.decisionGenerator.next = key at stems
  cases stems with
  | held old found _ =>
      have absent := sound.coherent.decision_fresh sound.roomy
      rw [key_eq, found] at absent
      cases absent
  | requested asked attempted _ about revised => exact ⟨asked, attempted, about, revised⟩

theorem issued_decides (sound : engine.Sound) {request : PromotionRequest} {now : UInt64}
    {reply : Reply} {artifact : ArtifactRecord}
    (moved : engine.step (.evaluate request now) = some (reply, next))
    (issues : engine.Issues request now artifact)
    (held : next.control.decisions.contains engine.control.decisionGenerator.next = true) :
    ∃ decision, next.state.decisions[(engine.planOf request artifact now).decision]? =
      some decision ∧ DecidesPlan decision (engine.planOf request artifact now) := by
  obtain ⟨decision, present⟩ := held_decision held
  rw [planOf_decision]
  refine ⟨decision, present, ?_⟩
  have inside := findRevision_mem issues.found
  have named := sound.coherent.chain_named _ _ inside.1
  obtain ⟨asked, attempted, about, revised⟩ :=
    requested_answers sound (step_stems sound moved present)
  exact ⟨asked, attempted, about.trans named.symm, revised.trans inside.2.symm⟩

theorem step_linked (sound : engine.Sound) (linked : engine.Linked) {op : Op} {reply : Reply}
    (moved : engine.step op = some (reply, next)) : next.Linked := by
  constructor
  case plans =>
    intro id plan present
    rcases step_plan_stored sound moved present with ⟨old, found, same⟩ | issued
    · obtain ⟨decision, held, request, attempt, artifact, revision⟩ := linked.plans id old found
      obtain ⟨later, kept, sameRequest, sameAttempt, _, sameArtifact, sameRevision⟩ :=
        step_subject sound linked moved held
      have about : DecidesPlan later old := ⟨sameRequest.trans request, sameAttempt.trans attempt,
        sameArtifact.trans artifact, sameRevision.trans revision⟩
      rcases same with rfl | rfl
      · exact ⟨later, kept, about⟩
      · exact ⟨later, kept, about⟩
    · obtain ⟨request, now, artifact, rfl, issues, rfl, held⟩ := issued
      exact issued_decides sound moved issues held
  case bindings =>
    intro id record present
    cases before : engine.control.idempotency[id]? with
    | none =>
        obtain ⟨asked, now, decision, result, rfl, rfl, _, opens, named, held, rfl⟩ :=
          step_binds sound moved before present
        refine ⟨decision, held, ?_⟩
        have about := step_stems sound moved held
        rw [named] at about
        exact (requested_answers sound about).1
    | some old =>
        obtain ⟨changed, found, rebound⟩ := step_binding sound moved before
        cases Option.some.inj (found.symm.trans present)
        cases rebound with
        | kept =>
            obtain ⟨decision, held, request⟩ := linked.bindings id _ before
            obtain ⟨later, kept, sameRequest, _⟩ := step_subject sound linked moved held
            exact ⟨later, kept, sameRequest.trans request⟩
        | applied named accepts =>
            obtain ⟨decision, held, request, _⟩ := linked.plans _ _ accepts.stored
            obtain ⟨later, kept, sameRequest, _⟩ := step_subject sound linked moved held
            have bound := (sound.coherent.idempotency _ _ before).1
            exact ⟨later, kept, (sameRequest.trans request).trans (named.trans bound.symm)⟩
  case records =>
    intro id record present cites
    cases step_logged sound moved present with
    | held old found same =>
        refine step_decisions_held sound moved ?_
        rcases same with rfl | rfl
        · exact linked.records id _ found cites
        · exact linked.records id old found cites
    | committed _ accepts =>
        exact step_decisions_held sound moved (plan_decision_named sound.coherent accepts.stored).1
    | released _ _ _ _ _ => simp [releaseRecord, Identity.valid] at cites
    | revoked _ _ _ held => exact step_decisions_held sound moved held
    | superseded _ _ _ => simp [trustRecord, Identity.valid] at cites
    | retired _ _ => simp [trustRecord, Identity.valid] at cites

theorem create_linked (config : EngineConfig) (epoch : CoordinatorEpoch) (salting naming : UInt64) :
    (create config epoch salting naming).Linked := by
  constructor
  all_goals
    intro id value present
    exact (no_entry rfl present).elim

theorem reachable_linked (reachable : Reachable engine) : engine.Linked := by
  obtain ⟨start, trace, ⟨config, epoch, salting, naming, rfl⟩, run⟩ := reachable
  have kept := run.invariant (fun engine => engine.Sound ∧ engine.Linked)
    (fun _ _ _ _ held moved => ⟨sound_step held.1 moved, step_linked held.1 held.2 moved⟩)
    ⟨create_sound config epoch salting naming, create_linked config epoch salting naming⟩
  exact kept.2

/-- In every reachable state no plan, binding or record refers to a decision that is not there, so
reading the decision of a stored plan through `operator[]` changes nothing. -/
theorem decision_references_held (reachable : Reachable engine) :
    engine.Linked ∧ ∀ (id : PromotionPlanId) (plan : PromotionPlan),
      engine.state.plans[id]? = some plan →
        engine.state.touchDecision plan.decision = engine.state := by
  have linked := reachable_linked reachable
  refine ⟨linked, ?_⟩
  intro id plan stored
  obtain ⟨decision, held, _⟩ := linked.plans id plan stored
  unfold CoordinatorState.touchDecision
  rw [Std.ExtTreeMap.getD_eq_getD_getElem?, held, Option.getD_some, OrderedMaps.insert_same held]

def refersToDecisions (engine : Engine) : Bool :=
  !engine.state.plans.toList.isEmpty && !engine.state.idempotency.toList.isEmpty &&
    engine.state.records.toList.any fun entry => entry.2.target == .promoted

theorem decision_references_held_promoted :
    ∃ engine, Reachable engine ∧ engine.refersToDecisions = true ∧ engine.Linked := by
  have evaluated : ((play step sampleEngine promoteChoices).any fun played =>
      refersToDecisions played.2) = true := by
    rw [promote_played]
    decide +kernel
  obtain ⟨engine, reachable, checked⟩ :=
    Reachable.of_play refersToDecisions sampleEngine_constructed evaluated
  exact ⟨engine, reachable, checked, (decision_references_held reachable).1⟩

end Engine

end ArtifactPromotion
