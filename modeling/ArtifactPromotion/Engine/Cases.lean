import ArtifactPromotion.Engine.Effects
import ArtifactPromotion.Library.OrderedMaps

/-! Every operation has one of the effects: one lemma for each operation, by the branches of its
body. -/

namespace ArtifactPromotion

open Runs

namespace Engine

variable {engine : Engine}

theorem publishPolicy_effect {policy : PromotionPolicy} {outcome : Result PolicyGeneration × Engine}
    (moved : engine.publishPolicy policy = some outcome) :
    Effect engine (.publishPolicy policy) (.published outcome.1) outcome.2 := by
  unfold publishPolicy at moved
  cases validated : policy.validate with
  | none => simp [validated] at moved
  | some validation =>
      simp only [validated, Option.map_some, Option.some.injEq] at moved
      subst moved
      cases validation with
      | error status => exact .idle rfl rfl
      | ok done =>
          dsimp only
          split
          · exact .idle rfl rfl
          · rename_i advances
            refine .published validated ?_ rfl
            intro same
            simpa [same] using advances

theorem releaseOne_control (note : PendingTransition → Text) (state : CoordinatorState)
    (id : ArtifactId) :
    (releaseOne note state id).control = state.control.releasePending id := by
  unfold releaseOne
  cases held : state.pending[id]? with
  | none =>
      have absent := OrderedMaps.erase_absent held
      simp [Control.releasePending, CoordinatorState.control, absent]
  | some pending => rfl

theorem foldl_releaseOne_control (note : PendingTransition → Text) (keys : List ArtifactId)
    (state : CoordinatorState) :
    (keys.foldl (releaseOne note) state).control =
      { state.control with pending := keys.foldl Std.ExtTreeMap.erase state.pending } := by
  induction keys generalizing state with
  | nil => rfl
  | cons id rest ih =>
      have first := releaseOne_control note state id
      have pending : (releaseOne note state id).pending = state.pending.erase id :=
        congrArg Control.pending first
      rw [List.foldl_cons, ih, first, pending]
      rfl

theorem releaseAll_control (note : PendingTransition → Text) (state : CoordinatorState) :
    (releaseAll note state).control = { state.control with pending := ∅ } := by
  unfold releaseAll
  rw [foldl_releaseOne_control, OrderedMaps.foldl_erase_keys]

theorem restart_effect (epoch : CoordinatorEpoch) :
    Effect engine (.restart epoch) (.restarted (engine.restart epoch).1)
      (engine.restart epoch).2 := by
  unfold restart
  split
  · exact .idle rfl rfl
  · rename_i advances
    refine .restarted ?_ (releaseAll_control _ _)
    simp only [Bool.or_eq_true, Bool.not_eq_true', decide_eq_false_iff_not, not_or, not_not]
      at advances
    exact advances.2

theorem recoverInFlight_effect :
    Effect engine .recoverInFlight (.recovered engine.recoverInFlight.1)
      engine.recoverInFlight.2 := by
  refine .recovered ?_
  unfold recoverInFlight
  dsimp only
  split
  · exact releaseAll_control _ _
  · exact releaseAll_control _ _

theorem setCompatibilityGeneration_effect (generation : CompatibilityGeneration) :
    Effect engine (.setCompatibilityGeneration generation)
      (.generation (engine.setCompatibilityGeneration generation).1)
      (engine.setCompatibilityGeneration generation).2 := by
  unfold setCompatibilityGeneration
  split
  · exact .idle rfl rfl
  split
  · exact .idle rfl rfl
  · rename_i advances
    exact .compatibilityMoved (by simpa using advances) rfl

def allocateRevision (state : CoordinatorState) (id : ArtifactId) : CoordinatorState :=
  { state with
    revisionGenerator := state.revisionGenerator.advance
    artifacts := state.artifacts.insert id (state.chain id) }

theorem allocateRevision_chain (state : CoordinatorState) (id : ArtifactId) :
    (allocateRevision state id).chain id = state.chain id := by
  simp [allocateRevision, CoordinatorState.chain]

theorem supersedePrevious_control (state : CoordinatorState) (revision : ArtifactRevision)
    (id : ArtifactId) :
    (supersedePrevious (allocateRevision state id) revision id).control =
      { state.control with
        artifacts := state.artifacts.insert id
          (supersededChain state.advanceSequence revision id (state.chain id))
        revisionGenerator := state.revisionGenerator.advance } := by
  unfold supersedePrevious supersededChain
  unfold CoordinatorState.findCurrent
  rw [allocateRevision_chain]
  cases last : (state.chain id).getLast? with
  | none =>
      have empty : state.chain id = [] := List.getLast?_eq_none_iff.mp last
      simp [CoordinatorState.control, allocateRevision, empty, CoordinatorState.authority]
  | some previous =>
      have chain := allocateRevision_chain state id
      simp only [CoordinatorState.control, CoordinatorState.storeEvent,
        CoordinatorState.replaceCurrent, CoordinatorState.setChain,
        CoordinatorState.advanceSequence, CoordinatorState.chain] at chain ⊢
      rw [chain]
      simp only [allocateRevision, OrderedMaps.insert_insert]
      rfl

theorem supersedePrevious_chain (state : CoordinatorState) (revision : ArtifactRevision)
    (id : ArtifactId) :
    (supersedePrevious (allocateRevision state id) revision id).chain id =
      supersededChain state.advanceSequence revision id (state.chain id) := by
  have artifacts := congrArg Control.artifacts (supersedePrevious_control state revision id)
  change (supersedePrevious (allocateRevision state id) revision id).artifacts = _ at artifacts
  unfold CoordinatorState.chain
  rw [artifacts]
  simp [CoordinatorState.chain]

theorem supersededChain_length (state : CoordinatorState) (revision : ArtifactRevision)
    (id : ArtifactId) (chain : List ArtifactRecord) :
    (supersededChain state revision id chain).length = chain.length := by
  unfold supersededChain
  cases last : chain.getLast? with
  | none => simp [List.getLast?_eq_none_iff.mp last]
  | some previous =>
      have nonempty : chain ≠ [] := by
        intro empty
        simp [empty] at last
      have positive := List.length_pos_of_ne_nil nonempty
      simp only [List.length_append, List.length_dropLast, List.length_singleton]
      omega

theorem addRevision_control (state : CoordinatorState) (registration : ArtifactRegistration)
    (revision : ArtifactRevision) (now : UInt64) :
    (engine.addRevision state registration revision now).2.control =
      let superseded := supersedePrevious state revision registration.id
      superseded.control.setChain registration.id (superseded.chain registration.id ++
        [registrationRecord superseded.advanceSequence registration revision now]) := rfl

theorem registerArtifact_effect (registration : ArtifactRegistration) (now : UInt64) :
    Effect engine (.registerArtifact registration now)
      (.registered (engine.registerArtifact registration now).1)
      (engine.registerArtifact registration now).2 := by
  unfold registerArtifact
  cases validated : registration.validate with
  | error status => exact .idle rfl rfl
  | ok done =>
      dsimp only
      split
      · exact .idle rfl rfl
      split
      · exact .idle rfl rfl
      cases classConflict engine.state registration with
      | some other => exact .idle rfl rfl
      | none =>
          dsimp only
          split
          · rename_i full
            exact .registrationRefused validated (.inl full) rfl
          split
          · rename_i repeated
            refine .registrationRefused validated (.inr ?_) rfl
            cases last : (engine.state.chain registration.id).getLast? with
            | none => simp [last] at repeated
            | some record => exact ⟨record, rfl⟩
          rename_i room _
          have control := supersedePrevious_control engine.state
            engine.state.revisionGenerator.next registration.id
          have chain := supersedePrevious_chain engine.state
            engine.state.revisionGenerator.next registration.id
          refine .registered (supersedePrevious (allocateRevision engine.state registration.id)
            engine.state.revisionGenerator.next registration.id).advanceSequence validated
            (by omega) ?_ ?_ (Counter.next_valid _) rfl ?_
          · exact congrArg Control.policy control
          · change ((supersedePrevious (allocateRevision engine.state registration.id)
              engine.state.revisionGenerator.next registration.id).chain registration.id).length = _
            rw [chain, supersededChain_length]
          · refine (addRevision_control (allocateRevision engine.state registration.id) registration
              engine.state.revisionGenerator.next now).trans ?_
            dsimp only
            rw [chain, control]
            simp only [Control.setChain, OrderedMaps.insert_insert]
            rfl

theorem addEvidence_control (submission : EvidenceSubmission)
    (replaced : Option (EvidenceId × EvidenceRecord)) :
    ∃ record generation sequence, generation.valid = true ∧ sequence.valid = true ∧
      record = submissionRecord submission engine.control.evidenceGenerator.next generation
        sequence ∧
      (engine.addEvidence submission replaced).1 = .ok record ∧
      (engine.addEvidence submission replaced).2.control = { engine.control with
        evidence := (supersededEvidence engine.control.evidence replaced record).insert record.id
          record
        evidenceGenerator := engine.control.evidenceGenerator.advance } := by
  cases replaced with
  | none =>
      exact ⟨submissionRecord submission engine.state.evidenceGenerator.next ⟨1⟩
        engine.state.commitSequence.next, ⟨1⟩, engine.state.commitSequence.next, by decide,
        Counter.next_valid _, rfl, rfl, rfl⟩
  | some previous =>
      exact ⟨submissionRecord submission engine.state.evidenceGenerator.next
        previous.2.generation.next engine.state.commitSequence.next, previous.2.generation.next,
        engine.state.commitSequence.next, Counter.next_valid _, Counter.next_valid _, rfl, rfl, rfl⟩

theorem submitEvidence_effect (submission : EvidenceSubmission) :
    Effect engine (.submitEvidence submission) (.submitted (engine.submitEvidence submission).1)
      (engine.submitEvidence submission).2 := by
  unfold submitEvidence
  cases validated : submission.validate with
  | error status => exact .idle rfl rfl
  | ok done =>
      dsimp only
      split
      · exact .idle rfl rfl
      cases found : engine.state.findRevision submission.subject submission.subjectRevision with
      | none => exact .idle rfl rfl
      | some subject =>
          dsimp only
          split
          · exact .idle rfl rfl
          rename_i digest
          split
          · exact .idle rfl rfl
          split
          · exact .idle rfl rfl
          obtain ⟨record, generation, sequence, generated, sequenced, made, answered, control⟩ :=
            addEvidence_control submission (currentEvidence engine.state submission)
          rw [answered]
          exact .submitted validated found (not_not.mp digest)
            ⟨generation, sequence, generated, sequenced, made⟩ control

theorem settle_control (state : CoordinatorState) (config : EngineConfig)
    (request : PromotionRequest) (artifact : ArtifactRecord) (decision : PromotionDecision) :
    (state.settle config request artifact decision).control = { state.control with
      decisions := state.control.decisions.insert decision.id decision
      idempotency := state.control.idempotency.insert request.request
        (idempotencyRecord request decision) } := rfl

structure Derives (config : EngineConfig) (state : CoordinatorState) (request : PromotionRequest)
    (artifact : ArtifactRecord) (now : UInt64) (decision : PromotionDecision) : Prop where
  moves : artifact.stage ≠ request.requestedStage
  free : GateContext.conflicted state request.artifact request = false
  eligible : (evaluateGates config state request now decision).result.failed = false

structure Planless (config : EngineConfig) (state : CoordinatorState) (request : PromotionRequest)
    (artifact : ArtifactRecord) (now : UInt64) (decision : PromotionDecision)
    (evaluated : Evaluated) : Prop where
  none : evaluated.plan = none
  named : evaluated.decision.id = decision.id
  reported : evaluated.decision.outcome.Reported
  merited : isSuccessOutcome evaluated.decision.outcome = true →
    artifact.stage = request.requestedStage ∧ artifact.currentlyAuthoritative = true
  control : ∃ kept generator, Evicts state.plans kept ∧
    (kept = state.plans ∨ Derives config state request artifact now decision ∧
      config.maxPlansRetained.toNat ≤ state.plans.size) ∧
    (Derives config state request artifact now decision →
      config.maxPlansRetained.toNat ≤ state.plans.size → kept = eraseFirst state.plans) ∧
    (generator = state.planGenerator ∨ generator = state.planGenerator.advance) ∧
    evaluated.state.control = { state.control with plans := kept, planGenerator := generator }

structure Planned (config : EngineConfig) (state : CoordinatorState) (request : PromotionRequest)
    (artifact : ArtifactRecord) (evaluation : GateEvaluation) (now : UInt64)
    (evaluated : Evaluated) : Prop where
  plan : evaluated.plan = some (makePlan config state.advanceSequence request artifact evaluation now)
  named : evaluated.decision.id = evaluation.decision.id
  reported : evaluated.decision.outcome.Reported
  control : ∃ kept, Evicts state.plans kept ∧
    (kept = state.plans ∨ config.maxPlansRetained.toNat ≤ state.plans.size) ∧
    (config.maxPlansRetained.toNat ≤ state.plans.size → kept = eraseFirst state.plans) ∧
    evaluated.state.control = { state.control with
      plans := kept.insert state.planGenerator.next
        (makePlan config state.advanceSequence request artifact evaluation now)
      planGenerator := state.planGenerator.advance
      pending := state.pending.insert artifact.id (makeReservation state
        (makePlan config state.advanceSequence request artifact evaluation now) now) }

theorem issuePlan_cases {config : EngineConfig} {state : CoordinatorState}
    {request : PromotionRequest} {artifact : ArtifactRecord} {now : UInt64}
    {decision : PromotionDecision}
    (derives : Derives config state request artifact now decision) :
    Planless config state request artifact now decision (issuePlan config state request artifact
        (evaluateGates config state request now decision) now) ∨
      Planned config state request artifact (evaluateGates config state request now decision) now
        (issuePlan config state request artifact (evaluateGates config state request now decision)
          now) := by
  have reported := evaluateGates_reported config state request now decision
  have named := evaluateGates_decision_id config state request now decision
  have evicted : ∃ kept, kept = (if state.plans.size ≥ config.maxPlansRetained.toNat then
      eraseFirst state.plans else state.plans) ∧ Evicts state.plans kept ∧
      (kept = state.plans ∨ config.maxPlansRetained.toNat ≤ state.plans.size) ∧
      (config.maxPlansRetained.toNat ≤ state.plans.size → kept = eraseFirst state.plans) := by
    refine ⟨_, rfl, ?_, ?_, fun full => if_pos full⟩
    · split
      · exact .inr rfl
      · exact .inl rfl
    · split
      · exact .inr ‹_›
      · exact .inl rfl
  obtain ⟨kept, kept_eq, evicts, crowded, forced⟩ := evicted
  generalize evaluateGates config state request now decision = evaluation at reported named ⊢
  unfold issuePlan
  rw [← kept_eq]
  dsimp only
  split
  · exact .inr ⟨rfl, rfl, reported, kept, evicts, crowded, forced, rfl⟩
  · refine .inl ⟨rfl, named, ?_, ?_, kept, _, evicts, ?_, fun _ => forced, .inr rfl, rfl⟩
    · simp [PromotionDecision.addReason, PromotionOutcome.Reported]
    · simp [PromotionDecision.addReason, isSuccessOutcome]
    · exact crowded.imp_right (fun full => ⟨derives, full⟩)

theorem Planless.kept {config : EngineConfig} {state : CoordinatorState}
    {request : PromotionRequest} {artifact : ArtifactRecord} {now : UInt64}
    {decision decided : PromotionDecision} (named : decided.id = decision.id)
    (reported : decided.outcome.Reported)
    (merited : isSuccessOutcome decided.outcome = true →
      artifact.stage = request.requestedStage ∧ artifact.currentlyAuthoritative = true)
    (stays : ¬Derives config state request artifact now decision) :
    Planless config state request artifact now decision ⟨state, decided, .none⟩ :=
  ⟨rfl, named, reported, merited, _, _, .inl rfl, .inl rfl,
    fun derives => absurd derives stays, .inl rfl, rfl⟩

theorem decideTransition_cases (config : EngineConfig) (state : CoordinatorState)
    {request : PromotionRequest} {artifact : ArtifactRecord} (now : UInt64)
    (decision : PromotionDecision)
    (found : state.findRevision request.artifact request.expectedRevision = some artifact) :
    Planless config state request artifact now decision
        (decideTransition config state request artifact now decision) ∨
      (Derives config state request artifact now decision ∧
        Planned config state request artifact (evaluateGates config state request now decision) now
          (decideTransition config state request artifact now decision)) := by
  have reported := evaluateGates_reported config state request now decision
  have named := evaluateGates_decision_id config state request now decision
  unfold decideTransition
  split
  · rename_i reached
    left
    split
    · rename_i authoritative
      exact .kept rfl (by simp [PromotionDecision.addReason, PromotionOutcome.Reported])
        (fun _ => ⟨reached, authoritative⟩) (fun derives => derives.moves reached)
    · exact .kept rfl (by simp [PromotionDecision.addReason, PromotionOutcome.Reported])
        (by simp [PromotionDecision.addReason, isSuccessOutcome])
        (fun derives => derives.moves reached)
  rename_i moves
  split
  · rename_i unreachable
    refine .inl (.kept rfl (by simp [PromotionDecision.addReason, PromotionOutcome.Reported])
      (by simp [PromotionDecision.addReason, isSuccessOutcome]) ?_)
    intro derives
    obtain ⟨subject, rule, subjectFound, governed, _⟩ := evaluateGates_eligible derives.eligible
    have subject_eq : subject = artifact := Option.some.inj (subjectFound.symm.trans found)
    subst subject_eq
    simp [stageIsReachable, governed] at unreachable
  split
  · rename_i held
    refine .inl (.kept rfl (by simp [PromotionDecision.addReason, PromotionOutcome.Reported])
      (by simp [PromotionDecision.addReason, isSuccessOutcome]) ?_)
    intro derives
    simp [derives.free] at held
  rename_i free
  dsimp only
  split
  · rename_i failed
    refine .inl (.kept named reported ?_ ?_)
    · intro succeeds
      rw [evaluateGates_unsuccessful failed] at succeeds
      cases succeeds
    · intro derives
      simp [derives.eligible] at failed
  rename_i eligible
  have derives : Derives config state request artifact now decision :=
    ⟨moves, by simpa using free, by simpa using eligible⟩
  exact (issuePlan_cases derives).imp_right (fun planned => ⟨derives, planned⟩)

theorem evaluateFresh_effect (request : PromotionRequest) (now : UInt64)
    (admitted : engine.admissionOpen = true) (wellFormed : requestIsWellFormed request = true)
    (unseen : ∀ record, engine.state.idempotency[request.request]? = some record →
      engine.state.decisions[record.decision]? = none) :
    Effect engine (.evaluate request now) (.evaluated (engine.evaluateFresh request now).1)
      (engine.evaluateFresh request now).2 := by
  unfold evaluateFresh
  dsimp only
  cases found : engine.state.findRevision request.artifact request.expectedRevision with
  | none =>
      refine .undecided rfl ⟨admitted, wellFormed, unseen, rfl, ?_, ?_, ?_⟩ ⟨rfl, ?_⟩ rfl
      · simp [PromotionDecision.addReason]
      · simp [PromotionDecision.addReason]
      · simp [PromotionDecision.addReason, isSuccessOutcome]
      · rintro ⟨artifact, other, _⟩
        simp [found] at other
  | some artifact =>
      dsimp only
      split
      · rename_i digest
        refine .undecided rfl ⟨admitted, wellFormed, unseen, rfl, ?_, ?_, ?_⟩ ⟨rfl, ?_⟩ rfl
        · simp [PromotionDecision.addReason]
        · simp [PromotionDecision.addReason]
        · simp [PromotionDecision.addReason, isSuccessOutcome]
        · rintro ⟨other, otherFound, same⟩
          rw [found] at otherFound
          exact digest (Option.some.inj otherFound ▸ same)
      rename_i digest
      have cases := decideTransition_cases engine.config engine.state.openDecision now
        (engine.fullDecision request artifact now) found
      change Effect engine _ (.evaluated (.ok
          { decision := (decideTransition engine.config engine.state.openDecision request artifact
              now (engine.fullDecision request artifact now)).decision
            plan := (decideTransition engine.config engine.state.openDecision request artifact now
              (engine.fullDecision request artifact now)).plan.getD {}
            hasPlan := (decideTransition engine.config engine.state.openDecision request artifact
              now (engine.fullDecision request artifact now)).plan.isSome }))
        (engine.dirty ((decideTransition engine.config engine.state.openDecision request artifact
          now (engine.fullDecision request artifact now)).state.settle engine.config request artifact
            (decideTransition engine.config engine.state.openDecision request artifact now
              (engine.fullDecision request artifact now)).decision))
      generalize decideTransition engine.config engine.state.openDecision request artifact now
        (engine.fullDecision request artifact now) = evaluated at cases ⊢
      have settled : (engine.dirty (evaluated.state.settle engine.config request artifact
          evaluated.decision)).control = { evaluated.state.control with
        decisions := evaluated.state.control.decisions.insert evaluated.decision.id
          evaluated.decision
        idempotency := evaluated.state.control.idempotency.insert request.request
          (idempotencyRecord request evaluated.decision) } := settle_control _ _ _ _ _
      have digest : artifact.digest = request.expectedDigest := not_not.mp digest
      have issues (derives : Derives engine.config engine.state.openDecision request artifact now
          (engine.fullDecision request artifact now)) : engine.Issues request now artifact :=
        ⟨wellFormed, unseen, found, digest, derives.moves, derives.free, derives.eligible⟩
      have derived (issued : ∃ subject, engine.Issues request now subject) :
          Derives engine.config engine.state.openDecision request artifact now
            (engine.fullDecision request artifact now) := by
        obtain ⟨subject, issued⟩ := issued
        have same : subject = artifact := Option.some.inj (issued.found.symm.trans found)
        subst same
        exact ⟨issued.moves, issued.free, issued.eligible⟩
      rcases cases with planless | ⟨derives, planned⟩
      · obtain ⟨kept, generator, evicts, crowded, forced, allocated, control⟩ := planless.control
        refine .decided ⟨artifact, found, digest⟩ planless.named ⟨admitted, wellFormed, unseen, rfl,
          planless.reported.1, planless.reported.2, ?_⟩ ?_
          ⟨evicts, ?_, fun issued => forced (derived issued)⟩ allocated ?_
        · intro _ succeeds
          have occupied := planless.merited succeeds
          exact ⟨artifact, found, occupied.1, occupied.2⟩
        · simp [planless.none]
        · exact crowded.imp_right (fun full => ⟨⟨artifact, issues full.1⟩, full.2⟩)
        · rw [settled, control]
          rfl
      · obtain ⟨kept, evicts, crowded, forced, control⟩ := planned.control
        refine .issued (issues derives) ?_ ?_
          (planned.named.trans (evaluateGates_decision_id _ _ _ _ _)) ⟨admitted, wellFormed, unseen,
          rfl, planned.reported.1, planned.reported.2, ?_⟩ ⟨evicts, ?_, fun _ => forced⟩ ?_
        · simp [planned.plan]
        · simp only [planned.plan, Option.getD_some]
          rfl
        · simp [planned.plan]
        · exact crowded.imp_right (fun full => ⟨⟨artifact, issues derives⟩, full⟩)
        · rw [settled, control]
          rfl

theorem evaluate_effect (request : PromotionRequest) (now : UInt64) :
    Effect engine (.evaluate request now) (.evaluated (engine.evaluate request now).1)
      (engine.evaluate request now).2 := by
  unfold evaluate
  split
  · exact .idle rfl rfl
  rename_i admitted
  have admitted : engine.admissionOpen = true := by simpa using admitted
  split
  · exact .idle rfl rfl
  rename_i wellFormed
  have wellFormed : requestIsWellFormed request = true := by simpa using wellFormed
  cases seen : engine.state.idempotency[request.request]? with
  | none =>
      refine evaluateFresh_effect request now admitted wellFormed ?_
      intro record present
      simp [seen] at present
  | some record =>
      dsimp only
      split
      · exact .idle rfl rfl
      cases decided : engine.state.decisions[record.decision]? with
      | some decision => exact .idle rfl rfl
      | none =>
          refine evaluateFresh_effect request now admitted wellFormed ?_
          intro other present
          rw [seen] at present
          rw [← Option.some.inj present, decided]

theorem evaluate_unbound {request : PromotionRequest} {now : UInt64}
    (admitted : engine.admissionOpen = true) (wellFormed : requestIsWellFormed request = true)
    (unbound : engine.state.idempotency[request.request]? = none) :
    engine.evaluate request now = engine.evaluateFresh request now := by
  unfold evaluate
  simp [admitted, wellFormed, unbound]

theorem evaluateFresh_opens (engine : Engine) (request : PromotionRequest) (now : UInt64) :
    (engine.evaluateFresh request now).2.control.decisionGenerator =
      engine.control.decisionGenerator.advance := by
  unfold evaluateFresh
  dsimp only
  cases found : engine.state.findRevision request.artifact request.expectedRevision with
  | none => rfl
  | some artifact =>
      dsimp only
      split
      · rfl
      · change (decideTransition engine.config engine.state.openDecision request artifact now
          (engine.fullDecision request artifact now)).state.control.decisionGenerator = _
        rcases decideTransition_cases engine.config engine.state.openDecision now
          (engine.fullDecision request artifact now) found with planless | ⟨_, planned⟩
        · obtain ⟨kept, generator, _, _, _, _, control⟩ := planless.control
          rw [control]
          rfl
        · obtain ⟨kept, _, _, _, control⟩ := planned.control
          rw [control]
          rfl

def touched (context : GateContext) (id : PromotionDecisionId) : GateContext :=
  { context with state := context.state.touchDecision id }

theorem checkDependencies_touched (context : GateContext) (id : PromotionDecisionId)
    (names : List Text) :
    (touched context id).checkDependencies names = context.checkDependencies names := by
  induction names with
  | nil => rfl
  | cons name rest ih =>
      have same : (touched context id).checkDependency name = context.checkDependency name := rfl
      simp only [GateContext.checkDependencies, same, ih]

theorem checkGate_touched (context : GateContext) (id : PromotionDecisionId) (gate : Gate) :
    (touched context id).checkGate gate = context.checkGate gate := by
  unfold GateContext.checkGate
  cases gate.kind with
  | dependentArtifactPromoted => exact checkDependencies_touched context id _
  | _ => rfl

theorem evaluateRequirements_touched (context : GateContext) (id : PromotionDecisionId)
    (gates : List Gate) (result : GateOutcome) (decision : PromotionDecision) :
    evaluateRequirements (touched context id) gates result decision =
      evaluateRequirements context gates result decision := by
  induction gates generalizing result decision with
  | nil => rfl
  | cons gate rest ih =>
      simp only [evaluateRequirements, checkGate_touched, ih]

theorem evaluateGates_touched (config : EngineConfig) (state : CoordinatorState)
    (id : PromotionDecisionId) (request : PromotionRequest) (now : UInt64)
    (decision : PromotionDecision) :
    evaluateGates config (state.touchDecision id) request now decision =
      evaluateGates config state request now decision := by
  have same : (state.touchDecision id).findRevision request.artifact request.expectedRevision =
      state.findRevision request.artifact request.expectedRevision := rfl
  have policy : (state.touchDecision id).policy = state.policy := rfl
  unfold evaluateGates
  rw [same]
  cases state.findRevision request.artifact request.expectedRevision with
  | none => rfl
  | some artifact =>
      rw [policy]
      cases governed : state.policy.findRule artifact.kind artifact.stage request.requestedStage with
      | none => simp only [governed]
      | some rule =>
          simp only [governed]
          exact congrArg (GateEvaluation.conclude · (snapshotEntries state artifact.id
            artifact.revision)) (evaluateRequirements_touched
              ⟨config, state, request, now, artifact, decision.policyGeneration⟩ id _ _ _)

/-- The engine once `commit` has read its decision through `operator[]`. -/
def touch (engine : Engine) (plan : PromotionPlan) : Engine :=
  { engine with state := engine.state.touchDecision plan.decision }

theorem closeCommit_effect {plan : PromotionPlan} {now : UInt64} {outcome : PromotionOutcome}
    {decision : PromotionDecision} {released : Bool} (quiet : outcome ≠ .promotionCommitted)
    (stored : engine.state.plans[plan.id]? = some plan)
    (named : decision.id = (engine.state.decisions.getD plan.decision {}).id)
    (rewrites : engine.Rewrites plan decision ⟨outcome, decision, {}, false⟩) :
    Effect engine (.commit plan now)
      (.committed ((engine.touch plan).closeCommit plan outcome decision released).1)
      ((engine.touch plan).closeCommit plan outcome decision released).2 := by
  have merged : (engine.state.touchDecision plan.decision).decisions.insert plan.decision decision =
      engine.state.decisions.insert plan.decision decision := OrderedMaps.insert_insert _ _ _ _
  refine .closed released quiet stored named rewrites ?_
  unfold closeCommit touch
  dsimp only
  rw [merged]
  cases released <;> rfl

theorem Rewrites.refused {plan : PromotionPlan} {decision : PromotionDecision}
    {result : CommitResult} (admitted : engine.admissionOpen = true)
    (wellFormed : plan.valid = true) (reported : decision.outcome.Reported)
    (unsuccessful : isSuccessOutcome result.outcome = false) :
    engine.Rewrites plan decision result := by
  refine ⟨admitted, wellFormed, .inl reported.1, .inl reported.2, ?_⟩
  intro succeeds
  rw [unsuccessful] at succeeds
  cases succeeds

theorem keepDecision_held (config : EngineConfig) (state : CoordinatorState) (plan : PromotionPlan)
    (decision : PromotionDecision) (held : state.decisions.contains plan.decision = true) :
    keepDecision config state plan decision =
      { state with decisions := state.decisions.insert plan.decision decision } := by
  simp [keepDecision, held]

theorem applyCommit_control (engine : Engine) (plan : PromotionPlan) (artifact : ArtifactRecord)
    (decision : PromotionDecision) (now : UInt64) :
    ((engine.touch plan).applyCommit plan artifact decision now).2.control =
      { ((((engine.control.setChain plan.artifact
          (CoordinatorState.replaceFirst plan.artifactRevision
            (promotedArtifact engine.state.advanceSequence plan artifact)
            (engine.control.chain plan.artifact))).addRecord engine.config.maxRecordsRetained
          (commitRecord engine.state.advanceSequence plan artifact.stage now)).setDecision
            plan.decision { decision with
              outcome := .promotionCommitted, authoritative := plan.target == .promoted,
              decidedUnixMillis := some now }).releasePending plan.artifact) with
        idempotency := committedIdempotency engine.control.idempotency plan } := by
  have held : (recordTransition (engine.touch plan).config (engine.touch plan).state.advanceSequence
      plan artifact (commitRecord (engine.touch plan).state.advanceSequence plan artifact.stage
        now)).decisions.contains plan.decision = true := by
    change ((engine.state.touchDecision plan.decision).decisions).contains plan.decision = true
    simp [CoordinatorState.touchDecision]
  have merged (stored : PromotionDecision) :
      (engine.state.touchDecision plan.decision).decisions.insert plan.decision stored =
        engine.state.decisions.insert plan.decision stored := OrderedMaps.insert_insert _ _ _ _
  unfold applyCommit
  dsimp only
  rw [keepDecision_held _ _ _ _ held]
  change Control.mk _ _ _ _ _ _ _ _ _ _ _
    ((engine.state.touchDecision plan.decision).decisions.insert plan.decision _) _ _ _ _ _ _ = _
  rw [merged]
  rfl

theorem revalidate_effect {plan : PromotionPlan} {now : UInt64} {artifact : ArtifactRecord}
    (admitted : engine.admissionOpen = true) (wellFormed : plan.valid = true)
    (stored : engine.state.plans[plan.id]? = some plan)
    (policyCurrent : policyMoved engine.state plan = false)
    (found : engine.state.findRevision plan.artifact plan.artifactRevision = some artifact)
    (unexpired : expired plan now = false) (reserved : holdsReservation engine.state plan = true) :
    Effect engine (.commit plan now)
      (.committed ((engine.touch plan).revalidate plan artifact
        (engine.state.decisions.getD plan.decision {}) now).1)
      ((engine.touch plan).revalidate plan artifact
        (engine.state.decisions.getD plan.decision {}) now).2 := by
  have same : evaluateGates (engine.touch plan).config (engine.touch plan).state
      (requestOfPlan plan) now (engine.state.decisions.getD plan.decision {}) =
      evaluateGates engine.config engine.state (requestOfPlan plan) now
        (engine.state.decisions.getD plan.decision {}) := evaluateGates_touched _ _ _ _ _ _
  have named := evaluateGates_decision_id engine.config engine.state (requestOfPlan plan) now
    (engine.state.decisions.getD plan.decision {})
  have reported := evaluateGates_reported engine.config engine.state (requestOfPlan plan) now
    (engine.state.decisions.getD plan.decision {})
  unfold revalidate
  rw [same]
  dsimp only
  split
  · exact closeCommit_effect (by decide) stored named (.refused admitted wellFormed
      (by simp [PromotionDecision.addReason, PromotionOutcome.Reported]) rfl)
  rename_i unchanged
  split
  · rename_i failed
    exact closeCommit_effect reported.2 stored named
      (.refused admitted wellFormed reported (evaluateGates_unsuccessful failed))
  rename_i eligible
  have eligible : (evaluateGates engine.config engine.state (requestOfPlan plan) now
      (engine.state.decisions.getD plan.decision {})).result.failed = false := by simpa using eligible
  obtain ⟨subject, rule, subjectFound, governed, _, _, entries, _⟩ :=
    evaluateGates_eligible eligible
  have subject_eq : subject = artifact := Option.some.inj (subjectFound.symm.trans found)
  subst subject_eq
  split
  · rename_i reached
    refine closeCommit_effect (by decide) stored named ⟨admitted, wellFormed, .inl (by simp),
      .inl (by simp), fun _ => ⟨subject.kind, rule, ?_⟩⟩
    rw [reached] at governed
    exact governed
  rename_i moves
  have accepts : engine.Accepts plan now subject := by
    refine ⟨admitted, wellFormed, stored, policyCurrent, found, unexpired, reserved, ?_, eligible,
      moves⟩
    rw [← entries]
    exact not_not.mp unchanged
  have control := applyCommit_control engine plan subject
    (evaluateGates engine.config engine.state (requestOfPlan plan) now
      (engine.state.decisions.getD plan.decision {})).decision now
  refine .committed accepts rfl rfl ?_ ?_ control
  · exact named
  · rfl

theorem commitStored_effect {plan : PromotionPlan} (now : UInt64)
    (admitted : engine.admissionOpen = true) (wellFormed : plan.valid = true)
    (stored : engine.state.plans[plan.id]? = some plan)
    (policyCurrent : policyMoved engine.state plan = false) :
    Effect engine (.commit plan now) (.committed (engine.commitStored plan now).1)
      (engine.commitStored plan now).2 := by
  unfold commitStored
  have same : (engine.state.touchDecision plan.decision).findRevision plan.artifact
      plan.artifactRevision = engine.state.findRevision plan.artifact plan.artifactRevision := rfl
  dsimp only
  rw [same]
  cases found : engine.state.findRevision plan.artifact plan.artifactRevision with
  | none =>
      exact .closed false (by simp) stored rfl
        ⟨admitted, wellFormed, .inr rfl, .inr rfl, by simp [isSuccessOutcome]⟩ rfl
  | some artifact =>
      dsimp only
      split
      · exact closeCommit_effect (by decide) stored rfl (.refused admitted wellFormed
          (by simp [PromotionDecision.addReason, PromotionOutcome.Reported]) rfl)
      rename_i unexpired
      split
      · exact closeCommit_effect (by decide) stored rfl (.refused admitted wellFormed
          (by simp [PromotionDecision.addReason, PromotionOutcome.Reported]) rfl)
      rename_i reserved
      have reserved : holdsReservation (engine.state.touchDecision plan.decision) plan = true := by
        simpa using reserved
      exact revalidate_effect admitted wellFormed stored policyCurrent found
        (by simpa using unexpired) reserved

theorem commit_effect (plan : PromotionPlan) (now : UInt64) :
    Effect engine (.commit plan now) (.committed (engine.commit plan now).1)
      (engine.commit plan now).2 := by
  unfold commit
  split
  · exact .idle rfl rfl
  rename_i admitted
  have admitted : engine.admissionOpen = true := by simpa using admitted
  split
  · exact .idle rfl rfl
  rename_i wellFormed
  have wellFormed : plan.valid = true := by simpa using wellFormed
  cases found : engine.state.plans[plan.id]? with
  | none => exact .idle rfl rfl
  | some stored =>
      dsimp only
      split
      · exact .idle rfl rfl
      rename_i same
      have stored_eq : stored = plan := not_not.mp same
      subst stored_eq
      split
      · have control : (engine.closeStale stored).2.control =
            (engine.control.setDecision stored.decision
              ({ engine.control.decisions.getD stored.decision {} with outcome := .conflict }.addReason
                (.of .policyGenerationStale (stalePolicyText engine.state stored)
                  stored.id.toText))).releasePending stored.artifact := rfl
        refine .closed true (by decide) found ?_ (.refused admitted wellFormed ?_ rfl) control
        · rfl
        · simp [PromotionDecision.addReason, PromotionOutcome.Reported]
      rename_i policyCurrent
      exact commitStored_effect now admitted wellFormed found (by simpa using policyCurrent)

theorem commit_presented {plan : PromotionPlan} (now : UInt64)
    (admitted : engine.admissionOpen = true) (wellFormed : plan.valid = true)
    (stored : engine.state.plans[plan.id]? = some plan)
    (policyCurrent : policyMoved engine.state plan = false) :
    engine.commit plan now = engine.commitStored plan now := by
  unfold commit
  rw [admitted, wellFormed, stored]
  simp only [Bool.not_true, Bool.false_eq_true, if_false, ne_eq, not_true_eq_false, policyCurrent]

theorem commit_of_accepts {plan : PromotionPlan} {now : UInt64} {artifact : ArtifactRecord}
    (accepts : engine.Accepts plan now artifact) :
    engine.commit plan now = (engine.touch plan).applyCommit plan artifact
      (evaluateGates engine.config engine.state (requestOfPlan plan) now
        (engine.state.decisions.getD plan.decision {})).decision now := by
  have found : (engine.state.touchDecision plan.decision).findRevision plan.artifact
      plan.artifactRevision = some artifact := accepts.found
  have reserved : holdsReservation (engine.state.touchDecision plan.decision) plan = true :=
    accepts.reserved
  have eligible := accepts.eligible
  obtain ⟨other, _, otherFound, _, _, _, entries, _⟩ := evaluateGates_eligible eligible
  have same : other = artifact := Option.some.inj (otherFound.symm.trans accepts.found)
  subst same
  rw [commit_presented now accepts.admitted accepts.wellFormed accepts.stored accepts.policyCurrent]
  simp only [Bool.not_true, Bool.false_eq_true, if_false, ne_eq, not_true_eq_false, commitStored,
    found, accepts.unexpired, reserved, revalidate, evaluateGates_touched, entries,
    accepts.sameEvidence, eligible, accepts.moves, touch]

theorem quarantine_effect (id : ArtifactId) (reasonClass detail : Text)
    (authority : CoordinatorAuthority) :
    Effect engine (.quarantine id reasonClass detail authority)
      (.mutated (engine.quarantine id reasonClass detail authority).1)
      (engine.quarantine id reasonClass detail authority).2 := by
  unfold quarantine
  split
  · exact .idle rfl rfl
  rename_i named
  split
  · exact .idle rfl rfl
  split
  · exact .idle rfl rfl
  cases found : engine.state.findCurrent id with
  | none => exact .idle rfl rfl
  | some artifact =>
      dsimp only
      split
      · exact .idle rfl rfl
      rename_i unquarantined
      split
      · exact .idle rfl rfl
      rename_i open_
      split
      · exact .idle rfl rfl
      refine .quarantined (by simpa using named) found (by simpa using unquarantined) ?_ rfl
      simpa using open_

theorem applyRelease_control (engine : Engine) (state : CoordinatorState) (id : ArtifactId)
    (artifact : ArtifactRecord) (request : PromotionRequest) (decision : PromotionDecision)
    (later : UInt64) :
    (engine.applyRelease state id artifact request decision later).2.control =
      (state.control.replaceCurrent id (releasedArtifact state.advanceSequence artifact)).addRecord
        engine.config.maxRecordsRetained
        (releaseRecord state.advanceSequence artifact request decision later) := rfl

theorem applyTrust_control (engine : Engine) (state : CoordinatorState) (id : ArtifactId)
    (changed : ArtifactRecord) (source : Stage) (decision : PromotionDecisionId) (now : UInt64)
    (note : Text) (kind : HistoryEventKind) (outcome : PromotionOutcome) :
    (engine.applyTrust state id changed source decision now note kind outcome).2.control =
      ((state.control.replaceCurrent id changed).releasePending id).addRecord
        engine.config.maxRecordsRetained
        (trustRecord state changed source changed.stage decision now note) := rfl

/-- What revoke, supersede and retire leave behind: the engine as it was, or a changed revision
stored with its record and its event. -/
def Applied (engine : Engine) (id : ArtifactId) (now : UInt64) (next : Engine) : Prop :=
  next = engine ∨ ∃ changed source decision note kind outcome,
    next = (engine.applyTrust engine.state.advanceSequence id changed source decision now note kind
      outcome).2

theorem revoke_applied (id : ArtifactId) (decision : PromotionDecisionId)
    (reasonClass detail : Text) (authority : CoordinatorAuthority) (cause : EvidenceId)
    (now : UInt64) :
    engine.Applied id now
      (engine.revoke id decision reasonClass detail authority cause now).2 := by
  unfold revoke
  split
  · exact .inl rfl
  split
  · exact .inl rfl
  split
  · exact .inl rfl
  split
  · exact .inl rfl
  split
  · exact .inl rfl
  split
  · exact .inl rfl
  dsimp only
  generalize (if decision.invalid = true then _ else decision) = target
  split
  · exact .inl rfl
  split
  · exact .inl rfl
  · exact .inr ⟨_, _, _, _, _, _, rfl⟩

theorem supersede_applied (id successor : ArtifactId) (reason : Text)
    (authority : CoordinatorAuthority) (now : UInt64) :
    engine.Applied id now (engine.supersede id successor reason authority now).2 := by
  unfold supersede
  split
  · exact .inl rfl
  split
  · exact .inl rfl
  split
  · exact .inl rfl
  split
  · exact .inl rfl
  split
  · exact .inl rfl
  split
  · exact .inl rfl
  split
  · exact .inl rfl
  split
  · exact .inl rfl
  split
  · exact .inl rfl
  · exact .inr ⟨_, _, _, _, _, _, rfl⟩

theorem retire_applied (id : ArtifactId) (authority : CoordinatorAuthority) (now : UInt64) :
    engine.Applied id now (engine.retire id authority now).2 := by
  unfold retire
  split
  · exact .inl rfl
  split
  · exact .inl rfl
  split
  · exact .inl rfl
  split
  · exact .inl rfl
  split
  · exact .inl rfl
  · exact .inr ⟨_, _, _, _, _, _, rfl⟩

theorem releaseQuarantine_effect (id : ArtifactId) (authority : CoordinatorAuthority)
    (now later : UInt64) :
    Effect engine (.releaseQuarantine id authority now later)
      (.mutated (engine.releaseQuarantine id authority now later).1)
      (engine.releaseQuarantine id authority now later).2 := by
  unfold releaseQuarantine
  split
  · exact .idle rfl rfl
  cases found : engine.state.findCurrent id with
  | none => exact .idle rfl rfl
  | some artifact =>
      dsimp only
      split
      · exact .idle rfl rfl
      rename_i held
      split
      · exact .idle rfl rfl
      have named := evaluateGates_decision_id engine.config
        { engine.state.openDecision with
          internalRequestGenerator := engine.state.internalRequestGenerator.advance
          internalAttemptGenerator := engine.state.internalAttemptGenerator.advance }
        (releaseRequest engine.state id artifact) now
        (releaseDecision engine.state id artifact (releaseRequest engine.state id artifact))
      have reported := evaluateGates_reported engine.config
        { engine.state.openDecision with
          internalRequestGenerator := engine.state.internalRequestGenerator.advance
          internalAttemptGenerator := engine.state.internalAttemptGenerator.advance }
        (releaseRequest engine.state id artifact) now
        (releaseDecision engine.state id artifact (releaseRequest engine.state id artifact))
      generalize evaluateGates engine.config _ (releaseRequest engine.state id artifact) now
        (releaseDecision engine.state id artifact (releaseRequest engine.state id artifact)) =
          evaluation at named reported ⊢
      let decision : PromotionDecision := { evaluation.decision with
        outcome := evaluation.result.outcome, decidedUnixMillis := some now
        evidenceSnapshotDigest := computeSnapshotDigest artifact.id artifact.revision
          artifact.digest evaluation.entries }
      have decision_named : decision.id = engine.control.decisionGenerator.next := named
      have decision_known : decision.outcome ≠ .invalid := reported.1
      split
      · exact .releaseRefused decision_named decision_known rfl
      · have control := applyRelease_control engine
          ({ engine.state.openDecision with
            internalRequestGenerator := engine.state.internalRequestGenerator.advance
            internalAttemptGenerator := engine.state.internalAttemptGenerator.advance
            : CoordinatorState }.storeDecision decision) id artifact
          (releaseRequest engine.state id artifact) decision later
        exact .released (releaseRequest engine.state id artifact) found (by simpa using held) rfl
          decision_named decision_known rfl rfl control

theorem revoke_effect (id : ArtifactId) (decision : PromotionDecisionId)
    (reasonClass detail : Text) (authority : CoordinatorAuthority) (cause : EvidenceId)
    (now : UInt64) :
    Effect engine (.revoke id decision reasonClass detail authority cause now)
      (.mutated (engine.revoke id decision reasonClass detail authority cause now).1)
      (engine.revoke id decision reasonClass detail authority cause now).2 := by
  unfold revoke
  split
  · exact .idle rfl rfl
  rename_i classNamed
  split
  · exact .idle rfl rfl
  cases found : engine.state.findCurrent id with
  | none => exact .idle rfl rfl
  | some artifact =>
      dsimp only
      split
      · exact .idle rfl rfl
      rename_i unrevoked
      split
      · exact .idle rfl rfl
      split
      · exact .idle rfl rfl
      rename_i authorized
      have named : (if decision.invalid then artifact.promotionDecision else decision).valid =
          true := by
        by_cases unnamed : decision.invalid = true
        · rw [if_pos unnamed]
          rw [unnamed, Bool.true_and] at authorized
          simp only [Bool.or_eq_true, not_or, Identity.invalid, Bool.not_eq_true',
            Bool.not_eq_false] at authorized
          exact authorized.2
        · rw [if_neg unnamed]
          simpa [Identity.invalid] using unnamed
      generalize (if decision.invalid then artifact.promotionDecision else decision) = target at *
      split
      · exact .idle rfl rfl
      rename_i held
      split
      · exact .idle rfl rfl
      have control := applyTrust_control engine engine.state.advanceSequence id
        (revokedArtifact engine.state.advanceSequence artifact target reasonClass detail cause)
        artifact.stage target now (text "revocation: " ++ reasonClass) .revoked .revoked
      exact .revoked (by simpa using classNamed) found (by simpa using unrevoked) named
        (by simpa using held) rfl control

theorem supersede_effect (id successor : ArtifactId) (reason : Text)
    (authority : CoordinatorAuthority) (now : UInt64) :
    Effect engine (.supersede id successor reason authority now)
      (.mutated (engine.supersede id successor reason authority now).1)
      (engine.supersede id successor reason authority now).2 := by
  unfold supersede
  split
  · exact .idle rfl rfl
  split
  · exact .idle rfl rfl
  split
  · exact .idle rfl rfl
  rename_i distinct
  cases found : engine.state.findCurrent id with
  | none => exact .idle rfl rfl
  | some artifact =>
      cases successorFound : engine.state.findCurrent successor with
      | none => exact .idle rfl rfl
      | some successorRecord =>
          dsimp only
          split
          · exact .idle rfl rfl
          split
          · exact .idle rfl rfl
          rename_i unsuperseded
          split
          · exact .idle rfl rfl
          rename_i open_
          split
          · exact .idle rfl rfl
          have control := applyTrust_control engine engine.state.advanceSequence id
            (supersededArtifact engine.state.advanceSequence artifact successorRecord successor
              reason) artifact.stage artifact.promotionDecision now
            (text "superseded by " ++ successor.toText) .superseded .superseded
          exact .superseded found successorFound distinct (by simpa using unsuperseded)
            (by simpa using open_) rfl control

theorem retire_effect (id : ArtifactId) (authority : CoordinatorAuthority) (now : UInt64) :
    Effect engine (.retire id authority now) (.mutated (engine.retire id authority now).1)
      (engine.retire id authority now).2 := by
  unfold retire
  split
  · exact .idle rfl rfl
  cases found : engine.state.findCurrent id with
  | none => exact .idle rfl rfl
  | some artifact =>
      dsimp only
      split
      · exact .idle rfl rfl
      split
      · exact .idle rfl rfl
      rename_i unretired
      split
      · exact .idle rfl rfl
      have control := applyTrust_control engine engine.state.advanceSequence id
        (retiredArtifact engine.state.advanceSequence artifact) artifact.stage
        artifact.promotionDecision now (text "retired") .retired .promotionCommitted
      exact .retired found unretired rfl control

theorem revokeEvidence_effect (id : EvidenceId) (reason : Text)
    (authority : CoordinatorAuthority) :
    Effect engine (.revokeEvidence id reason authority)
      (.mutated (engine.revokeEvidence id reason authority).1)
      (engine.revokeEvidence id reason authority).2 := by
  unfold revokeEvidence
  split
  · exact .idle rfl rfl
  cases found : engine.state.evidence[id]? with
  | none => exact .idle rfl rfl
  | some record =>
      dsimp only
      split
      · exact .idle rfl rfl
      split
      · exact .idle rfl rfl
      rename_i unrevoked
      exact .evidenceRevoked found (by simpa using unrevoked) rfl

theorem setVeto_control (id : ArtifactId) (message : String) (change : VetoState → VetoState) :
    (engine.setVeto id message change).2.control = engine.control := by
  unfold setVeto
  split
  · rfl
  · rfl

theorem reload_effect {advance : Bool} {outcome : Result Unit × Engine}
    (moved : engine.reload advance = some outcome) :
    Effect engine (.reload advance) (.reloaded outcome.1) outcome.2 := by
  unfold reload at moved
  cases decoded : StatePersistence.decode (StatePersistence.encode engine.snapshot) with
  | error status =>
      simp only [decoded, Option.some.injEq] at moved
      subst moved
      exact .idle rfl rfl
  | ok image =>
      simp only [decoded, installState] at moved
      obtain ⟨consistency, _, answered⟩ := Option.map_eq_some_iff.mp moved
      subst answered
      cases consistency with
      | error status => exact .idle rfl rfl
      | ok done =>
          refine .reloaded decoded ?_
          cases advance <;> rfl

theorem answerWith_effect {α : Type} {op : Op} {reply : Reply} {next : Engine} {wrap : α → Reply}
    {outcome : α × Engine} (effect : Effect engine op (wrap outcome.1) outcome.2)
    (answered : answerWith wrap outcome = some (reply, next)) : Effect engine op reply next := by
  simp only [answerWith, Option.some.injEq, Prod.mk.injEq] at answered
  obtain ⟨rfl, rfl⟩ := answered
  exact effect

theorem perform_effect {op : Op} {reply : Reply} {next : Engine}
    (moved : engine.perform op = some (reply, next)) : Effect engine op reply next := by
  cases op with
  | publishPolicy policy =>
      rw [perform] at moved
      obtain ⟨outcome, published, answered⟩ := Option.bind_eq_some_iff.mp moved
      exact answerWith_effect (publishPolicy_effect published) answered
  | reload advance =>
      rw [perform] at moved
      obtain ⟨outcome, installed, answered⟩ := Option.bind_eq_some_iff.mp moved
      exact answerWith_effect (reload_effect installed) answered
  | restart epoch => exact answerWith_effect (restart_effect epoch) moved
  | recoverInFlight => exact answerWith_effect recoverInFlight_effect moved
  | registerArtifact registration now =>
      exact answerWith_effect (registerArtifact_effect registration now) moved
  | submitEvidence submission => exact answerWith_effect (submitEvidence_effect submission) moved
  | evaluate request now => exact answerWith_effect (evaluate_effect request now) moved
  | commit plan now => exact answerWith_effect (commit_effect plan now) moved
  | quarantine id reasonClass detail authority =>
      exact answerWith_effect (quarantine_effect id reasonClass detail authority) moved
  | releaseQuarantine id authority now later =>
      exact answerWith_effect (releaseQuarantine_effect id authority now later) moved
  | revoke id decision reasonClass detail authority cause now =>
      exact answerWith_effect
        (revoke_effect id decision reasonClass detail authority cause now) moved
  | supersede id successor reason authority now =>
      exact answerWith_effect (supersede_effect id successor reason authority now) moved
  | retire id authority now => exact answerWith_effect (retire_effect id authority now) moved
  | revokeEvidence id reason authority =>
      exact answerWith_effect (revokeEvidence_effect id reason authority) moved
  | setSecurityVeto id active reason =>
      exact answerWith_effect (.idle rfl (setVeto_control id _ _)) moved
  | setDependencyVeto id active reason =>
      exact answerWith_effect (.idle rfl (setVeto_control id _ _)) moved
  | setCompatibilityGeneration generation =>
      exact answerWith_effect (setCompatibilityGeneration_effect generation) moved
  | closeAdmission =>
      simp only [perform, Option.some.injEq, Prod.mk.injEq] at moved
      obtain ⟨rfl, rfl⟩ := moved
      exact .idle rfl rfl
  | openAdmission =>
      simp only [perform, Option.some.injEq, Prod.mk.injEq] at moved
      obtain ⟨rfl, rfl⟩ := moved
      exact .idle rfl rfl

theorem step_effect {op : Op} {reply : Reply} {next : Engine}
    (moved : engine.step op = some (reply, next)) : Effect engine op reply next :=
  perform_effect (step_eq_some moved).1

theorem closeCommit_config (plan : PromotionPlan) (outcome : PromotionOutcome)
    (decision : PromotionDecision) (released : Bool) :
    (engine.closeCommit plan outcome decision released).2.config = engine.config := by
  unfold closeCommit
  cases released <;> rfl

theorem revalidate_config (plan : PromotionPlan) (artifact : ArtifactRecord)
    (decision : PromotionDecision) (now : UInt64) :
    (engine.revalidate plan artifact decision now).2.config = engine.config := by
  unfold revalidate
  dsimp only
  split
  · exact closeCommit_config _ _ _ _
  split
  · exact closeCommit_config _ _ _ _
  split
  · exact closeCommit_config _ _ _ _
  · rfl

theorem commitStored_config (plan : PromotionPlan) (now : UInt64) :
    (engine.commitStored plan now).2.config = engine.config := by
  unfold commitStored
  dsimp only
  split
  · rfl
  split
  · exact closeCommit_config _ _ _ _
  split
  · exact closeCommit_config _ _ _ _
  · exact revalidate_config _ _ _ _

theorem commit_config (plan : PromotionPlan) (now : UInt64) :
    (engine.commit plan now).2.config = engine.config := by
  unfold commit
  split
  · rfl
  split
  · rfl
  split
  · rfl
  split
  · rfl
  split
  · rfl
  · exact commitStored_config plan now

theorem evaluate_config (request : PromotionRequest) (now : UInt64) :
    (engine.evaluate request now).2.config = engine.config := by
  unfold evaluate evaluateFresh
  dsimp only
  repeat' split
  all_goals rfl

theorem Applied.config {id : ArtifactId} {now : UInt64} {next : Engine}
    (applied : engine.Applied id now next) : next.config = engine.config := by
  rcases applied with rfl | ⟨_, _, _, _, _, _, rfl⟩
  · rfl
  · rfl

theorem quarantine_config (id : ArtifactId) (reasonClass detail : Text)
    (authority : CoordinatorAuthority) :
    (engine.quarantine id reasonClass detail authority).2.config = engine.config := by
  unfold quarantine
  dsimp only
  repeat' split
  all_goals rfl

theorem releaseQuarantine_config (id : ArtifactId) (authority : CoordinatorAuthority)
    (now later : UInt64) :
    (engine.releaseQuarantine id authority now later).2.config = engine.config := by
  unfold releaseQuarantine
  dsimp only
  repeat' split
  all_goals rfl

theorem revokeEvidence_config (id : EvidenceId) (reason : Text)
    (authority : CoordinatorAuthority) :
    (engine.revokeEvidence id reason authority).2.config = engine.config := by
  unfold revokeEvidence
  dsimp only
  repeat' split
  all_goals rfl

theorem answerWith_config {α : Type} {reply : Reply} {next : Engine} {wrap : α → Reply}
    {outcome : α × Engine} (kept : outcome.2.config = engine.config)
    (answered : answerWith wrap outcome = some (reply, next)) : next.config = engine.config := by
  simp only [answerWith, Option.some.injEq, Prod.mk.injEq] at answered
  rw [← answered.2, kept]

theorem perform_config {op : Op} {reply : Reply} {next : Engine}
    (moved : engine.perform op = some (reply, next)) : next.config = engine.config := by
  cases op with
  | publishPolicy policy =>
      rw [perform] at moved
      obtain ⟨outcome, published, answered⟩ := Option.bind_eq_some_iff.mp moved
      refine answerWith_config ?_ answered
      obtain ⟨validation, _, answered⟩ := Option.map_eq_some_iff.mp published
      subst answered
      split
      · rfl
      · dsimp only
        split <;> rfl
  | reload advance =>
      rw [perform] at moved
      obtain ⟨outcome, installed, answered⟩ := Option.bind_eq_some_iff.mp moved
      refine answerWith_config ?_ answered
      unfold reload at installed
      split at installed
      · rw [← Option.some.inj installed]
      · obtain ⟨consistency, _, answered⟩ := Option.map_eq_some_iff.mp installed
        subst answered
        split <;> rfl
  | restart epoch =>
      refine answerWith_config ?_ moved
      unfold restart
      split <;> rfl
  | recoverInFlight =>
      refine answerWith_config ?_ moved
      unfold recoverInFlight
      dsimp only
      split <;> rfl
  | registerArtifact registration now =>
      refine answerWith_config ?_ moved
      unfold registerArtifact
      dsimp only
      repeat' split
      all_goals rfl
  | submitEvidence submission =>
      refine answerWith_config ?_ moved
      unfold submitEvidence
      dsimp only
      repeat' split
      all_goals rfl
  | evaluate request now => exact answerWith_config (evaluate_config request now) moved
  | commit plan now => exact answerWith_config (commit_config plan now) moved
  | quarantine id reasonClass detail authority =>
      exact answerWith_config (quarantine_config id reasonClass detail authority) moved
  | releaseQuarantine id authority now later =>
      exact answerWith_config (releaseQuarantine_config id authority now later) moved
  | revoke id decision reasonClass detail authority cause now =>
      exact answerWith_config
        (revoke_applied id decision reasonClass detail authority cause now).config moved
  | supersede id successor reason authority now =>
      exact answerWith_config
        (supersede_applied id successor reason authority now).config moved
  | retire id authority now =>
      exact answerWith_config (retire_applied id authority now).config moved
  | revokeEvidence id reason authority =>
      exact answerWith_config (revokeEvidence_config id reason authority) moved
  | setSecurityVeto id active reason =>
      refine answerWith_config ?_ moved
      unfold setSecurityVeto setVeto
      split <;> rfl
  | setDependencyVeto id active reason =>
      refine answerWith_config ?_ moved
      unfold setDependencyVeto setVeto
      split <;> rfl
  | setCompatibilityGeneration generation =>
      refine answerWith_config ?_ moved
      unfold setCompatibilityGeneration
      split
      · rfl
      · split <;> rfl
  | closeAdmission =>
      simp only [perform, Option.some.injEq, Prod.mk.injEq] at moved
      rw [← moved.2]
      rfl
  | openAdmission =>
      simp only [perform, Option.some.injEq, Prod.mk.injEq] at moved
      rw [← moved.2]
      rfl

theorem step_config {op : Op} {reply : Reply} {next : Engine}
    (moved : engine.step op = some (reply, next)) : next.config = engine.config :=
  perform_config (step_eq_some moved).1

theorem create_config_valid (config : EngineConfig) (epoch : CoordinatorEpoch)
    (salting naming : UInt64) : (create config epoch salting naming).config.valid = true := by
  unfold create
  dsimp only
  split
  · assumption
  · decide

end Engine

theorem Reachable.config_valid {engine : Engine} (reachable : Reachable engine) :
    engine.config.valid = true := by
  obtain ⟨start, trace, ⟨config, epoch, salting, naming, rfl⟩, run⟩ := reachable
  refine run.invariant (fun engine => engine.config.valid = true) ?_
    (Engine.create_config_valid config epoch salting naming)
  intro before input output after valid moved
  rw [Engine.step_config moved, valid]

end ArtifactPromotion
