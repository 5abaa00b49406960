import ArtifactPromotion.Engine.Consistency
import ArtifactPromotion.Engine.Isolation

/-! What an operation does when the coordinator authority its caller supplied is not the current
one. -/

namespace ArtifactPromotion

open Runs

def PromotionRequest.under (request : PromotionRequest) (authority : CoordinatorAuthority) :
    PromotionRequest := { request with authority }

/-- The coordinator authority a caller supplies with an operation. -/
def Op.authority? : Op → Option CoordinatorAuthority
  | .evaluate request _ => some request.authority
  | .quarantine _ _ _ authority | .releaseQuarantine _ authority _ _
  | .revoke _ _ _ _ authority _ _ | .supersede _ _ _ authority _ | .retire _ authority _
  | .revokeEvidence _ _ authority => some authority
  | _ => none

def Op.under (authority : CoordinatorAuthority) : Op → Op
  | .evaluate request now => .evaluate (request.under authority) now
  | .quarantine id reasonClass detail _ => .quarantine id reasonClass detail authority
  | .releaseQuarantine id _ now later => .releaseQuarantine id authority now later
  | .revoke id decision reasonClass detail _ cause now =>
      .revoke id decision reasonClass detail authority cause now
  | .supersede id successor reason _ now => .supersede id successor reason authority now
  | .retire id _ now => .retire id authority now
  | .revokeEvidence id reason _ => .revokeEvidence id reason authority
  | op => op

/-- No plan was issued, no artifact or evidence record changed and no transition was committed. -/
structure Inert (before after : CoordinatorState) : Prop where
  plans : ∀ (id : PromotionPlanId) (plan : PromotionPlan), after.plans[id]? = some plan →
    before.plans[id]? = some plan
  artifacts : after.artifacts = before.artifacts
  evidence : after.evidence = before.evidence
  records : after.records = before.records

theorem Inert.of_control {before after : CoordinatorState} (same : after.control = before.control) :
    Inert before after := by
  refine ⟨?_, congrArg Control.artifacts same, congrArg Control.evidence same,
    congrArg Control.records same⟩
  intro id plan present
  have plans : after.plans = before.plans := congrArg Control.plans same
  rwa [plans] at present

namespace GateContext

variable {context : GateContext}

def asking (context : GateContext) (request : PromotionRequest) : GateContext :=
  { context with request }

theorem checkDependencies_asking (request : PromotionRequest) (dependencies : List Text) :
    (context.asking request).checkDependencies dependencies =
      context.checkDependencies dependencies := by
  induction dependencies with
  | nil => rfl
  | cons dependency rest ih =>
      simp only [checkDependencies, ih]
      rfl

theorem satisfied_under {authority : CoordinatorAuthority} {gate : Gate}
    (supplied : context.request.authority.epoch.valid = true) (given : authority.epoch.valid = true)
    (unfenced : gate.kind ≠ .coordinatorEpochCurrent) :
    (context.asking (context.request.under authority)).satisfied gate =
      context.satisfied gate := by
  have checked : (context.asking (context.request.under authority)).checkGate gate =
      context.checkGate gate := by
    unfold checkGate
    cases kind : gate.kind with
    | coordinatorEpochCurrent => exact absurd kind unfenced
    | policyGenerationCurrent =>
        simp only [checkPolicyGeneration, asking, PromotionRequest.under, supplied, given]
        rfl
    | dependentArtifactPromoted => exact checkDependencies_asking _ _
    | _ => rfl
  rw [satisfied, checked, satisfied]

theorem satisfied_epoch {gate : Gate} (fence : gate.kind = .coordinatorEpochCurrent) :
    context.satisfied gate = true ↔ context.request.authority = context.state.authority := by
  have fields : context.request.authority = context.state.authority ↔
      context.request.authority.coordinator = context.state.coordinator ∧
        context.request.authority.epoch = context.state.epoch := by
    rw [CoordinatorAuthority.mk.injEq]
    rfl
  rw [fields]
  simp only [satisfied, checkGate, fence, checkCoordinatorEpoch]
  by_cases coordinator : context.request.authority.coordinator = context.state.coordinator
  · by_cases epoch : context.request.authority.epoch = context.state.epoch
    · simp [coordinator, epoch]
    · simp [coordinator, epoch]
  · simp [coordinator]

end GateContext

namespace Engine

variable {engine next : Engine} {authority : CoordinatorAuthority}

/-- No requirement of the rule compares the request's authority with the current one. -/
def Unguarded (rule : PolicyRule) : Prop :=
  ∀ gate ∈ rule.requirements, gate.kind ≠ .coordinatorEpochCurrent

/-- An evaluation passes exactly when the revision is registered, a rule governs the transition and
every requirement of the rule is satisfied. -/
theorem evaluateGates_passes_iff {config : EngineConfig} {state : CoordinatorState}
    {request : PromotionRequest} {now : UInt64} {decision : PromotionDecision} :
    (evaluateGates config state request now decision).result.failed = false ↔
      ∃ artifact rule, state.findRevision request.artifact request.expectedRevision =
          some artifact ∧
        state.policy.findRule artifact.kind artifact.stage request.requestedStage = some rule ∧
        ∀ gate ∈ rule.requirements, GateContext.satisfied
          ⟨config, state, request, now, artifact, decision.policyGeneration⟩ gate = true := by
  constructor
  · intro passes
    obtain ⟨artifact, rule, found, governed, satisfied, _⟩ := evaluateGates_eligible passes
    exact ⟨artifact, rule, found, governed, satisfied⟩
  · rintro ⟨artifact, rule, found, governed, satisfied⟩
    unfold evaluateGates
    simp only [found, governed, GateEvaluation.conclude_failed]
    exact (evaluateRequirements_failed _ _ _ _).mpr ⟨rfl, satisfied⟩

structure Quarantines (engine : Engine) (id : ArtifactId) (reasonClass : Text)
    (authority : CoordinatorAuthority) (artifact : ArtifactRecord) : Prop where
  classNamed : isValidName reasonClass = true
  native : foreignAuthority engine.state authority = false
  admitted : engine.admissionOpen = true
  found : engine.state.findCurrent id = some artifact
  unquarantined : artifact.quarantine.active = false
  open_ : artifact.stage ≠ .revoked ∧ artifact.stage ≠ .retired
  legal : engine.state.policy.graph.hasEdge artifact.stage .quarantined = true

structure RevokesEvidence (engine : Engine) (id : EvidenceId) (authority : CoordinatorAuthority)
    (record : EvidenceRecord) : Prop where
  admitted : engine.admissionOpen = true
  found : engine.state.evidence[id]? = some record
  native : foreignAuthority engine.state authority = false
  unrevoked : record.revoked = false

structure Plans (engine : Engine) (request : PromotionRequest) (now : UInt64)
    (artifact : ArtifactRecord) : Prop where
  admitted : engine.admissionOpen = true
  issues : engine.Issues request now artifact
  room : engine.state.pending.size < engine.config.maxPendingPromotions.toNat ∨
    engine.state.pending.contains artifact.id = true

/-- The operation passes every check it makes. -/
inductive Granted (engine : Engine) : Op → Prop
  | evaluate {request now} (artifact : ArtifactRecord) (plans : engine.Plans request now artifact) :
      Granted engine (.evaluate request now)
  | quarantine {id reasonClass detail authority} (artifact : ArtifactRecord)
      (quarantines : engine.Quarantines id reasonClass authority artifact) :
      Granted engine (.quarantine id reasonClass detail authority)
  | release {id authority now later} (artifact : ArtifactRecord)
      (releases : engine.Releases id authority now artifact) :
      Granted engine (.releaseQuarantine id authority now later)
  | revoke {id decision reasonClass detail authority cause now} (artifact : ArtifactRecord)
      (revokes : engine.Revokes id decision reasonClass authority cause artifact) :
      Granted engine (.revoke id decision reasonClass detail authority cause now)
  | supersede {id successor reason authority now} (artifact successorRecord : ArtifactRecord)
      (supersedes : engine.Supersedes id successor authority artifact successorRecord) :
      Granted engine (.supersede id successor reason authority now)
  | retire {id authority now} (artifact : ArtifactRecord)
      (retires : engine.Retires id authority artifact) : Granted engine (.retire id authority now)
  | revokeEvidence {id reason authority} (record : EvidenceRecord)
      (revokes : engine.RevokesEvidence id authority record) :
      Granted engine (.revokeEvidence id reason authority)

/-- The operation does not tell its authority from the current one: no epoch gate governs the
evaluation, or the authority names the current coordinator, whatever its epoch. -/
def Unfenced (engine : Engine) : Op → Prop
  | .evaluate request _ => ∀ artifact rule,
      engine.state.findRevision request.artifact request.expectedRevision = some artifact →
      engine.state.policy.findRule artifact.kind artifact.stage request.requestedStage =
        some rule → Unguarded rule
  | .quarantine _ _ _ authority | .releaseQuarantine _ authority _ _
  | .revoke _ _ _ _ authority _ _ | .supersede _ _ _ authority _ | .retire _ authority _
  | .revokeEvidence _ _ authority => authority.coordinator = engine.state.coordinator
  | _ => False

theorem replaced_stirs {id : ArtifactId} {artifact changed : ArtifactRecord}
    (found : engine.state.findCurrent id = some artifact)
    (replaced : next.control.artifacts = (engine.control.replaceCurrent id changed).artifacts)
    (differs : changed ≠ artifact) : ¬Inert engine.state next.state := by
  intro inert
  obtain ⟨index, before, after⟩ := replaced_current found replaced
  have chains : next.state.chain id = engine.state.chain id := by
    rw [CoordinatorState.chain, inert.artifacts, CoordinatorState.chain]
  rw [chains, before] at after
  exact differs (Option.some.inj after).symm

theorem quarantine_quarantines (id : ArtifactId) (reasonClass detail : Text)
    (authority : CoordinatorAuthority) :
    (engine.quarantine id reasonClass detail authority).2 = engine ∨
      ∃ artifact, engine.Quarantines id reasonClass authority artifact := by
  unfold quarantine
  split
  · exact .inl rfl
  rename_i classNamed
  split
  · exact .inl rfl
  rename_i native
  split
  · exact .inl rfl
  rename_i admitted
  cases found : engine.state.findCurrent id with
  | none => exact .inl rfl
  | some artifact =>
      dsimp only
      split
      · exact .inl rfl
      rename_i unquarantined
      split
      · exact .inl rfl
      rename_i open_
      split
      · exact .inl rfl
      rename_i legal
      exact .inr ⟨artifact, by simpa using classNamed, by simpa using native,
        by simpa using admitted, found, by simpa using unquarantined, by simpa using open_,
        by simpa using legal⟩

theorem quarantines_applies {id : ArtifactId} {reasonClass : Text} {artifact : ArtifactRecord}
    (quarantines : engine.Quarantines id reasonClass authority artifact) (detail : Text) :
    (engine.quarantine id reasonClass detail authority).2.control.artifacts =
      (engine.control.replaceCurrent id (quarantinedArtifact engine.state.advanceSequence artifact
        reasonClass detail)).artifacts := by
  unfold quarantine
  simp only [quarantines.classNamed, quarantines.native, quarantines.admitted, quarantines.found,
    quarantines.unquarantined, quarantines.open_.1, quarantines.open_.2, quarantines.legal,
    Bool.not_true, Bool.false_eq_true, decide_false, Bool.or_self, ↓reduceIte]
  rfl

theorem revokeEvidence_revokes (id : EvidenceId) (reason : Text)
    (authority : CoordinatorAuthority) :
    (engine.revokeEvidence id reason authority).2 = engine ∨
      ∃ record, engine.RevokesEvidence id authority record := by
  unfold revokeEvidence
  split
  · exact .inl rfl
  rename_i admitted
  cases found : engine.state.evidence[id]? with
  | none => exact .inl rfl
  | some record =>
      dsimp only
      split
      · exact .inl rfl
      rename_i native
      split
      · exact .inl rfl
      rename_i unrevoked
      exact .inr ⟨record, by simpa using admitted, found, by simpa using native,
        by simpa using unrevoked⟩

theorem revokesEvidence_applies {id : EvidenceId} {record : EvidenceRecord}
    (revokes : engine.RevokesEvidence id authority record) (reason : Text) :
    (engine.revokeEvidence id reason authority).2.state.evidence =
      engine.state.evidence.insert id
        (revokedEvidence engine.state.advanceSequence record reason) := by
  unfold revokeEvidence
  simp only [revokes.admitted, revokes.found, revokes.native, revokes.unrevoked, Bool.not_true,
    Bool.false_eq_true, ↓reduceIte]
  rfl

theorem issuePlan_planned {config : EngineConfig} {state : CoordinatorState}
    {request : PromotionRequest} {artifact : ArtifactRecord} {evaluation : GateEvaluation}
    {now : UInt64} :
    (issuePlan config state request artifact evaluation now).plan.isSome = true ↔
      state.pending.size < config.maxPendingPromotions.toNat ∨
        state.pending.contains artifact.id = true := by
  unfold issuePlan
  dsimp only
  generalize (if state.plans.size ≥ config.maxPlansRetained.toNat then eraseFirst state.plans
    else state.plans) = kept
  split
  · rename_i room
    rw [Bool.or_eq_true, decide_eq_true_eq] at room
    exact iff_of_true rfl room
  · rename_i full
    rw [Bool.or_eq_true, decide_eq_true_eq] at full
    exact iff_of_false (by simp) full

theorem decideTransition_derives {config : EngineConfig} {state : CoordinatorState}
    {request : PromotionRequest} {artifact : ArtifactRecord} {now : UInt64}
    {decision : PromotionDecision}
    (found : state.findRevision request.artifact request.expectedRevision = some artifact)
    (derives : Derives config state request artifact now decision) :
    decideTransition config state request artifact now decision =
      issuePlan config state request artifact (evaluateGates config state request now decision)
        now := by
  obtain ⟨subject, rule, subjectFound, governed, _⟩ := evaluateGates_eligible derives.eligible
  have same : subject = artifact := Option.some.inj (subjectFound.symm.trans found)
  rw [same] at governed
  have edge : stageIsReachable state.policy artifact.kind artifact.stage request.requestedStage =
      true := by
    simp [stageIsReachable, governed]
  simp [decideTransition, derives.moves, edge, derives.free, derives.eligible]

/-- An evaluation that gets past its refusals stores a plan if there is room for its reservation. -/
theorem issues_answered (sound : engine.Sound) {request : PromotionRequest} {now : UInt64}
    {artifact : ArtifactRecord} (admitted : engine.admissionOpen = true)
    (issues : engine.Issues request now artifact) :
    ∃ result, (engine.evaluate request now).1 = .ok result ∧
      (result.hasPlan = true ↔ engine.Plans request now artifact) := by
  have derives : Derives engine.config engine.state.openDecision request artifact now
      (engine.fullDecision request artifact now) := ⟨issues.moves, issues.free, issues.eligible⟩
  have found : engine.state.openDecision.findRevision request.artifact request.expectedRevision =
      some artifact := issues.found
  have planned := @issuePlan_planned engine.config engine.state.openDecision request artifact
    (engine.evaluationOf request artifact now) now
  have fresh : (engine.evaluate request now).1 = .ok
      { decision := (decideTransition engine.config engine.state.openDecision request artifact now
          (engine.fullDecision request artifact now)).decision
        plan := (decideTransition engine.config engine.state.openDecision request artifact now
          (engine.fullDecision request artifact now)).plan.getD {}
        hasPlan := (decideTransition engine.config engine.state.openDecision request artifact now
          (engine.fullDecision request artifact now)).plan.isSome } := by
    rw [evaluate_unbound admitted issues.wellFormed (unbound_of_unseen sound issues.unseen)]
    simp only [evaluateFresh, issues.found, issues.digest, ne_eq, not_true_eq_false, if_false]
    rfl
  rw [decideTransition_derives found derives] at fresh
  exact ⟨_, fresh, planned.trans ⟨fun room => ⟨admitted, issues, room⟩, fun plans => plans.room⟩⟩

theorem plan_fresh (sound : engine.Sound) :
    engine.state.plans[engine.state.planGenerator.next]? = none := by
  cases found : engine.state.plans[engine.state.planGenerator.next]? with
  | none => rfl
  | some plan =>
      have issued := (sound.coherent.plans _ _ found).2.1
      exact absurd issued (IdentityGenerator.next_not_issued (sound.coherent.planRoom sound.roomy))

theorem evaluate_plans_iff (sound : engine.Sound) {request : PromotionRequest} {now : UInt64} :
    (∃ result, (engine.evaluate request now).1 = .ok result ∧ result.hasPlan = true) ↔
      ∃ artifact, engine.Plans request now artifact := by
  constructor
  · rintro ⟨result, answered, hasPlan⟩
    have effect := @evaluate_effect engine request now
    rw [answered] at effect
    generalize (engine.evaluate request now).2 = next at effect
    cases effect with
    | idle quiet _ => simp [Reply.confirmsChange, hasPlan] at quiet
    | undecided _ _ planless _ => simp [hasPlan] at planless
    | decided _ _ _ planless _ _ _ => simp [hasPlan] at planless
    | @issued _ _ artifact _ _ _ _ issues _ _ _ opens _ _ =>
        obtain ⟨other, replied, planned⟩ := issues_answered sound opens.admitted issues
        cases answered.symm.trans replied
        exact ⟨artifact, planned.mp hasPlan⟩
  · rintro ⟨artifact, plans⟩
    obtain ⟨result, answered, planned⟩ := issues_answered sound plans.admitted plans.issues
    exact ⟨result, answered, planned.mpr plans⟩

theorem evaluate_stores (engine : Engine) (request : PromotionRequest) (now : UInt64) :
    (engine.evaluate request now).2.state.artifacts = engine.state.artifacts ∧
      (engine.evaluate request now).2.state.evidence = engine.state.evidence ∧
      (engine.evaluate request now).2.state.records = engine.state.records := by
  have effect := @evaluate_effect engine request now
  generalize engine.evaluate request now = outcome at effect ⊢
  obtain ⟨answer, next⟩ := outcome
  cases effect with
  | idle _ changed | undecided _ _ _ changed | decided _ _ _ _ _ _ changed
  | issued _ _ _ _ _ _ changed =>
      exact ⟨congrArg Control.artifacts changed, congrArg Control.evidence changed,
        congrArg Control.records changed⟩

theorem evaluate_plans_kept_iff (sound : engine.Sound) {request : PromotionRequest}
    {now : UInt64} :
    (∀ (id : PromotionPlanId) (plan : PromotionPlan),
        (engine.evaluate request now).2.state.plans[id]? = some plan →
          engine.state.plans[id]? = some plan) ↔
      ¬∃ result, (engine.evaluate request now).1 = .ok result ∧ result.hasPlan = true := by
  have effect := @evaluate_effect engine request now
  generalize engine.evaluate request now = outcome at effect ⊢
  obtain ⟨answer, next⟩ := outcome
  dsimp only at effect ⊢
  cases effect with
  | idle quiet changed =>
      have plans : next.state.plans = engine.state.plans := congrArg Control.plans changed
      refine iff_of_true (fun id plan present => plans ▸ present) ?_
      rintro ⟨result, rfl, hasPlan⟩
      simp [Reply.confirmsChange, hasPlan] at quiet
  | undecided _ _ planless changed =>
      have plans : next.state.plans = engine.state.plans := congrArg Control.plans changed
      refine iff_of_true (fun id plan present => plans ▸ present) ?_
      rintro ⟨result, answered, hasPlan⟩
      cases answered
      simp [hasPlan] at planless
  | @decided _ _ _ _ kept _ _ _ _ _ planless evicted _ changed =>
      have plans : next.state.plans = kept := congrArg Control.plans changed
      refine iff_of_true ?_ ?_
      · intro id plan present
        rw [plans] at present
        exact Coherent.evicts_entry evicted.evicts present
      · rintro ⟨result, answered, hasPlan⟩
        cases answered
        simp [hasPlan] at planless
  | @issued _ _ artifact result _ kept _ _ hasPlan _ _ _ _ changed =>
      have plans : next.state.plans = kept.insert engine.state.planGenerator.next
          (engine.planOf request artifact now) := congrArg Control.plans changed
      refine iff_of_false ?_ (not_not.mpr ⟨result, rfl, hasPlan⟩)
      intro held
      have stored : next.state.plans[engine.state.planGenerator.next]? = some
          (engine.planOf request artifact now) := by
        rw [plans, Std.ExtTreeMap.getElem?_insert_self]
      have issued := held _ _ stored
      rw [plan_fresh sound] at issued
      cases issued

theorem evaluate_inert_iff (sound : engine.Sound) {request : PromotionRequest} {now : UInt64} :
    Inert engine.state (engine.evaluate request now).2.state ↔
      ¬∃ artifact, engine.Plans request now artifact := by
  obtain ⟨artifacts, evidence, records⟩ := engine.evaluate_stores request now
  rw [← evaluate_plans_iff sound, ← evaluate_plans_kept_iff sound]
  exact ⟨fun inert => inert.plans, fun plans => ⟨plans, artifacts, evidence, records⟩⟩

theorem granted_stirs (sound : engine.Sound) {op : Op} {reply : Reply}
    (moved : engine.perform op = some (reply, next)) (granted : engine.Granted op) :
    ¬Inert engine.state next.state := by
  cases granted with
  | evaluate artifact plans =>
      cases moved
      intro inert
      exact (evaluate_inert_iff sound).mp inert ⟨artifact, plans⟩
  | @quarantine _ _ detail _ artifact quarantines =>
      have applied := quarantines_applies quarantines detail
      rw [mutated_next moved] at applied
      refine replaced_stirs quarantines.found applied ?_
      intro same
      have active := congrArg (fun record => record.quarantine.active) same
      simp [quarantinedArtifact, quarantines.unquarantined] at active
  | @release _ _ _ later artifact releases =>
      have applied := releases_applies releases later
      rw [mutated_next moved] at applied
      refine replaced_stirs releases.found applied ?_
      intro same
      have active := congrArg (fun record => record.quarantine.active) same
      simp [releasedArtifact, releases.quarantined] at active
  | @revoke _ _ _ detail _ _ now artifact revokes =>
      have applied := revokes_applies revokes detail now
      rw [mutated_next moved] at applied
      refine replaced_stirs revokes.found applied ?_
      intro same
      have active := congrArg (fun record => record.revocation.active) same
      simp [revokedArtifact, revokes.unrevoked] at active
  | @supersede _ _ reason _ now artifact successorRecord supersedes =>
      have applied := supersedes_applies supersedes reason now
      rw [mutated_next moved] at applied
      refine replaced_stirs supersedes.found applied ?_
      intro same
      have active := congrArg (fun record => record.supersession.active) same
      simp [supersededArtifact, supersedes.unsuperseded] at active
  | @retire _ _ now artifact retires =>
      have applied := (retires_applies retires now).1
      rw [mutated_next moved] at applied
      refine replaced_stirs retires.found applied ?_
      intro same
      exact retires.unretired (congrArg ArtifactRecord.stage same).symm
  | @revokeEvidence id reason _ record revokes =>
      have applied := revokesEvidence_applies revokes reason
      rw [mutated_next moved] at applied
      intro inert
      have held := revokes.found
      rw [← inert.evidence, applied, Std.ExtTreeMap.getElem?_insert_self] at held
      have revoked := congrArg EvidenceRecord.revoked (Option.some.inj held)
      simp [revokedEvidence, revokes.unrevoked] at revoked

theorem release_stores {id : ArtifactId} {now later : UInt64} {reply : Reply}
    (moved : engine.perform (.releaseQuarantine id authority now later) = some (reply, next)) :
    next.state.plans = engine.state.plans ∧ next.state.evidence = engine.state.evidence := by
  cases perform_effect moved with
  | idle _ changed | releaseRefused _ _ changed | released _ _ _ _ _ _ _ _ changed =>
      exact ⟨congrArg Control.plans changed, congrArg Control.evidence changed⟩

theorem refused_inert (sound : engine.Sound) {op : Op} {reply : Reply}
    (supplied : op.authority? = some authority) (moved : engine.perform op = some (reply, next))
    (refused : ¬engine.Granted op) : Inert engine.state next.state := by
  have unchanged {outcome : Engine} (performed : outcome = next) (same : outcome = engine) :
      Inert engine.state next.state := .of_control (by rw [← performed, same])
  cases op with
  | evaluate request now =>
      cases moved
      refine (evaluate_inert_iff sound).mpr ?_
      rintro ⟨artifact, plans⟩
      exact refused (.evaluate artifact plans)
  | quarantine id reasonClass detail authority =>
      rcases quarantine_quarantines id reasonClass detail authority with same | ⟨artifact, held⟩
      · exact unchanged (mutated_next moved) same
      · exact absurd (.quarantine artifact held) refused
  | releaseQuarantine id authority now later =>
      rcases release_releases id authority now later with same | ⟨artifact, releases⟩
      · rw [mutated_next moved] at same
        obtain ⟨plans, evidence⟩ := release_stores moved
        exact ⟨fun id plan present => plans ▸ present, same.1, evidence, same.2⟩
      · exact absurd (.release artifact releases) refused
  | revoke id decision reasonClass detail authority cause now =>
      rcases revoke_revokes id decision reasonClass detail authority cause now with
        same | ⟨artifact, revokes⟩
      · exact unchanged (mutated_next moved) same
      · exact absurd (.revoke artifact revokes) refused
  | supersede id successor reason authority now =>
      rcases supersede_supersedes id successor reason authority now with
        same | ⟨artifact, successorRecord, supersedes⟩
      · exact unchanged (mutated_next moved) same
      · exact absurd (.supersede artifact successorRecord supersedes) refused
  | retire id authority now =>
      rcases retire_retires id authority now with same | ⟨artifact, retires⟩
      · exact unchanged (mutated_next moved) same
      · exact absurd (.retire artifact retires) refused
  | revokeEvidence id reason authority =>
      rcases revokeEvidence_revokes id reason authority with same | ⟨record, revokes⟩
      · exact unchanged (mutated_next moved) same
      · exact absurd (.revokeEvidence record revokes) refused
  | _ => cases supplied

theorem granted_evaluate_iff {request : PromotionRequest} {now : UInt64} :
    engine.Granted (.evaluate request now) ↔ ∃ artifact, engine.Plans request now artifact := by
  constructor
  · intro granted
    cases granted with
    | evaluate artifact plans => exact ⟨artifact, plans⟩
  · rintro ⟨artifact, plans⟩
    exact .evaluate artifact plans

theorem foreign_iff {state : CoordinatorState} (valid : authority.valid = true) :
    foreignAuthority state authority = false ↔ authority.coordinator = state.coordinator := by
  simp [foreignAuthority, valid]

theorem current_native (state : CoordinatorState) :
    foreignAuthority state state.authority = false := by
  simp [foreignAuthority, CoordinatorState.authority]

theorem evaluation_under {request : PromotionRequest} {now : UInt64} {artifact : ArtifactRecord}
    (current : engine.AuthorityValid) (valid : request.authority.valid = true)
    (stale : request.authority ≠ engine.state.authority) :
    (engine.evaluationOf request artifact now).result.failed = false ↔
      engine.Unfenced (.evaluate request now) ∧
        (engine.evaluationOf (request.under engine.state.authority) artifact
          now).result.failed = false := by
  have supplied : request.authority.epoch.valid = true := by
    rw [CoordinatorAuthority.valid, Bool.and_eq_true] at valid
    exact valid.2
  have same (subject : ArtifactRecord) {gate : Gate} (unguarded :
      gate.kind ≠ .coordinatorEpochCurrent) :=
    @GateContext.satisfied_under
      ⟨engine.config, engine.state.openDecision, request, now, subject,
        (engine.fullDecision request artifact now).policyGeneration⟩
      engine.state.authority gate supplied current.2 unguarded
  unfold evaluationOf
  rw [evaluateGates_passes_iff, evaluateGates_passes_iff]
  constructor
  · rintro ⟨subject, rule, subjectFound, governed, satisfied⟩
    have unguarded : Unguarded rule := by
      intro gate inside fence
      exact stale ((GateContext.satisfied_epoch fence).mp (satisfied gate inside))
    refine ⟨?_, subject, rule, subjectFound, governed, ?_⟩
    · intro other otherRule otherFound otherGoverned
      cases otherFound.symm.trans subjectFound
      cases otherGoverned.symm.trans governed
      exact unguarded
    · intro gate inside
      exact (same subject (unguarded gate inside)).trans (satisfied gate inside)
  · rintro ⟨unfenced, subject, rule, subjectFound, governed, satisfied⟩
    have unguarded : Unguarded rule := unfenced subject rule subjectFound governed
    refine ⟨subject, rule, subjectFound, governed, ?_⟩
    intro gate inside
    exact (same subject (unguarded gate inside)).symm.trans (satisfied gate inside)

theorem wellFormed_under {request : PromotionRequest} (valid : request.authority.valid = true)
    (given : authority.valid = true) :
    requestIsWellFormed (request.under authority) = requestIsWellFormed request := by
  simp [requestIsWellFormed, PromotionRequest.under, valid, given]

/-- A plan is stored for a stale request exactly when it would be stored for the request with the
current authority and no epoch gate governs the transition. -/
theorem plans_under {request : PromotionRequest} {now : UInt64} {artifact : ArtifactRecord}
    (current : engine.AuthorityValid) (valid : request.authority.valid = true)
    (stale : request.authority ≠ engine.state.authority) :
    engine.Plans request now artifact ↔ engine.Unfenced (.evaluate request now) ∧
      engine.Plans (request.under engine.state.authority) now artifact := by
  have wellFormed := wellFormed_under valid (authority_valid current)
  constructor
  · rintro ⟨admitted, issues, room⟩
    obtain ⟨unfenced, eligible⟩ := (evaluation_under current valid stale).mp issues.eligible
    exact ⟨unfenced, admitted, ⟨wellFormed.trans issues.wellFormed, issues.unseen, issues.found,
      issues.digest, issues.moves, issues.free, eligible⟩, room⟩
  · rintro ⟨unfenced, admitted, issues, room⟩
    have eligible := (evaluation_under current valid stale).mpr ⟨unfenced, issues.eligible⟩
    exact ⟨admitted, ⟨wellFormed.symm.trans issues.wellFormed, issues.unseen, issues.found,
      issues.digest, issues.moves, issues.free, eligible⟩, room⟩

/-- A stale authority passes the checks of an operation exactly when nothing but its coordinator is
compared and the current authority would pass them. -/
theorem granted_under {op : Op} (current : engine.AuthorityValid)
    (supplied : op.authority? = some authority) (valid : authority.valid = true)
    (stale : authority ≠ engine.state.authority) :
    engine.Granted op ↔ engine.Unfenced op ∧ engine.Granted (op.under engine.state.authority) := by
  have native := current_native engine.state
  have named := @foreign_iff authority engine.state valid
  cases op with
  | evaluate request now =>
      cases supplied
      constructor
      · intro granted
        cases granted with
        | evaluate artifact plans =>
            obtain ⟨unfenced, renewed⟩ := (plans_under current valid stale).mp plans
            exact ⟨unfenced, .evaluate artifact renewed⟩
      · rintro ⟨unfenced, granted⟩
        cases granted with
        | evaluate artifact renewed =>
            exact .evaluate artifact ((plans_under current valid stale).mpr ⟨unfenced, renewed⟩)
  | quarantine id reasonClass detail authority =>
      cases supplied
      constructor
      · intro granted
        cases granted with
        | quarantine artifact held =>
            exact ⟨named.mp held.native, .quarantine artifact { held with native }⟩
      · rintro ⟨unfenced, granted⟩
        cases granted with
        | quarantine artifact held =>
            exact .quarantine artifact { held with native := named.mpr unfenced }
  | releaseQuarantine id authority now later =>
      cases supplied
      constructor
      · intro granted
        cases granted with
        | release artifact releases =>
            exact ⟨named.mp releases.native, .release artifact { releases with native }⟩
      · rintro ⟨unfenced, granted⟩
        cases granted with
        | release artifact releases =>
            exact .release artifact { releases with native := named.mpr unfenced }
  | revoke id decision reasonClass detail authority cause now =>
      cases supplied
      constructor
      · intro granted
        cases granted with
        | revoke artifact revokes =>
            exact ⟨named.mp revokes.native, .revoke artifact { revokes with native }⟩
      · rintro ⟨unfenced, granted⟩
        cases granted with
        | revoke artifact revokes =>
            exact .revoke artifact { revokes with native := named.mpr unfenced }
  | supersede id successor reason authority now =>
      cases supplied
      constructor
      · intro granted
        cases granted with
        | supersede artifact successorRecord supersedes =>
            exact ⟨named.mp supersedes.native,
              .supersede artifact successorRecord { supersedes with native }⟩
      · rintro ⟨unfenced, granted⟩
        cases granted with
        | supersede artifact successorRecord supersedes =>
            exact .supersede artifact successorRecord
              { supersedes with native := named.mpr unfenced }
  | retire id authority now =>
      cases supplied
      constructor
      · intro granted
        cases granted with
        | retire artifact retires =>
            exact ⟨named.mp retires.native, .retire artifact { retires with native }⟩
      · rintro ⟨unfenced, granted⟩
        cases granted with
        | retire artifact retires =>
            exact .retire artifact { retires with native := named.mpr unfenced }
  | revokeEvidence id reason authority =>
      cases supplied
      constructor
      · intro granted
        cases granted with
        | revokeEvidence record revokes =>
            exact ⟨named.mp revokes.native, .revokeEvidence record { revokes with native }⟩
      · rintro ⟨unfenced, granted⟩
        cases granted with
        | revokeEvidence record revokes =>
            exact .revokeEvidence record { revokes with native := named.mpr unfenced }
  | _ => cases supplied

theorem commit_plans (engine : Engine) (plan : PromotionPlan) (now : UInt64) :
    (engine.commit plan now).2.state.plans = engine.state.plans := by
  have effect := @commit_effect engine plan now
  generalize engine.commit plan now = outcome at effect ⊢
  obtain ⟨answer, next⟩ := outcome
  cases effect with
  | closed released _ _ _ _ changed =>
      have plans := congrArg Control.plans changed
      cases released <;> exact plans
  | idle _ changed | committed _ _ _ _ _ changed => exact congrArg Control.plans changed

theorem promote_inert_iff (sound : engine.Sound) {request : PromotionRequest}
    {now later : UInt64} :
    Inert engine.state (engine.promote request now later).2.state ↔
      ¬∃ artifact, engine.Plans request now artifact := by
  have inert := @evaluate_inert_iff engine sound request now
  have kept := @evaluate_plans_kept_iff engine sound request now
  have planned := @evaluate_plans_iff engine sound request now
  unfold promote
  generalize engine.evaluate request now = outcome at inert kept planned ⊢
  obtain ⟨answer, middle⟩ := outcome
  cases answer with
  | error status => exact inert
  | ok result =>
      dsimp only at inert kept planned ⊢
      split
      · exact inert
      · rename_i hasPlan
        have hasPlan : result.hasPlan = true := by simpa using hasPlan
        refine iff_of_false ?_ (not_not.mpr (planned.mp ⟨result, rfl, hasPlan⟩))
        -- The commit drops no plan, so the one the evaluation stored is still there.
        intro inert
        refine kept.mp ?_ ⟨result, rfl, hasPlan⟩
        intro id plan present
        rw [← commit_plans middle result.plan later] at present
        exact inert.plans id plan present

end Engine

theorem Reachable.authority_valid {engine : Engine} (reachable : Reachable engine) :
    engine.AuthorityValid := by
  obtain ⟨start, trace, constructed, run⟩ := reachable
  have kept := run.invariant (fun engine => engine.Sound ∧ engine.AuthorityValid)
    (fun _ _ _ _ held moved => ⟨Engine.sound_step held.1 moved,
      Engine.step_authority_valid held.1 held.2 moved⟩)
    ⟨constructed.sound, (Engine.constructed_wellFormed constructed).authority⟩
  exact kept.2

namespace Engine

variable {engine next : Engine} {authority : CoordinatorAuthority}

/-- In every reachable state a valid authority other than the current one has an effect exactly
where the operation does not tell the two apart and the current authority would pass every
check. -/
theorem stale_authority_inert_iff (reachable : Reachable engine) (valid : authority.valid = true)
    (stale : authority ≠ engine.state.authority) :
    (∀ op reply next, op.authority? = some authority →
      engine.perform op = some (reply, next) → (Inert engine.state next.state ↔
        ¬(engine.Unfenced op ∧ engine.Granted (op.under engine.state.authority)))) ∧
    ∀ (request : PromotionRequest) (now later : UInt64), request.authority = authority →
      (Inert engine.state (engine.promote request now later).2.state ↔
        ¬(engine.Unfenced (.evaluate request now) ∧
          engine.Granted (.evaluate (request.under engine.state.authority) now))) := by
  have sound := reachable.sound
  have current := reachable.authority_valid
  constructor
  · intro op reply next supplied moved
    rw [← granted_under current supplied valid stale]
    exact ⟨fun inert granted => granted_stirs sound moved granted inert,
      refused_inert sound supplied moved⟩
  · intro request now later supplied
    subst supplied
    have renewed : engine.Granted (.evaluate request now) ↔
        engine.Unfenced (.evaluate request now) ∧
          engine.Granted (.evaluate (request.under engine.state.authority) now) :=
      granted_under current rfl valid stale
    rw [promote_inert_iff sound, ← granted_evaluate_iff, renewed]

def restartedChoices : List (Engine → Op) :=
  [fun _ => .publishPolicy retiringPolicy,
    fun _ => .registerArtifact (sampleRegistration 1) 0,
    fun _ => .restart ⟨2⟩]

def firstAuthority (engine : Engine) : CoordinatorAuthority := ⟨engine.state.coordinator, ⟨1⟩⟩

def retiresStale (engine : Engine) : Bool :=
  engine.firstAuthority.valid && engine.firstAuthority != engine.state.authority &&
    (engine.state.findCurrent ⟨0, 5⟩).any (·.stage == .candidate) &&
    ((engine.retire ⟨0, 5⟩ engine.firstAuthority 0).2.state.findCurrent ⟨0, 5⟩).any
      (·.stage == .retired)

theorem restarted_retiresStale :
    ∃ engine, Reachable engine ∧ engine.retiresStale = true := by
  have evaluated : ((play step sampleEngine restartedChoices).any fun played =>
      retiresStale played.2) = true := by
    decide +kernel
  exact Reachable.of_play retiresStale sampleEngine_constructed evaluated

theorem stale_authority_inert_iff_foreign :
    ∃ (engine : Engine) (foreign : CoordinatorAuthority) (reply : Reply) (next : Engine),
      Reachable engine ∧ foreign.valid = true ∧ foreign ≠ engine.state.authority ∧
        engine.perform (.retire ⟨0, 5⟩ foreign 0) = some (reply, next) ∧
        Inert engine.state next.state := by
  have evaluated : ((play step sampleEngine restartedChoices).any fun played =>
      played.2.state.coordinator != ⟨9, 9⟩) = true := by
    decide +kernel
  obtain ⟨engine, reachable, apart⟩ := Reachable.of_play
    (fun engine => engine.state.coordinator != ⟨9, 9⟩) sampleEngine_constructed evaluated
  have foreign : (⟨9, 9⟩ : CoordinatorId) ≠ engine.state.coordinator := by
    intro same
    simp [same] at apart
  have stale : (⟨⟨9, 9⟩, ⟨1⟩⟩ : CoordinatorAuthority) ≠ engine.state.authority := by
    intro same
    exact foreign (congrArg CoordinatorAuthority.coordinator same)
  have inert := (stale_authority_inert_iff reachable (by decide) stale).1
    (.retire ⟨0, 5⟩ ⟨⟨9, 9⟩, ⟨1⟩⟩ 0) _ _ rfl rfl
  exact ⟨engine, _, _, _, reachable, by decide, stale, rfl,
    inert.mpr fun effective => foreign effective.1⟩

/-- After a restart the authority of the epoch before still retires an artifact. -/
theorem stale_epoch_retires :
    ¬∀ (engine : Engine) (authority : CoordinatorAuthority) (op : Op) (reply : Reply)
      (next : Engine), Reachable engine → op.authority? = some authority →
      authority.valid = true → authority ≠ engine.state.authority →
      engine.perform op = some (reply, next) → Inert engine.state next.state := by
  intro fenced
  obtain ⟨engine, reachable, checked⟩ := restarted_retiresStale
  simp only [retiresStale, Bool.and_eq_true, bne_iff_ne, Option.any_eq_true, beq_iff_eq]
    at checked
  obtain ⟨⟨⟨valid, stale⟩, before, held, candidate⟩, after, moved, retired⟩ := checked
  have inert := fenced engine engine.firstAuthority
    (.retire ⟨0, 5⟩ engine.firstAuthority 0) _ _ reachable rfl valid stale rfl
  rw [CoordinatorState.findCurrent, CoordinatorState.chain, inert.artifacts,
    ← CoordinatorState.chain, ← CoordinatorState.findCurrent, held, Option.some.injEq] at moved
  rw [← moved, candidate] at retired
  cases retired

end Engine

end ArtifactPromotion
