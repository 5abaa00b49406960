import ArtifactPromotion.Domain.ValidPolicies
import ArtifactPromotion.Engine.PlannedStages
import ArtifactPromotion.Engine.Reloads

/-! The active policy is always a valid one, and how far the stages of the revisions move along its
lifecycle graph. -/

namespace ArtifactPromotion

open Runs

namespace PromotionPolicy

theorem reference_validated : LifecycleGraph.reference.validate .candidate = some (.ok ()) := by
  decide +kernel

theorem referenceRules_checked :
    checkEach (checkRule .reference) referenceRules = .ok () := by decide +kernel

theorem reference_valid {id : PromotionPolicyId} {generation : PolicyGeneration}
    (named : id.valid = true) (advanced : generation.valid = true) :
    (makeReferencePolicy id generation).validate = some (.ok ()) := by
  rw [validate_eq_ok]
  refine ⟨?_, reference_validated, referenceRules_checked, rfl⟩
  have invalid : (makeReferencePolicy id generation).id.invalid = false := by
    change (!id.valid) = false
    rw [named]
    rfl
  have counted : (makeReferencePolicy id generation).generation.valid = true := advanced
  have name : isValidName (makeReferencePolicy id generation).name = true := by
    change isValidName (text "reference-policy") = true
    decide
  have few : decide ((makeReferencePolicy id generation).rules.length > kMaxRules) = false := by
    change decide (referenceRules.length > kMaxRules) = false
    decide
  unfold checkHeader
  rw [invalid, counted, name, few]
  rfl

end PromotionPolicy

def Op.movesStages : Op → Bool
  | .commit _ _ | .quarantine _ _ _ _ | .releaseQuarantine _ _ _ _ | .revoke _ _ _ _ _ _ _
  | .supersede _ _ _ _ _ | .retire _ _ _ => true
  | _ => false

namespace Engine

variable {engine next : Engine}

def PolicyValid (engine : Engine) : Prop := engine.state.policy.validate = some (.ok ())

theorem verifyConsistency_policy {state : CoordinatorState}
    (consistent : state.verifyConsistency = some (.ok ())) :
    state.policy.validate = some (.ok ()) := by
  unfold CoordinatorState.verifyConsistency at consistent
  dsimp only at consistent
  split at consistent
  · simp at consistent
  · obtain ⟨verdict, validated, checked⟩ := Option.map_eq_some_iff.mp consistent
    rw [bind_eq_ok] at checked
    obtain ⟨done, rfl, _⟩ := checked
    exact validated

theorem step_policy_valid {op : Op} {reply : Reply}
    (moved : engine.step op = some (reply, next)) (valid : engine.PolicyValid) :
    next.PolicyValid := by
  have kept (same : next.control.policy = engine.control.policy) : next.PolicyValid := by
    unfold PolicyValid
    rw [show next.state.policy = engine.state.policy from same]
    exact valid
  cases step_effect moved with
  | published validated _ changed =>
      have policy := congrArg Control.policy changed
      unfold PolicyValid
      rw [show next.state.policy = _ from policy]
      exact validated
  | closed released _ _ _ _ changed =>
      refine kept ?_
      rw [changed]
      cases released <;> rfl
  | reloaded _ _ => exact verifyConsistency_policy (reload_consistent moved)
  | idle _ changed | restarted _ changed | recovered changed
  | compatibilityMoved _ changed | registrationRefused _ _ changed
  | registered _ _ _ _ _ _ _ changed | submitted _ _ _ _ changed | undecided _ _ _ changed
  | decided _ _ _ _ _ _ changed | issued _ _ _ _ _ _ changed | committed _ _ _ _ _ changed
  | quarantined _ _ _ _ changed | releaseRefused _ _ changed
  | released _ _ _ _ _ _ _ _ changed | revoked _ _ _ _ _ _ changed
  | superseded _ _ _ _ _ _ changed | retired _ _ _ changed | evidenceRevoked _ _ changed =>
      have same := congrArg Control.policy changed
      exact kept same

theorem create_policy_valid (config : EngineConfig) (epoch : CoordinatorEpoch)
    (salting naming : UInt64) : (create config epoch salting naming).PolicyValid := by
  refine PromotionPolicy.reference_valid ?_ rfl
  simp [Identity.valid]

theorem run_policy_valid {start final : Engine} {trace : List EngineStep}
    (constructed : Constructed start) (run : EngineRun start trace final) : final.PolicyValid := by
  obtain ⟨config, epoch, salting, naming, rfl⟩ := constructed
  exact run.invariant PolicyValid (fun _ _ _ _ valid moved => step_policy_valid moved valid)
    (create_policy_valid config epoch salting naming)

/-- The decision a revocation cites: the one it names, or the one that promoted the revision. -/
def revocationTarget (decision : PromotionDecisionId) (artifact : ArtifactRecord) :
    PromotionDecisionId :=
  if decision.invalid then artifact.promotionDecision else decision

structure Revokes (engine : Engine) (id : ArtifactId) (decision : PromotionDecisionId)
    (reasonClass : Text) (authority : CoordinatorAuthority) (cause : EvidenceId)
    (artifact : ArtifactRecord) : Prop where
  classNamed : isValidName reasonClass = true
  admitted : engine.admissionOpen = true
  found : engine.state.findCurrent id = some artifact
  unrevoked : artifact.revocation.active = false
  native : foreignAuthority engine.state authority = false
  entitled : decision.invalid = true → artifact.promoted = true ∧
    artifact.promotionDecision.invalid = false
  held : engine.state.decisions.contains (revocationTarget decision artifact) = true
  caused : cause.valid = true → engine.state.evidence.contains cause = true

theorem revoke_revokes (id : ArtifactId) (decision : PromotionDecisionId)
    (reasonClass detail : Text) (authority : CoordinatorAuthority) (cause : EvidenceId)
    (now : UInt64) :
    (engine.revoke id decision reasonClass detail authority cause now).2 = engine ∨
      ∃ artifact, engine.Revokes id decision reasonClass authority cause artifact := by
  unfold revoke
  split
  · exact .inl rfl
  rename_i classNamed
  split
  · exact .inl rfl
  rename_i admitted
  cases found : engine.state.findCurrent id with
  | none => exact .inl rfl
  | some artifact =>
      dsimp only
      split
      · exact .inl rfl
      rename_i unrevoked
      split
      · exact .inl rfl
      rename_i native
      split
      · exact .inl rfl
      rename_i entitled
      rw [show (if decision.invalid = true then artifact.promotionDecision else decision) =
        revocationTarget decision artifact from rfl]
      split
      · exact .inl rfl
      rename_i held
      split
      · exact .inl rfl
      rename_i caused
      refine .inr ⟨artifact, by simpa using classNamed, by simpa using admitted, found,
        by simpa using unrevoked, by simpa using native, ?_, by simpa using held, ?_⟩
      · intro unnamed
        simpa [unnamed] using entitled
      · intro valid
        simpa [valid] using caused

theorem revokes_applies {id : ArtifactId} {decision : PromotionDecisionId} {reasonClass : Text}
    {authority : CoordinatorAuthority} {cause : EvidenceId} {artifact : ArtifactRecord}
    (revokes : engine.Revokes id decision reasonClass authority cause artifact) (detail : Text)
    (now : UInt64) :
    (engine.revoke id decision reasonClass detail authority cause now).2.control.artifacts =
      (engine.control.replaceCurrent id (revokedArtifact engine.state.advanceSequence artifact
        (revocationTarget decision artifact) reasonClass detail cause)).artifacts := by
  have entitled : (decision.invalid && (!artifact.promoted || artifact.promotionDecision.invalid)) =
      false := by
    cases unnamed : decision.invalid with
    | false => rfl
    | true =>
        obtain ⟨promoted, named⟩ := revokes.entitled unnamed
        rw [promoted, named]
        rfl
  have caused : (cause.valid && !engine.state.evidence.contains cause) = false := by
    cases valid : cause.valid with
    | false => rfl
    | true =>
        rw [revokes.caused valid]
        rfl
  have held := revokes.held
  unfold revocationTarget at held
  unfold revoke
  simp only [revokes.classNamed, revokes.admitted, revokes.found, revokes.unrevoked, revokes.native,
    entitled, held, caused, Bool.not_true, Bool.false_eq_true, ↓reduceIte]
  rfl

def releaseState (engine : Engine) : CoordinatorState :=
  { engine.state.openDecision with
    internalRequestGenerator := engine.state.internalRequestGenerator.advance
    internalAttemptGenerator := engine.state.internalAttemptGenerator.advance }

structure Releases (engine : Engine) (id : ArtifactId) (authority : CoordinatorAuthority)
    (now : UInt64) (artifact : ArtifactRecord) : Prop where
  admitted : engine.admissionOpen = true
  found : engine.state.findCurrent id = some artifact
  quarantined : artifact.quarantine.active = true
  native : foreignAuthority engine.state authority = false
  eligible : (evaluateGates engine.config engine.releaseState
    (releaseRequest engine.state id artifact) now
    (releaseDecision engine.state id artifact
      (releaseRequest engine.state id artifact))).result.failed = false

theorem release_releases (id : ArtifactId) (authority : CoordinatorAuthority) (now later : UInt64) :
    ((engine.releaseQuarantine id authority now later).2.control.artifacts =
          engine.control.artifacts ∧
        (engine.releaseQuarantine id authority now later).2.state.records =
          engine.state.records) ∨
      ∃ artifact, engine.Releases id authority now artifact := by
  unfold releaseQuarantine
  split
  · exact .inl ⟨rfl, rfl⟩
  rename_i admitted
  cases found : engine.state.findCurrent id with
  | none => exact .inl ⟨rfl, rfl⟩
  | some artifact =>
      dsimp only
      split
      · exact .inl ⟨rfl, rfl⟩
      rename_i quarantined
      split
      · exact .inl ⟨rfl, rfl⟩
      rename_i native
      split
      · exact .inl ⟨rfl, rfl⟩
      rename_i eligible
      exact .inr ⟨artifact, by simpa using admitted, found, by simpa using quarantined,
        by simpa using native, by simpa [releaseState] using eligible⟩

theorem releases_applies {id : ArtifactId} {authority : CoordinatorAuthority} {now : UInt64}
    {artifact : ArtifactRecord} (releases : engine.Releases id authority now artifact)
    (later : UInt64) :
    (engine.releaseQuarantine id authority now later).2.control.artifacts =
      (engine.control.replaceCurrent id
        (releasedArtifact engine.state.advanceSequence artifact)).artifacts := by
  have eligible := releases.eligible
  unfold releaseState at eligible
  unfold releaseQuarantine
  simp only [releases.admitted, releases.found, releases.quarantined, releases.native, eligible,
    Bool.not_true, Bool.false_eq_true, ↓reduceIte]
  rfl

theorem quarantine_legal (id : ArtifactId) (reasonClass detail : Text)
    (authority : CoordinatorAuthority) :
    (engine.quarantine id reasonClass detail authority).2 = engine ∨
      ∃ artifact, engine.state.findCurrent id = some artifact ∧
        engine.state.policy.graph.hasEdge artifact.stage .quarantined = true ∧
        (engine.quarantine id reasonClass detail authority).2.control.artifacts =
          (engine.control.replaceCurrent id (quarantinedArtifact engine.state.advanceSequence
            artifact reasonClass detail)).artifacts := by
  unfold quarantine
  split
  · exact .inl rfl
  split
  · exact .inl rfl
  split
  · exact .inl rfl
  cases found : engine.state.findCurrent id with
  | none => exact .inl rfl
  | some artifact =>
      dsimp only
      split
      · exact .inl rfl
      split
      · exact .inl rfl
      split
      · exact .inl rfl
      rename_i legal
      exact .inr ⟨artifact, rfl, by simpa using legal, rfl⟩

structure Supersedes (engine : Engine) (id successor : ArtifactId)
    (authority : CoordinatorAuthority) (artifact successorRecord : ArtifactRecord) : Prop where
  admitted : engine.admissionOpen = true
  named : successor.invalid = false
  distinct : successor ≠ id
  found : engine.state.findCurrent id = some artifact
  successorFound : engine.state.findCurrent successor = some successorRecord
  native : foreignAuthority engine.state authority = false
  unsuperseded : artifact.supersession.active = false
  open_ : artifact.stage ≠ .revoked ∧ artifact.stage ≠ .retired
  legal : engine.state.policy.graph.hasEdge artifact.stage .superseded = true

theorem supersede_supersedes (id successor : ArtifactId) (reason : Text)
    (authority : CoordinatorAuthority) (now : UInt64) :
    (engine.supersede id successor reason authority now).2 = engine ∨
      ∃ artifact successorRecord,
        engine.Supersedes id successor authority artifact successorRecord := by
  unfold supersede
  split
  · exact .inl rfl
  rename_i admitted
  split
  · exact .inl rfl
  rename_i named
  split
  · exact .inl rfl
  rename_i distinct
  cases found : engine.state.findCurrent id with
  | none => exact .inl rfl
  | some artifact =>
      cases successorFound : engine.state.findCurrent successor with
      | none => exact .inl rfl
      | some successorRecord =>
          dsimp only
          split
          · exact .inl rfl
          rename_i native
          split
          · exact .inl rfl
          rename_i unsuperseded
          split
          · exact .inl rfl
          rename_i open_
          split
          · exact .inl rfl
          rename_i legal
          exact .inr ⟨artifact, successorRecord, by simpa using admitted, by simpa using named,
            distinct, found, successorFound, by simpa using native, by simpa using unsuperseded,
            by simpa using open_, by simpa using legal⟩

theorem supersedes_applies {id successor : ArtifactId} {authority : CoordinatorAuthority}
    {artifact successorRecord : ArtifactRecord}
    (supersedes : engine.Supersedes id successor authority artifact successorRecord) (reason : Text)
    (now : UInt64) :
    (engine.supersede id successor reason authority now).2.control.artifacts =
      (engine.control.replaceCurrent id (supersededArtifact engine.state.advanceSequence artifact
        successorRecord successor reason)).artifacts := by
  unfold supersede
  simp only [supersedes.admitted, supersedes.named, supersedes.distinct, supersedes.found,
    supersedes.successorFound, supersedes.native, supersedes.unsuperseded, supersedes.open_.1,
    supersedes.open_.2, supersedes.legal, Bool.not_true, Bool.false_eq_true, decide_false,
    Bool.or_self, ↓reduceIte]
  rfl

structure Retires (engine : Engine) (id : ArtifactId) (authority : CoordinatorAuthority)
    (artifact : ArtifactRecord) : Prop where
  admitted : engine.admissionOpen = true
  found : engine.state.findCurrent id = some artifact
  native : foreignAuthority engine.state authority = false
  unretired : artifact.stage ≠ .retired
  legal : engine.state.policy.graph.hasEdge artifact.stage .retired = true

theorem retire_retires (id : ArtifactId) (authority : CoordinatorAuthority) (now : UInt64) :
    (engine.retire id authority now).2 = engine ∨
      ∃ artifact, engine.Retires id authority artifact := by
  unfold retire
  split
  · exact .inl rfl
  rename_i admitted
  cases found : engine.state.findCurrent id with
  | none => exact .inl rfl
  | some artifact =>
      dsimp only
      split
      · exact .inl rfl
      rename_i native
      split
      · exact .inl rfl
      rename_i unretired
      split
      · exact .inl rfl
      rename_i legal
      exact .inr ⟨artifact, by simpa using admitted, found, by simpa using native, unretired,
        by simpa using legal⟩

theorem retires_applies {id : ArtifactId} {authority : CoordinatorAuthority}
    {artifact : ArtifactRecord} (retires : engine.Retires id authority artifact) (now : UInt64) :
    (engine.retire id authority now).2.control.artifacts =
        (engine.control.replaceCurrent id
          (retiredArtifact engine.state.advanceSequence artifact)).artifacts ∧
      (engine.retire id authority now).2.state.records =
        putBounded engine.config.maxRecordsRetained engine.state.records
          engine.state.transitionGenerator.next (trustRecord engine.state.advanceSequence
            (retiredArtifact engine.state.advanceSequence artifact) artifact.stage .retired
            artifact.promotionDecision now (text "retired")) := by
  unfold retire
  simp only [retires.admitted, retires.found, retires.native, retires.unretired, retires.legal,
    Bool.not_true, Bool.false_eq_true, ↓reduceIte]
  exact ⟨rfl, rfl⟩

/-- Every stage that changed moved along an edge of the graph that was active. -/
def FollowsGraph (engine next : Engine) : Prop :=
  ∀ (id : ArtifactId) (index : Nat) (record revised : ArtifactRecord),
    (engine.state.chain id)[index]? = some record → (next.state.chain id)[index]? = some revised →
      revised.stage ≠ record.stage →
        engine.state.policy.graph.hasEdge record.stage revised.stage = true

/-- The operation revokes a revision in a stage without an edge to Revoked, or releases one in a
stage without an edge to Candidate. -/
inductive MovesOffGraph (engine : Engine) : Op → Prop
  | revoke {id decision reasonClass detail authority cause now} (artifact : ArtifactRecord)
      (revokes : engine.Revokes id decision reasonClass authority cause artifact)
      (open_ : artifact.stage ≠ .revoked)
      (off : engine.state.policy.graph.hasEdge artifact.stage .revoked = false) :
      MovesOffGraph engine (.revoke id decision reasonClass detail authority cause now)
  | release {id authority now later} (artifact : ArtifactRecord)
      (releases : engine.Releases id authority now artifact) (open_ : artifact.stage ≠ .candidate)
      (off : engine.state.policy.graph.hasEdge artifact.stage .candidate = false) :
      MovesOffGraph engine (.releaseQuarantine id authority now later)

theorem mutated_next {answer : Result TrustMutation × Engine} {reply : Reply}
    (answered : answerWith .mutated answer = some (reply, next)) : answer.2 = next := by
  simp only [answerWith, Option.some.injEq, Prod.mk.injEq] at answered
  exact answered.2

theorem chain_replaceCurrent {id : ArtifactId} {record : ArtifactRecord}
    (replaced : next.control.artifacts = (engine.control.replaceCurrent id record).artifacts) :
    next.state.chain id = (engine.state.chain id).dropLast ++ [record] := by
  change next.control.chain id = (engine.control.chain id).dropLast ++ [record]
  rw [Control.chain, replaced]
  have set := Control.chain_setChain engine.control id id
    ((engine.control.chain id).dropLast ++ [record])
  rw [if_pos rfl] at set
  exact set

theorem replaced_current {id : ArtifactId} {artifact changed : ArtifactRecord}
    (found : engine.state.findCurrent id = some artifact)
    (replaced : next.control.artifacts = (engine.control.replaceCurrent id changed).artifacts) :
    ∃ index : Nat, (engine.state.chain id)[index]? = some artifact ∧
      (next.state.chain id)[index]? = some changed := by
  have last : (engine.state.chain id).getLast? = some artifact := found
  have nonempty : engine.state.chain id ≠ [] := by
    intro empty
    simp [empty] at last
  have positive := List.length_pos_of_ne_nil nonempty
  rw [List.getLast?_eq_getElem?] at last
  refine ⟨(engine.state.chain id).length - 1, last, ?_⟩
  rw [chain_replaceCurrent replaced, getElem?_dropLast_append nonempty, if_pos (by omega)]

theorem promotedArtifact_stage (state : CoordinatorState) (plan : PromotionPlan)
    (artifact : ArtifactRecord) : (promotedArtifact state plan artifact).stage = plan.target := by
  unfold promotedArtifact
  split <;> rfl

theorem commit_edge (valid : engine.PolicyValid) {plan : PromotionPlan} {now : UInt64}
    {artifact : ArtifactRecord} (accepts : engine.Accepts plan now artifact) :
    engine.state.policy.graph.hasEdge artifact.stage plan.target = true := by
  obtain ⟨other, rule, found, governed, _⟩ := evaluateGates_eligible accepts.eligible
  have same : other = artifact := Option.some.inj (found.symm.trans accepts.found)
  rw [same] at governed
  exact PromotionPolicy.findRule_edge valid governed

/-- One operation follows the graph exactly when it does not revoke or release off it. -/
theorem step_follows_iff (sound : engine.Sound) (valid : engine.PolicyValid) {op : Op}
    {reply : Reply} (moved : engine.step op = some (reply, next)) (moves : op.movesStages = true) :
    FollowsGraph engine next ↔ ¬MovesOffGraph engine op := by
  have performed := (step_eq_some moved).1
  constructor
  · rintro follows off
    cases off with
    | revoke artifact revokes open_ off =>
        rename_i detail _ _ now
        have applied := revokes_applies revokes detail now
        rw [mutated_next performed] at applied
        obtain ⟨index, before, after⟩ := replaced_current revokes.found applied
        have edge := follows _ index _ _ before after (fun same => open_ same.symm)
        exact absurd edge (by rw [revokedArtifact, off]; simp)
    | release artifact releases open_ off =>
        rename_i later
        have applied := releases_applies releases later
        rw [mutated_next performed] at applied
        obtain ⟨index, before, after⟩ := replaced_current releases.found applied
        have edge := follows _ index _ _ before after (fun same => open_ same.symm)
        exact absurd edge (by rw [releasedArtifact, off]; simp)
  · intro on id index record revised before after changed
    have unmoved (same : next.control.artifacts = engine.control.artifacts) : False := by
      have chains : next.control.chain id = engine.control.chain id := by
        rw [Control.chain, same, Control.chain]
      change (next.control.chain id)[index]? = some revised at after
      rw [chains] at after
      exact changed (congrArg ArtifactRecord.stage (Option.some.inj (after.symm.trans before)))
    cases step_revised sound moved before after with
    | kept => exact absurd rfl changed
    | restored => simp [Op.movesStages] at moves
    | overtaken state revision named current fresh => simp [Op.movesStages] at moves
    | applied named first accepts =>
        rw [promotedArtifact_stage]
        exact commit_edge valid accepts
    | quarantined current unquarantined open_ =>
        rcases quarantine_legal _ _ _ _ with unchanged | ⟨artifact, found, edge, _⟩
        · rw [mutated_next performed] at unchanged
          exact (unmoved (by rw [unchanged])).elim
        · have same := (current_found current before).symm.trans found
          rw [Option.some.inj same]
          exact edge
    | released current active granted =>
        rcases release_releases _ _ _ _ with unchanged | ⟨artifact, releases⟩
        · rw [mutated_next performed] at unchanged
          exact (unmoved unchanged.1).elim
        · have same := Option.some.inj ((current_found current before).symm.trans releases.found)
          subst same
          by_contra off
          exact on (.release record releases (fun same => changed same.symm)
            (Bool.not_eq_true _ ▸ off))
    | revoked target current unrevoked held =>
        rcases revoke_revokes _ _ _ _ _ _ _ with unchanged | ⟨artifact, revokes⟩
        · rw [mutated_next performed] at unchanged
          exact (unmoved (by rw [unchanged])).elim
        · have same := Option.some.inj ((current_found current before).symm.trans revokes.found)
          subst same
          by_contra off
          exact on (.revoke record revokes (fun same => changed same.symm)
            (Bool.not_eq_true _ ▸ off))
    | superseded successorRecord current unsuperseded open_ found =>
        rcases supersede_supersedes _ _ _ _ _ with unchanged | ⟨artifact, _, supersedes⟩
        · rw [mutated_next performed] at unchanged
          exact (unmoved (by rw [unchanged])).elim
        · have same := (current_found current before).symm.trans supersedes.found
          rw [Option.some.inj same]
          exact supersedes.legal
    | retired current unretired =>
        rcases retire_retires _ _ _ with unchanged | ⟨artifact, retires⟩
        · rw [mutated_next performed] at unchanged
          exact (unmoved (by rw [unchanged])).elim
        · have same := (current_found current before).symm.trans retires.found
          rw [Option.some.inj same]
          exact retires.legal

/-- In every run, under every published policy, the stage moves of an operation follow the active
graph exactly when the operation does not revoke or release a revision off it. -/
theorem run_follows_graph_iff {start final : Engine} {trace : List EngineStep}
    (constructed : Constructed start) (run : EngineRun start trace final) {step : EngineStep}
    (executed : step ∈ trace) (moves : step.input.movesStages = true) :
    FollowsGraph step.before step.after ↔ ¬MovesOffGraph step.before step.input := by
  obtain ⟨past, future, rfl⟩ := List.append_of_mem executed
  obtain ⟨before, moved, _⟩ := run.cut
  exact step_follows_iff (EngineRun.sound before constructed.sound)
    (run_policy_valid constructed before) moved moves

def retireChoices : List (Engine → Op) :=
  [fun _ => .publishPolicy retiringPolicy,
    fun _ => .registerArtifact (sampleRegistration 1) 0,
    fun engine => .retire ⟨0, 5⟩ engine.state.authority 0]

def retiresCandidate (step : EngineStep) : Bool :=
  match step.input with
  | .retire id _ _ => (step.before.state.findCurrent id).any (·.stage == .candidate) &&
      (step.after.state.findCurrent id).any (·.stage == .retired)
  | _ => false

theorem run_follows_graph_iff_retired :
    ∃ (trace : List EngineStep) (final : Engine) (step : EngineStep),
      EngineRun sampleEngine trace final ∧ step ∈ trace ∧ retiresCandidate step = true ∧
        FollowsGraph step.before step.after := by
  have evaluated : ((play step sampleEngine retireChoices).any fun played =>
      played.1.any retiresCandidate) = true := by
    decide +kernel
  obtain ⟨trace, final, run, checked⟩ := run_of_checked evaluated
  obtain ⟨last, executed, retires⟩ := List.any_eq_true.mp checked
  refine ⟨trace, final, last, run, executed, retires, ?_⟩
  unfold retiresCandidate at retires
  split at retires
  · rename_i id authority now input
    refine (run_follows_graph_iff sampleEngine_constructed run executed (by rw [input]; rfl)).mpr ?_
    rw [input]
    intro off
    cases off
  · simp at retires

def revokeCandidateChoices : List (Engine → Op) :=
  [fun _ => .registerArtifact (sampleRegistration 1) 0,
    fun engine => .evaluate engine.strayRequest 0,
    fun engine => .revoke ⟨0, 5⟩ (engine.state.decisions.keys.head?.getD {}) (text "audit") []
      engine.state.authority {} 0]

def revokesOffGraph (step : EngineStep) : Bool :=
  match step.input, (step.before.state.chain ⟨0, 5⟩)[0]?, (step.after.state.chain ⟨0, 5⟩)[0]? with
  | .revoke _ _ _ _ _ _ _, some record, some revised => revised.stage != record.stage &&
      !step.before.state.policy.graph.hasEdge record.stage revised.stage
  | _, _, _ => false

theorem revocation_leaves_graph :
    ∃ (trace : List EngineStep) (final : Engine) (step : EngineStep),
      EngineRun sampleEngine trace final ∧ step ∈ trace ∧ step.input.movesStages = true ∧
        ¬FollowsGraph step.before step.after := by
  have evaluated : ((play step sampleEngine revokeCandidateChoices).any fun played =>
      played.1.any revokesOffGraph) = true := by
    decide +kernel
  obtain ⟨trace, final, run, checked⟩ := run_of_checked evaluated
  obtain ⟨last, executed, revokes⟩ := List.any_eq_true.mp checked
  unfold revokesOffGraph at revokes
  split at revokes
  · rename_i record revised input before after
    refine ⟨trace, final, last, run, executed, by rw [input]; rfl, ?_⟩
    intro follows
    simp only [Bool.and_eq_true, bne_iff_ne, Bool.not_eq_true'] at revokes
    have edge := follows _ _ record revised before after revokes.1
    rw [revokes.2] at edge
    simp at edge
  · simp at revokes

end Engine

end ArtifactPromotion
