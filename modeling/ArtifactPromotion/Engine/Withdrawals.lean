import ArtifactPromotion.Engine.Lifecycle
import ArtifactPromotion.Engine.Links

/-! How far a withdrawal of trust reaches within the chain of its artifact, and which decision a
revocation cites. -/

namespace ArtifactPromotion

open Runs

def Op.withdraws : Op → Option ArtifactId
  | .quarantine id _ _ _ | .revoke id _ _ _ _ _ _ | .supersede id _ _ _ _ | .retire id _ _ => some id
  | _ => none

namespace Engine

variable {engine next : Engine}

theorem withdrawal_applies {op : Op} {reply : Reply} {id : ArtifactId}
    (moved : engine.step op = some (reply, next)) (withdraws : op.withdraws = some id)
    (changed : next.state ≠ engine.state) :
    ∃ withdrawn : ArtifactRecord, withdrawn.stage ≠ .promoted ∧
      next.control.artifacts = (engine.control.replaceCurrent id withdrawn).artifacts := by
  have performed := (step_eq_some moved).1
  cases op with
  | quarantine other reasonClass detail authority =>
      cases withdraws
      rcases quarantine_legal id reasonClass detail authority with unchanged | ⟨_, _, _, applied⟩
      · rw [mutated_next performed] at unchanged
        exact absurd (by rw [unchanged]) changed
      · rw [mutated_next performed] at applied
        exact ⟨_, by simp [quarantinedArtifact], applied⟩
  | revoke other decision reasonClass detail authority cause now =>
      cases withdraws
      rcases revoke_revokes id decision reasonClass detail authority cause now with
        unchanged | ⟨artifact, revokes⟩
      · rw [mutated_next performed] at unchanged
        exact absurd (by rw [unchanged]) changed
      · have applied := revokes_applies revokes detail now
        rw [mutated_next performed] at applied
        exact ⟨_, by simp [revokedArtifact], applied⟩
  | supersede other successor reason authority now =>
      cases withdraws
      rcases supersede_supersedes id successor reason authority now with
        unchanged | ⟨_, _, supersedes⟩
      · rw [mutated_next performed] at unchanged
        exact absurd (by rw [unchanged]) changed
      · have applied := supersedes_applies supersedes reason now
        rw [mutated_next performed] at applied
        exact ⟨_, by simp [supersededArtifact], applied⟩
  | retire other authority now =>
      cases withdraws
      rcases retire_retires id authority now with unchanged | ⟨_, retires⟩
      · rw [mutated_next performed] at unchanged
        exact absurd (by rw [unchanged]) changed
      · have applied := (retires_applies retires now).1
        rw [mutated_next performed] at applied
        exact ⟨_, by simp [retiredArtifact], applied⟩
  | _ => cases withdraws

/-- In every state, after a withdrawal no revision of the artifact holds authority exactly when no
revision but the current one held it before. -/
theorem withdrawal_reaches_iff {op : Op} {reply : Reply} {id : ArtifactId}
    (moved : engine.step op = some (reply, next))
    (withdraws : op.withdraws = some id) (changed : next.state ≠ engine.state) :
    (∀ record ∈ next.state.chain id, record.currentlyAuthoritative = false) ↔
      ∀ record ∈ (engine.state.chain id).dropLast, record.currentlyAuthoritative = false := by
  obtain ⟨withdrawn, open_, applied⟩ := withdrawal_applies moved withdraws changed
  have powerless : withdrawn.currentlyAuthoritative = false := by
    have unpromoted : (withdrawn.stage == .promoted) = false := by simpa using open_
    rw [ArtifactRecord.currentlyAuthoritative, unpromoted]
    simp
  rw [chain_replaceCurrent applied]
  constructor
  · intro none_ record inside
    exact none_ record (List.mem_append_left _ inside)
  · intro none_ record inside
    rcases List.mem_append.mp inside with before | last
    · exact none_ record before
    · rw [List.mem_singleton.mp last]
      exact powerless

def retiresPromoted (engine : Engine) : Bool :=
  (engine.state.findCurrent ⟨0, 5⟩).any ArtifactRecord.currentlyAuthoritative &&
    (engine.state.chain ⟨0, 5⟩).length == 1 &&
    (engine.step (.retire ⟨0, 5⟩ engine.state.authority 0)).any fun moved =>
      (moved.2.state.findCurrent ⟨0, 5⟩).any (·.stage == .retired)

def revokeOvertaken (engine : Engine) : Option (Engine × Engine) := do
  let promotion := ((engine.state.findCurrent ⟨0, 5⟩).getD {}).promotionDecision
  let overtaken ← engine.step (.registerArtifact (sampleRegistration 2) 0)
  let revoked ← overtaken.2.step (.revoke ⟨0, 5⟩ promotion (text "audit") []
    engine.state.authority {} 0)
  return (overtaken.2, revoked.2)

def survivesRevocation (engine : Engine) : Bool :=
  engine.revokeOvertaken.any fun pair =>
    (pair.1.state.findCurrent ⟨0, 5⟩).any (·.stage == .candidate) &&
    (pair.2.state.findCurrent ⟨0, 5⟩).any (·.stage == .revoked) &&
    (pair.2.state.chain ⟨0, 5⟩)[0]?.any ArtifactRecord.currentlyAuthoritative

theorem promoted_withdrawals :
    ∃ engine, Reachable engine ∧ (retiresPromoted engine && survivesRevocation engine) = true := by
  have evaluated : ((play step sampleEngine promoteChoices).any fun played =>
      retiresPromoted played.2 && survivesRevocation played.2) = true := by
    rw [promote_played]
    decide +kernel
  exact Reachable.of_play (fun engine => retiresPromoted engine && survivesRevocation engine)
    sampleEngine_constructed evaluated

theorem stage_changed {first second : Stage}
    (before : (engine.state.findCurrent ⟨0, 5⟩).any (·.stage == first) = true)
    (after : (next.state.findCurrent ⟨0, 5⟩).any (·.stage == second) = true)
    (differ : first ≠ second) : next.state ≠ engine.state := by
  intro same
  rw [same] at after
  simp only [Option.any_eq_true, beq_iff_eq] at before after
  obtain ⟨old, found, rfl⟩ := before
  obtain ⟨new, again, rfl⟩ := after
  have equal : old = new := Option.some.inj (found.symm.trans again)
  exact differ (by rw [equal])

theorem withdrawal_reaches_iff_retired :
    ∃ (engine next : Engine) (reply : Reply), Reachable engine ∧
      engine.step (.retire ⟨0, 5⟩ engine.state.authority 0) = some (reply, next) ∧
      (engine.state.findCurrent ⟨0, 5⟩).any ArtifactRecord.currentlyAuthoritative = true ∧
      ∀ record ∈ next.state.chain ⟨0, 5⟩, record.currentlyAuthoritative = false := by
  obtain ⟨engine, reachable, checked⟩ := promoted_withdrawals
  simp only [Bool.and_eq_true, retiresPromoted, beq_iff_eq] at checked
  obtain ⟨⟨⟨authoritative, single⟩, retires⟩, _⟩ := checked
  rw [Option.any_eq_true] at retires
  obtain ⟨⟨reply, next⟩, moved, retired⟩ := retires
  refine ⟨engine, next, reply, reachable, moved, authoritative, ?_⟩
  have promoted : (engine.state.findCurrent ⟨0, 5⟩).any (·.stage == .promoted) = true := by
    simp only [Option.any_eq_true, ArtifactRecord.currentlyAuthoritative, Bool.and_eq_true]
      at authoritative ⊢
    obtain ⟨artifact, found, holds⟩ := authoritative
    exact ⟨artifact, found, holds.1.2⟩
  refine (withdrawal_reaches_iff moved rfl (stage_changed promoted retired (by decide))).mpr ?_
  obtain ⟨artifact, only⟩ := List.length_eq_one_iff.mp single
  rw [only]
  simp

/-- The revocation of the artifact leaves its promoted revision in authority. -/
theorem revoked_artifact_authoritative :
    ∃ (engine next : Engine) (op : Op) (reply : Reply) (id : ArtifactId), Reachable engine ∧
      engine.step op = some (reply, next) ∧ op.withdraws = some id ∧
      next.state ≠ engine.state ∧
      ∃ record ∈ next.state.chain id, record.currentlyAuthoritative = true := by
  obtain ⟨engine, reachable, checked⟩ := promoted_withdrawals
  simp only [Bool.and_eq_true, survivesRevocation, Option.any_eq_true] at checked
  obtain ⟨_, ⟨overtaken, next⟩, played, ⟨candidate, revoked⟩, record, held, authoritative⟩ := checked
  simp only [revokeOvertaken, Option.bind_eq_bind, Option.bind_eq_some_iff, Option.pure_def,
    Option.some.injEq, Prod.mk.injEq] at played
  obtain ⟨⟨reply, _⟩, registered, ⟨revocation, _⟩, moved, rfl, rfl⟩ := played
  obtain ⟨start, trace, constructed, run⟩ := reachable
  refine ⟨_, _, _, revocation, ⟨0, 5⟩, ⟨start, _, constructed,
    run.append (.cons registered (.nil _))⟩, moved, rfl, ?_, record, List.mem_of_getElem? held,
    authoritative⟩
  rw [← Option.any_eq_true] at candidate revoked
  exact stage_changed candidate revoked (by decide)

theorem supersedeByRegistration_eq (state : CoordinatorState) (revision : ArtifactRevision)
    (previous : ArtifactRecord) (id : ArtifactId) :
    ∃ stage stageGeneration, supersedeByRegistration state revision previous id =
      { previous with
        supersession :=
          { active := true, successor := id, successorRevision := revision
            reason := text "newer revision of the same artifact identity was registered"
            authority := state.stampAuthority, sequence := state.commitSequence }
        lastSequence := state.commitSequence, stage, stageGeneration } := by
  unfold supersedeByRegistration
  dsimp only
  split <;> exact ⟨_, _, rfl⟩

theorem promotedArtifact_eq (state : CoordinatorState) (plan : PromotionPlan)
    (artifact : ArtifactRecord) :
    ∃ promoted promotionDecision promotionAuthority promotionSequence,
      promotedArtifact state plan artifact =
        { artifact with
          stage := plan.target, stageGeneration := artifact.stageGeneration.next,
          lastSequence := state.commitSequence, promoted, promotionDecision, promotionAuthority,
          promotionSequence } := by
  unfold promotedArtifact
  dsimp only
  split <;> exact ⟨_, _, _, _, rfl⟩

def Cites (engine : Engine) (record : ArtifactRecord) (id : PromotionDecisionId) : Prop :=
  ∃ decision, engine.state.decisions[id]? = some decision ∧ decision.artifact = record.id ∧
    decision.artifactRevision = record.revision

def RevocationsOwn (engine : Engine) : Prop :=
  ∀ (id : ArtifactId) (record : ArtifactRecord), record ∈ engine.state.chain id →
    record.revocation.active = true → engine.Cites record record.revocation.decision

def PromotionsOwn (engine : Engine) : Prop :=
  ∀ (id : ArtifactId) (record : ArtifactRecord), record ∈ engine.state.chain id →
    record.promoted = true → engine.Cites record record.promotionDecision

/-- The operation revokes the current revision under a named decision about something else. -/
inductive RevokesForeign (engine : Engine) : Op → Prop
  | revoke {id decision reasonClass detail authority cause now} (artifact : ArtifactRecord)
      (revokes : engine.Revokes id decision reasonClass authority cause artifact)
      (named : decision.invalid = false) (foreign : ¬engine.Cites artifact decision) :
      RevokesForeign engine (.revoke id decision reasonClass detail authority cause now)

theorem step_cites (sound : engine.Sound) (linked : engine.Linked) {op : Op} {reply : Reply}
    (moved : engine.step op = some (reply, next)) {record : ArtifactRecord}
    {id : PromotionDecisionId} (cites : engine.Cites record id) : next.Cites record id := by
  obtain ⟨old, held, named, revised⟩ := cites
  obtain ⟨decision, present, _, _, _, sameArtifact, sameRevision⟩ :=
    step_subject sound linked moved held
  exact ⟨decision, present, sameArtifact.trans named, sameRevision.trans revised⟩

theorem step_revision (sound : engine.Sound) {op : Op} {reply : Reply}
    (moved : engine.step op = some (reply, next)) {id : ArtifactId} {record : ArtifactRecord}
    (inside : record ∈ next.state.chain id) :
    (∃ (index : Nat) (old : ArtifactRecord), (engine.state.chain id)[index]? = some old ∧
        (next.state.chain id)[index]? = some record ∧
        Revised engine id index op reply old record) ∨
      ∃ registration now stamped, op = .registerArtifact registration now ∧
        record = registrationRecord stamped registration engine.control.revisionGenerator.next
          now := by
  obtain ⟨index, held⟩ := List.mem_iff_getElem?.mp inside
  cases before : (engine.state.chain id)[index]? with
  | none =>
      obtain ⟨registration, now, stamped, op_eq, _, _, _, _, made⟩ :=
        (step_chains sound moved).2 id index record before held
      exact .inr ⟨registration, now, stamped, op_eq, made⟩
  | some old => exact .inl ⟨index, old, before, held, step_revised sound moved before held⟩

theorem accepted_cites (sound : engine.Sound) (linked : engine.Linked) {plan : PromotionPlan}
    {now : UInt64} {artifact : ArtifactRecord} (accepts : engine.Accepts plan now artifact) :
    engine.Cites artifact plan.decision := by
  obtain ⟨decision, held, _, _, named, revised⟩ := linked.plans _ plan accepts.stored
  have id_eq := findRevision_id sound.coherent accepts.found
  have revision_eq := (findRevision_mem accepts.found).2
  exact ⟨decision, held, named.trans id_eq.symm, revised.trans revision_eq.symm⟩

theorem step_promotions_own (sound : engine.Sound) (linked : engine.Linked)
    (own : engine.PromotionsOwn) {op : Op} {reply : Reply}
    (moved : engine.step op = some (reply, next)) : next.PromotionsOwn := by
  intro id record inside promoted
  apply step_cites sound linked moved
  rcases step_revision sound moved inside with ⟨index, old, before, _, change⟩ |
    ⟨registration, now, stamped, _, rfl⟩
  · have earlier := own id old (List.mem_of_getElem? before)
    cases change with
    | kept | restored | quarantined | released => exact earlier promoted
    | overtaken state revision named current fresh =>
        obtain ⟨_, _, same⟩ := supersedeByRegistration_eq state revision old _
        rw [same] at promoted ⊢
        exact earlier promoted
    | applied named first accepts =>
        have cites := accepted_cites sound linked accepts
        unfold promotedArtifact at promoted ⊢
        split
        · exact cites
        · rename_i elsewhere
          rw [if_neg elsewhere] at promoted
          exact earlier promoted
    | revoked target current unrevoked held => simp [revokedArtifact] at promoted
    | superseded => simp [supersededArtifact] at promoted
    | retired => simp [retiredArtifact] at promoted
  · simp [registrationRecord] at promoted

theorem revocation_cites {id : ArtifactId} {decision target : PromotionDecisionId}
    {reasonClass detail : Text} {authority : CoordinatorAuthority} {cause : EvidenceId}
    {now : UInt64} {reply : Reply}
    (moved : engine.step (.revoke id decision reasonClass detail authority cause now) =
      some (reply, next)) {index : Nat} {old : ArtifactRecord} (current : engine.Current id index)
    (before : (engine.state.chain id)[index]? = some old)
    (unrevoked : old.revocation.active = false)
    (after : (next.state.chain id)[index]? = some (revokedArtifact engine.state.advanceSequence old
      target reasonClass detail cause)) :
    engine.Revokes id decision reasonClass authority cause old ∧
      target = revocationTarget decision old := by
  have performed := (step_eq_some moved).1
  rcases revoke_revokes id decision reasonClass detail authority cause now with
    unchanged | ⟨artifact, revokes⟩
  · rw [mutated_next performed] at unchanged
    rw [unchanged, before] at after
    have same := congrArg (·.revocation.active) (Option.some.inj after)
    simp [revokedArtifact, unrevoked] at same
  · have same := Option.some.inj ((current_found current before).symm.trans revokes.found)
    subst same
    refine ⟨revokes, ?_⟩
    have applied := revokes_applies revokes detail now
    rw [mutated_next performed] at applied
    have nonempty : engine.state.chain id ≠ [] := List.ne_nil_of_mem (List.mem_of_getElem? before)
    have last : index + 1 = (engine.state.chain id).length := current
    rw [chain_replaceCurrent applied, getElem?_dropLast_append nonempty, if_pos last] at after
    have same := congrArg (·.revocation.decision) (Option.some.inj after)
    exact same.symm

theorem step_revocations_own (sound : engine.Sound) (linked : engine.Linked)
    (promotions : engine.PromotionsOwn) (own : engine.RevocationsOwn) {op : Op} {reply : Reply}
    (moved : engine.step op = some (reply, next)) (native : ¬engine.RevokesForeign op) :
    next.RevocationsOwn := by
  intro id record inside active
  apply step_cites sound linked moved
  rcases step_revision sound moved inside with ⟨index, old, before, after, change⟩ |
    ⟨registration, now, stamped, _, rfl⟩
  · have earlier := own id old (List.mem_of_getElem? before)
    cases change with
    | kept | restored | quarantined | released | superseded | retired => exact earlier active
    | overtaken state revision named current fresh =>
        obtain ⟨_, _, same⟩ := supersedeByRegistration_eq state revision old _
        rw [same] at active ⊢
        exact earlier active
    | applied named first accepts =>
        obtain ⟨_, _, _, _, same⟩ := promotedArtifact_eq engine.state.advanceSequence _ old
        rw [same] at active ⊢
        exact earlier active
    | revoked target current unrevoked held =>
        obtain ⟨revokes, rfl⟩ := revocation_cites moved current before unrevoked after
        change engine.Cites old (revocationTarget _ old)
        unfold revocationTarget
        split
        · rename_i unnamed
          exact promotions id old (List.mem_of_getElem? before) (revokes.entitled unnamed).1
        · rename_i named
          by_contra foreign
          exact native (.revoke old revokes (by simpa using named) foreign)
  · simp [registrationRecord] at active

theorem foreign_revocation {op : Op} {reply : Reply} (moved : engine.step op = some (reply, next))
    (foreign : engine.RevokesForeign op) : ¬next.RevocationsOwn := by
  intro own
  cases foreign with
  | @revoke id decision reasonClass detail authority cause now artifact revokes named alien =>
      have applied := revokes_applies revokes detail now
      rw [mutated_next (step_eq_some moved).1] at applied
      obtain ⟨index, _, after⟩ := replaced_current revokes.found applied
      obtain ⟨held, present, subject⟩ := own id _ (List.mem_of_getElem? after) rfl
      have decisions : next.control.decisions = engine.control.decisions := by
        cases step_effect moved with
        | idle _ same => rw [same]
        | revoked _ _ _ _ _ _ changed =>
            have same := congrArg Control.decisions changed
            exact same
      change next.control.decisions[revocationTarget decision artifact]? = some held at present
      rw [decisions, revocationTarget, if_neg (by rw [named]; simp)] at present
      exact alien ⟨held, present, subject⟩

/-- In every run, all revocations of all states reached cite a held decision about their own
revision exactly when no step revokes under a named decision about something else. -/
theorem run_revocations_own_iff {start final : Engine} {trace : List EngineStep}
    (constructed : Constructed start) (run : EngineRun start trace final) :
    (∀ step ∈ trace, step.after.RevocationsOwn) ↔
      ∀ step ∈ trace, ¬RevokesForeign step.before step.input := by
  constructor
  · intro own step executed foreign
    exact foreign_revocation (run.moved executed) foreign (own step executed)
  · intro condition step executed
    obtain ⟨past, future, rfl⟩ := List.append_of_mem executed
    obtain ⟨before, moved, _⟩ := run.cut
    have initially : start.RevocationsOwn ∧ start.PromotionsOwn ∧ start.Linked := by
      obtain ⟨config, epoch, salting, naming, rfl⟩ := constructed
      refine ⟨?_, ?_, create_linked config epoch salting naming⟩
      · intro id record inside
        rw [create_chain] at inside
        simp at inside
      · intro id record inside
        rw [create_chain] at inside
        simp at inside
    have kept := before.guarded
      (fun engine => engine.Sound ∧ engine.RevocationsOwn ∧ engine.PromotionsOwn ∧ engine.Linked)
      (fun step => ¬RevokesForeign step.before step.input)
      (fun step holds native moved => ⟨sound_step holds.1 moved,
        step_revocations_own holds.1 holds.2.2.2 holds.2.2.1 holds.2.1 moved native,
        step_promotions_own holds.1 holds.2.2.2 holds.2.2.1 moved,
        step_linked holds.1 holds.2.2.2 moved⟩)
      ⟨constructed.sound, initially⟩
      (fun step inside => condition step (by simp [inside]))
    exact step_revocations_own kept.1 kept.2.2.2 kept.2.2.1 kept.2.1 moved
      (condition step executed)

def revokeDeniedChoices : List (Engine → Op) :=
  [fun _ => .registerArtifact (sampleRegistration 1) 0,
    fun engine => .evaluate (engine.sampleRequest .promoted 1) 0,
    fun engine => .revoke ⟨0, 5⟩ (engine.state.decisions.keys.head?.getD {}) (text "audit") []
      engine.state.authority {} 0]

def citesOwn (engine : Engine) (record : ArtifactRecord) (id : PromotionDecisionId) : Bool :=
  engine.state.decisions[id]?.any fun decision =>
    decision.artifact == record.id && decision.artifactRevision == record.revision

theorem citesOwn_iff (record : ArtifactRecord) (id : PromotionDecisionId) :
    engine.citesOwn record id = true ↔ engine.Cites record id := by
  simp [citesOwn, Cites, Option.any_eq_true]

def revokesOwn (played : List EngineStep × Engine) : Bool :=
  (played.1.all fun step =>
    match step.input with
    | .revoke id decision _ _ _ _ _ =>
        (step.before.state.findCurrent id).all (step.before.citesOwn · decision)
    | _ => true) &&
  (played.2.state.findCurrent ⟨0, 5⟩).any (·.revocation.active)

theorem run_revocations_own_iff_denied :
    ∃ (trace : List EngineStep) (final : Engine), EngineRun sampleEngine trace final ∧
      (final.state.findCurrent ⟨0, 5⟩).any (·.revocation.active) = true ∧
      ∀ step ∈ trace, step.after.RevocationsOwn := by
  have evaluated : (play step sampleEngine revokeDeniedChoices).any revokesOwn = true := by
    decide +kernel
  obtain ⟨trace, final, run, checked⟩ := run_of_checked evaluated
  simp only [revokesOwn, Bool.and_eq_true, List.all_eq_true] at checked
  refine ⟨trace, final, run, checked.2,
    (run_revocations_own_iff sampleEngine_constructed run).mpr ?_⟩
  intro step executed foreign
  have own := checked.1 step executed
  cases foreign_eq : step.input with
  | revoke id decision reasonClass detail authority cause now =>
      rw [foreign_eq] at foreign own
      cases foreign with
      | revoke artifact revokes named alien =>
          dsimp only at own
          rw [revokes.found] at own
          exact alien ((citesOwn_iff artifact decision).mp own)
  | _ =>
      rw [foreign_eq] at foreign
      cases foreign

/-- The revoked candidate cites a decision about a revision that was never registered. -/
theorem foreign_decision_cited : ∃ engine, Reachable engine ∧ ¬engine.RevocationsOwn := by
  have evaluated : ((play step sampleEngine revokeCandidateChoices).any fun played =>
      (played.2.state.findCurrent ⟨0, 5⟩).any fun record => record.revocation.active &&
        !played.2.citesOwn record record.revocation.decision) = true := by
    decide +kernel
  obtain ⟨engine, reachable, checked⟩ := Reachable.of_play
    (fun engine => (engine.state.findCurrent ⟨0, 5⟩).any fun record => record.revocation.active &&
      !engine.citesOwn record record.revocation.decision) sampleEngine_constructed evaluated
  refine ⟨engine, reachable, ?_⟩
  intro own
  rw [Option.any_eq_true] at checked
  obtain ⟨record, found, active⟩ := checked
  rw [Bool.and_eq_true] at active
  have cites := own ⟨0, 5⟩ record (List.mem_of_getLast? found) active.1
  rw [← citesOwn_iff] at cites
  simp [cites] at active

end Engine

end ArtifactPromotion
