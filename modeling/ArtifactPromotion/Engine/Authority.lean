import ArtifactPromotion.Engine.LiveEvidence

/-! Authority is gained in one way only, and never by a revoked revision. -/

namespace ArtifactPromotion

open Runs

namespace Engine

variable {engine next : Engine}

structure Warranted (engine : Engine) (plan : PromotionPlan) (now : UInt64)
    (artifact : ArtifactRecord) : Prop where
  stored : engine.state.plans[plan.id]? = some plan
  reserved : ∃ reservation, engine.state.pending[plan.artifact]? = some reservation ∧
    reservation.plan = plan.id
  unexpired : now ≤ plan.expiresUnixMillis
  policyDigest : engine.state.activePolicyDigest = plan.policyDigest
  policyGeneration : engine.state.activePolicyGeneration = plan.policyGeneration
  lifecycle : engine.state.policy.graph.graphDigest = plan.lifecycleDigest
  authority : engine.state.authority = plan.authority
  compatibility : engine.state.compatibilityGeneration = plan.compatibilityGeneration
  governed : ∃ rule, engine.state.policy.findRule artifact.kind artifact.stage plan.target =
      some rule ∧ ∀ gate ∈ rule.requirements, GateContext.satisfied
        ⟨engine.config, engine.state, requestOfPlan plan, now, artifact,
          (engine.state.decisions.getD plan.decision {}).policyGeneration⟩ gate = true

theorem accepts_warranted (sound : engine.Sound) {plan : PromotionPlan} {now : UInt64}
    {artifact : ArtifactRecord} (accepts : engine.Accepts plan now artifact) :
    engine.Warranted plan now artifact := by
  obtain ⟨reservation, held, named⟩ := accepts.named
  have reserves := (sound.coherent.reservations _ _ held).2.2.2 plan
    (by rw [named]; exact accepts.stored)
  have current := accepts.policyCurrent
  simp only [policyMoved, Bool.or_eq_false_iff, bne_eq_false_iff_eq] at current
  obtain ⟨⟨digest, generation⟩, lifecycle⟩ := current
  constructor
  case stored => exact accepts.stored
  case reserved => exact ⟨reservation, held, named⟩
  case unexpired =>
    have expires := (sound.coherent.plans _ _ accepts.stored).2.2.1
    have unexpired := accepts.unexpired
    simp only [expired, expires, Bool.true_and, decide_eq_false_iff_not, gt_iff_lt,
      UInt64.not_lt] at unexpired
    exact unexpired
  case policyDigest => exact sound.coherent.policyDigest.trans digest
  case policyGeneration => exact generation
  case lifecycle => exact lifecycle
  case authority => exact reserves.authority.symm
  case compatibility => exact reserves.compatibility.symm
  case governed =>
    obtain ⟨found, rule, foundAt, governs, satisfied, _⟩ := evaluateGates_eligible accepts.eligible
    have same : found = artifact := Option.some.inj (foundAt.symm.trans accepts.found)
    subst same
    exact ⟨rule, governs, satisfied⟩

theorem step_gains_authority (sound : engine.Sound) {op : Op} {reply : Reply}
    (moved : engine.step op = some (reply, next)) {id : ArtifactId} {index : Nat}
    (lacked : ¬engine.AuthoritativeAt id index) (gained : next.AuthoritativeAt id index) :
    ∃ plan now result artifact, op = .commit plan now ∧ reply = .committed (.ok result) ∧
      result.outcome = .promotionCommitted ∧ plan.target = .promoted ∧ plan.artifact = id ∧
      (engine.state.chain id)[index]? = some artifact ∧ engine.Accepts plan now artifact := by
  rcases step_authority sound moved gained with kept | ⟨plan, now, artifact, applied⟩
  · exact absurd kept lacked
  obtain ⟨rfl, named, _, held, accepts, target, _⟩ := applied
  have kept (same : next.control.artifacts = engine.control.artifacts) : False := by
    obtain ⟨record, found, authority⟩ := gained
    refine lacked ⟨record, ?_, authority⟩
    change (engine.control.artifacts.getD id [])[index]? = some record
    rw [← same]
    exact found
  cases step_effect moved with
  | idle _ same => exact (kept (by rw [same])).elim
  | closed released _ _ _ _ changed =>
      refine (kept ?_).elim
      rw [changed]
      split <;> rfl
  | committed _ acknowledged _ _ _ _ =>
      exact ⟨plan, now, _, artifact, rfl, rfl, acknowledged, target, named, held, accepts⟩

theorem run_revoked {start final : Engine} {trace : List EngineStep} (sound : start.Sound)
    (run : EngineRun start trace final) {id : ArtifactId} {index : Nat}
    (revoked : start.RevokedAt id index) : ¬final.AuthoritativeAt id index := by
  have kept := run.invariant (fun engine => engine.Sound ∧ engine.RevokedAt id index)
    (fun _ _ _ _ holds moved => ⟨sound_step holds.1 moved, step_revocation holds.1 moved holds.2⟩)
    ⟨sound, revoked⟩
  rintro ⟨record, held, authority⟩
  obtain ⟨other, found, active⟩ := kept.2
  have same : other = record := Option.some.inj (found.symm.trans held)
  subst same
  simp [ArtifactRecord.currentlyAuthoritative, active] at authority

def liveEvidence (engine : Engine) (id : ArtifactId) (revision : ArtifactRevision) :
    Set EvidenceRecord :=
  { record | record.subject = id ∧ record.subjectRevision = revision ∧ record.live = true ∧
    ∃ key : EvidenceId, engine.state.evidence[key]? = some record }

theorem liveEvidence_eq {id : ArtifactId} {revision : ArtifactRevision}
    (same : engine.SameEvidence next id revision) :
    next.liveEvidence id revision = engine.liveEvidence id revision := by
  ext record
  constructor
  · rintro ⟨subject, recordRevision, live, key, present⟩
    exact ⟨subject, recordRevision, live, key, (same key record subject recordRevision).mp present⟩
  · rintro ⟨subject, recordRevision, live, key, present⟩
    exact ⟨subject, recordRevision, live, key, (same key record subject recordRevision).mpr present⟩

theorem commit_evidence {start final : Engine} {front since future : List EngineStep}
    {issue commit : EngineStep} {plan : PromotionPlan} {reservation : PendingTransition}
    {now : UInt64} {artifact : ArtifactRecord} (sound : start.Sound)
    (run : EngineRun start (front ++ issue :: (since ++ commit :: future)) final)
    (collisionFree : SnapshotsCollisionFree (front ++ issue :: (since ++ commit :: future)))
    (issues : IssuesPlan issue plan reservation) (stands : Held plan.artifact reservation since)
    (input : commit.input = .commit plan now)
    (accepts : commit.before.Accepts plan now artifact) :
    commit.before.liveEvidence plan.artifact plan.artifactRevision =
      issue.before.liveEvidence plan.artifact plan.artifactRevision := by
  have revision : reservation.artifactRevision = plan.artifactRevision := by
    obtain ⟨_, _, _, _, _, _, _, _, _, _, made⟩ := issues.evaluated
    rw [made]
    rfl
  have undisturbed (step : EngineStep) (executed : step ∈ since) :
      ¬SubmitsFor step plan.artifact plan.artifactRevision := by
    rintro ⟨submission, record, submitted, answered, subject, submittedRevision⟩
    refine window_undisturbed sound run collisionFree issues stands input accepts executed ?_
    unfold Disturbs
    rw [submitted, answered]
    exact ⟨subject, submittedRevision⟩
  obtain ⟨before, issued, window⟩ := run.cut
  obtain ⟨since_run, _, _⟩ := window.cut
  have issueSound := EngineRun.sound before sound
  have initially : issue.before.SameEvidence issue.after plan.artifact plan.artifactRevision := by
    rw [← revision]
    refine step_evidence issueSound issued issues.reserved ?_
    rintro ⟨submission, record, submitted, _⟩
    obtain ⟨_, _, _, _, evaluated, _⟩ := issues.evaluated
    exact absurd (submitted.symm.trans evaluated) (by simp)
  have kept := since_run.guarded
    (fun engine => engine.Sound ∧
      issue.before.SameEvidence engine plan.artifact plan.artifactRevision)
    (fun step => step.after.state.pending[plan.artifact]? = some reservation ∧
      ¬SubmitsFor step plan.artifact plan.artifactRevision)
    (fun step holds allowed moved => ⟨sound_step holds.1 moved, fun id record subject stamped => by
      have same := step_evidence holds.1 moved allowed.1 (by rw [revision]; exact allowed.2)
      rw [revision] at same
      exact (same id record subject stamped).trans (holds.2 id record subject stamped)⟩)
    ⟨sound_step issueSound issued, initially⟩
    (fun step executed => ⟨(stands step executed).2, undisturbed step executed⟩)
  exact liveEvidence_eq kept.2

/-- Over every run whose evidence snapshots do not collide: authority is gained only by an
acknowledged commit to `Promoted` of a stored, reserved and unexpired plan under the policy,
authority and compatibility generation it was issued for, with every gate of the governing rule
satisfied and the evidence the plan was derived from; and a revoked revision never gains it. -/
theorem run_authority_sound {start final : Engine} {trace : List EngineStep}
    (constructed : Constructed start) (run : EngineRun start trace final)
    (collisionFree : SnapshotsCollisionFree trace) :
    (∀ (past future : List EngineStep) (step : EngineStep) (id : ArtifactId) (index : Nat),
      trace = past ++ step :: future → ¬step.before.AuthoritativeAt id index →
      step.after.AuthoritativeAt id index →
      ∃ plan now result artifact, step.input = .commit plan now ∧
        step.output = .committed (.ok result) ∧ result.outcome = .promotionCommitted ∧
        plan.target = .promoted ∧ plan.artifact = id ∧
        (step.before.state.chain id)[index]? = some artifact ∧
        artifact.revision = plan.artifactRevision ∧
        step.before.Warranted plan now artifact ∧
        ∃ front issue since, past = front ++ issue :: since ∧ Evaluates issue plan ∧
          step.before.liveEvidence id artifact.revision =
            issue.before.liveEvidence id artifact.revision) ∧
    ∀ (past future : List EngineStep) (middle : Engine) (id : ArtifactId) (index : Nat),
      trace = past ++ future → EngineRun start past middle → EngineRun middle future final →
      middle.RevokedAt id index → ¬final.AuthoritativeAt id index := by
  constructor
  · rintro past future step id index rfl lacked gained
    obtain ⟨before, moved, _⟩ := run.cut
    have sound := EngineRun.sound before constructed.sound
    obtain ⟨plan, now, result, artifact, input, output, acknowledged, target, rfl, held,
      accepts⟩ := step_gains_authority sound moved lacked gained
    have revision := (findRevision_mem accepts.found).2
    obtain ⟨front, issue, since, reservation, later, committed, rfl, issues, stands, _, _,
      commitInput, acceptsAgain⟩ := commit_origin constructed run
        ⟨now, result, input, output, acknowledged⟩
    rw [List.append_assoc, List.cons_append] at run collisionFree
    refine ⟨plan, now, result, artifact, input, output, acknowledged, target, rfl, held, revision,
      accepts_warranted sound accepts, front, issue, since, rfl, evaluates_of_issues issues, ?_⟩
    rw [revision]
    exact commit_evidence constructed.sound run collisionFree issues stands commitInput acceptsAgain
  · rintro past future middle id index _ before after revoked
    exact run_revoked (EngineRun.sound before constructed.sound) after revoked

def gainsAuthority (played : List EngineStep × Engine) : Bool :=
  hashesAlike played.1 && played.1.getLast?.any fun step =>
    ((step.before.state.chain ⟨0, 5⟩)[0]?.all fun record => !record.currentlyAuthoritative) &&
      (step.after.state.chain ⟨0, 5⟩)[0]?.any ArtifactRecord.currentlyAuthoritative

theorem run_authority_sound_promoted :
    ∃ (past : List EngineStep) (step : EngineStep) (final : Engine) (plan : PromotionPlan)
      (now : UInt64) (artifact : ArtifactRecord),
      EngineRun sampleEngine (past ++ [step]) final ∧ SnapshotsCollisionFree (past ++ [step]) ∧
        ¬step.before.AuthoritativeAt ⟨0, 5⟩ 0 ∧ step.after.AuthoritativeAt ⟨0, 5⟩ 0 ∧
        step.input = .commit plan now ∧ step.before.Warranted plan now artifact := by
  have evaluated : (play step sampleEngine promoteChoices).any gainsAuthority = true := by
    rw [promote_played]
    decide +kernel
  obtain ⟨trace, final, run, checked⟩ := run_of_checked evaluated
  simp only [gainsAuthority, Bool.and_eq_true, Option.any_eq_true] at checked
  obtain ⟨alike, step, last, unpromoted, record, held, authority⟩ := checked
  obtain ⟨past, rfl⟩ : ∃ past, trace = past ++ [step] := ⟨_, (List.dropLast_append_getLast? _ last).symm⟩
  have collisionFree := collisionFree_of_alike alike
  have lacked : ¬step.before.AuthoritativeAt ⟨0, 5⟩ 0 := by
    rintro ⟨before, found, promoted⟩
    simp [found, promoted] at unpromoted
  have gained : step.after.AuthoritativeAt ⟨0, 5⟩ 0 := ⟨record, held, authority⟩
  obtain ⟨plan, now, _, artifact, input, _, _, _, _, _, _, warranted, _⟩ :=
    (run_authority_sound sampleEngine_constructed run collisionFree).1 past [] step ⟨0, 5⟩ 0 rfl
      lacked gained
  exact ⟨past, step, final, plan, now, artifact, run, collisionFree, lacked, gained, input,
    warranted⟩

end Engine

end ArtifactPromotion
