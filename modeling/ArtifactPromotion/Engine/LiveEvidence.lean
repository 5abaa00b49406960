import ArtifactPromotion.Domain.EvidenceDigests
import ArtifactPromotion.Engine.ExactlyOnce

/-! The evidence a plan is bound to. While the reservation of a plan stands no evidence of its
revision is revoked, and a submission leaves a live record with a new identity, so the bytes under
the snapshot digest never return to what the plan was derived from. -/

namespace ArtifactPromotion

open Runs

namespace Engine

variable {engine next : Engine}

theorem step_evidence_issued (sound : engine.Sound) {op : Op} {reply : Reply}
    (moved : engine.step op = some (reply, next)) {id : EvidenceId}
    (issued : engine.control.evidenceGenerator.Issued id) :
    next.control.evidenceGenerator.Issued id := by
  have room := sound.coherent.evidenceRoom sound.roomy
  cases step_effect moved with
  | idle _ same => rwa [same]
  | submitted _ _ _ _ changed =>
      rw [changed]
      exact issued.advance room
  | closed _ _ _ _ _ changed =>
      rw [changed]
      split <;> exact issued
  | reloaded decoded changed =>
      rwa [(image_reloaded sound decoded changed).evidenceGenerator]
  | published _ _ changed | restarted _ changed | recovered changed
  | compatibilityMoved _ changed | registrationRefused _ _ changed
  | registered _ _ _ _ _ _ _ changed | undecided _ _ _ changed
  | decided _ _ _ _ _ _ changed | issued _ _ _ _ _ _ changed
  | committed _ _ _ _ _ changed | quarantined _ _ _ _ changed | releaseRefused _ _ changed
  | released _ _ _ _ _ _ _ _ changed | revoked _ _ _ _ _ _ changed
  | superseded _ _ _ _ _ _ changed | retired _ _ _ changed | evidenceRevoked _ _ changed =>
      rw [changed]
      exact issued

def SameEvidence (engine next : Engine) (subject : ArtifactId) (revision : ArtifactRevision) :
    Prop :=
  ∀ (id : EvidenceId) (record : EvidenceRecord), record.subject = subject →
    record.subjectRevision = revision →
      (next.control.evidence[id]? = some record ↔ engine.control.evidence[id]? = some record)

def SubmitsFor (step : EngineStep) (subject : ArtifactId) (revision : ArtifactRevision) : Prop :=
  ∃ submission record, step.input = .submitEvidence submission ∧
    step.output = .submitted (.ok record) ∧ submission.subject = subject ∧
    submission.subjectRevision = revision

theorem submitted_elsewhere (sound : engine.Sound) {submission : EvidenceSubmission}
    {record : EvidenceRecord} {subject : ArtifactId} {revision : ArtifactRevision}
    (elsewhere : ¬(submission.subject = subject ∧ submission.subjectRevision = revision))
    (subject_eq : record.subject = submission.subject)
    (revision_eq : record.subjectRevision = submission.subjectRevision)
    (fresh : record.id = engine.control.evidenceGenerator.next)
    (changed : next.control.evidence = (supersededEvidence engine.control.evidence
      (currentEvidence engine.state submission) record).insert record.id record) :
    engine.SameEvidence next subject revision := by
  have absent : engine.control.evidence[record.id]? = none := by
    rw [fresh]
    exact sound.coherent.evidence_fresh sound.roomy
  intro id found foundSubject foundRevision
  rw [changed]
  have other : found ≠ record := by
    rintro rfl
    exact elsewhere ⟨subject_eq.symm.trans foundSubject, revision_eq.symm.trans foundRevision⟩
  by_cases new : id = record.id
  · subst new
    rw [Std.ExtTreeMap.getElem?_insert_self, absent]
    simp [other.symm]
  · rw [OrderedMaps.getElem?_insert_ne _ _ new]
    unfold supersededEvidence
    cases replaced : currentEvidence engine.state submission with
    | none => rfl
    | some previous =>
        have inside := List.mem_of_find?_eq_some replaced
        have present : engine.control.evidence[previous.1]? = some previous.2 :=
          Std.ExtTreeMap.mem_toList_iff_getElem?_eq_some.mp inside
        have keyed := List.find?_some replaced
        simp only [Bool.and_eq_true, beq_iff_eq, EvidenceKey.of, EvidenceKey.mk.injEq] at keyed
        obtain ⟨⟨keySubject, keyRevision, _⟩, _⟩ := keyed
        by_cases old : id = previous.1
        · subst old
          dsimp only
          rw [Std.ExtTreeMap.getElem?_insert_self, present]
          constructor
          · intro same
            rw [← Option.some.inj same] at foundSubject foundRevision
            exact (elsewhere ⟨keySubject.symm.trans foundSubject,
              keyRevision.symm.trans foundRevision⟩).elim
          · intro same
            rw [← Option.some.inj same] at foundSubject foundRevision
            exact (elsewhere ⟨keySubject.symm.trans foundSubject,
              keyRevision.symm.trans foundRevision⟩).elim
        · exact iff_of_eq (congrArg (· = some found) (OrderedMaps.getElem?_insert_ne _ _ old))

theorem step_evidence (sound : engine.Sound) {op : Op} {reply : Reply}
    (moved : engine.step op = some (reply, next)) {id : ArtifactId}
    {reservation : PendingTransition} (held : next.state.pending[id]? = some reservation)
    (unsubmitted : ¬SubmitsFor ⟨engine, op, reply, next⟩ id reservation.artifactRevision) :
    engine.SameEvidence next id reservation.artifactRevision := by
  have held : next.control.pending[id]? = some reservation := held
  have kept (same : next.control.evidence = engine.control.evidence) :
      engine.SameEvidence next id reservation.artifactRevision := by
    intro evidence record _ _
    rw [same]
  cases step_effect moved with
  | idle _ same => exact kept (by rw [same])
  | @submitted submission subject record _ _ _ _ made changed =>
      obtain ⟨generation, sequence, _, _, rfl⟩ := made
      refine submitted_elsewhere sound ?_ rfl rfl rfl (congrArg Control.evidence changed)
      rintro ⟨subject_eq, revision_eq⟩
      exact unsubmitted ⟨submission, _, rfl, rfl, subject_eq, revision_eq⟩
  | closed _ _ _ _ _ changed =>
      refine kept ?_
      rw [changed]
      split <;> rfl
  | @evidenceRevoked revokedId _ _ revoked _ _ present _ changed =>
      have pending := congrArg Control.pending changed
      rw [pending] at held
      obtain ⟨before, elsewhere⟩ := fencePending_cases held
      have artifact := (sound.coherent.reservations id reservation before).1
      have records := congrArg Control.evidence changed
      intro evidence record subject_eq revision_eq
      rw [records]
      by_cases same : evidence = revokedId
      · subst same
        have apart (other : record.subject = revoked.subject ∧
            record.subjectRevision = revoked.subjectRevision) : False := by
          refine elsewhere ⟨?_, ?_⟩
          · rw [artifact, ← subject_eq, other.1]
          · rw [← revision_eq, other.2]
        constructor
        · intro found
          dsimp only at found
          rw [Std.ExtTreeMap.getElem?_insert_self, Option.some.injEq] at found
          exact (apart (by rw [← found]; exact ⟨rfl, rfl⟩)).elim
        · intro found
          rw [present, Option.some.injEq] at found
          exact (apart (by rw [found]; exact ⟨rfl, rfl⟩)).elim
      · exact iff_of_eq (congrArg (· = some record) (OrderedMaps.getElem?_insert_ne _ _ same))
  | reloaded _ changed =>
      have pending := congrArg Control.pending changed
      rw [pending] at held
      simp at held
  | published _ _ changed | restarted _ changed | recovered changed
  | compatibilityMoved _ changed | registrationRefused _ _ changed
  | registered _ _ _ _ _ _ _ changed | undecided _ _ _ changed
  | decided _ _ _ _ _ _ changed | issued _ _ _ _ _ _ changed
  | committed _ _ _ _ _ changed | quarantined _ _ _ _ changed | releaseRefused _ _ changed
  | released _ _ _ _ _ _ _ _ changed | revoked _ _ _ _ _ _ changed
  | superseded _ _ _ _ _ _ changed | retired _ _ _ changed =>
      have same := congrArg Control.evidence changed
      exact kept same

/-- The revision has a live record the generator had not named. -/
def FreshlyLive (generator : IdentityGenerator .evidenceId) (engine : Engine)
    (subject : ArtifactId) (revision : ArtifactRevision) : Prop :=
  ∃ id record, engine.control.evidence[id]? = some record ∧ record.subject = subject ∧
    record.subjectRevision = revision ∧ record.live = true ∧ ¬generator.Issued id

/-- Whatever the generator named is still accounted for. -/
def Covers (generator : IdentityGenerator .evidenceId) (engine : Engine) : Prop :=
  ∀ id, generator.Issued id → engine.control.evidenceGenerator.Issued id

theorem submitted_freshlyLive (sound : engine.Sound)
    {generator : IdentityGenerator .evidenceId} (covers : Covers generator engine) {op : Op}
    {reply : Reply} (moved : engine.step op = some (reply, next)) {subject : ArtifactId}
    {revision : ArtifactRevision}
    (submits : SubmitsFor ⟨engine, op, reply, next⟩ subject revision) :
    FreshlyLive generator next subject revision := by
  obtain ⟨submission, record, rfl, rfl, subject_eq, revision_eq⟩ := submits
  cases step_effect moved with
  | idle quiet _ => simp [Reply.confirmsChange] at quiet
  | submitted _ _ _ made changed =>
      obtain ⟨generation, sequence, _, _, rfl⟩ := made
      have records := congrArg Control.evidence changed
      refine ⟨engine.control.evidenceGenerator.next, submissionRecord submission
        engine.control.evidenceGenerator.next generation sequence, ?_, subject_eq, revision_eq, rfl,
        ?_⟩
      · rw [records]
        exact Std.ExtTreeMap.getElem?_insert_self
      · intro named
        exact IdentityGenerator.next_not_issued (sound.coherent.evidenceRoom sound.roomy)
          (covers _ named)

theorem step_freshlyLive (sound : engine.Sound)
    {generator : IdentityGenerator .evidenceId} (covers : Covers generator engine) {op : Op}
    {reply : Reply} (moved : engine.step op = some (reply, next)) {id : ArtifactId}
    {reservation : PendingTransition} (held : next.state.pending[id]? = some reservation)
    (fresh : FreshlyLive generator engine id reservation.artifactRevision) :
    FreshlyLive generator next id reservation.artifactRevision := by
  by_cases submits : SubmitsFor ⟨engine, op, reply, next⟩ id reservation.artifactRevision
  · exact submitted_freshlyLive sound covers moved submits
  · obtain ⟨evidence, record, present, subject, revision, live, unnamed⟩ := fresh
    have same := step_evidence sound moved held submits evidence record subject revision
    exact ⟨evidence, record, same.mpr present, subject, revision, live, unnamed⟩

theorem mem_snapshotEntries (state : CoordinatorState) (subject : ArtifactId)
    (revision : ArtifactRevision) (id : EvidenceId) :
    id ∈ (snapshotEntries state subject revision).map EvidenceSnapshotEntry.id ↔
      ∃ (key : EvidenceId) (record : EvidenceRecord), state.evidence[key]? = some record ∧
        record.subject = subject ∧ record.subjectRevision = revision ∧ record.live = true ∧
        record.id = id := by
  constructor
  · intro inside
    obtain ⟨entry, member, named⟩ := List.mem_map.mp inside
    obtain ⟨record, found, rfl⟩ := List.mem_map.mp member
    obtain ⟨gathered, live⟩ := List.mem_filter.mp found
    have sorted := (List.mem_insertionSort _).mp gathered
    obtain ⟨listed, matches_⟩ := List.mem_filter.mp sorted
    obtain ⟨⟨key, value⟩, stored, rfl⟩ := List.mem_map.mp listed
    simp only [Bool.and_eq_true, beq_iff_eq] at matches_
    exact ⟨key, value, Std.ExtTreeMap.mem_toList_iff_getElem?_eq_some.mp stored, matches_.1,
      matches_.2, live, named⟩
  · rintro ⟨key, record, present, rfl, rfl, live, rfl⟩
    refine List.mem_map.mpr ⟨record.snapshotEntry, List.mem_map.mpr ⟨record, ?_, rfl⟩, rfl⟩
    refine List.mem_filter.mpr ⟨(List.mem_insertionSort _).mpr (List.mem_filter.mpr ⟨?_, ?_⟩), live⟩
    · exact List.mem_map.mpr ⟨(key, record),
        Std.ExtTreeMap.mem_toList_iff_getElem?_eq_some.mpr present, rfl⟩
    · simp

def hashedSnapshot (step : EngineStep) : Option ByteBuffer :=
  let preimage (artifact : ArtifactRecord) : ByteBuffer :=
    snapshotPreimage artifact.id artifact.revision artifact.digest
      (snapshotEntries step.before.state artifact.id artifact.revision)
  match step.input with
  | .evaluate request _ =>
      (step.before.state.findRevision request.artifact request.expectedRevision).map preimage
  | .commit plan _ =>
      (step.before.state.findRevision plan.artifact plan.artifactRevision).map preimage
  | _ => none

def SnapshotsCollisionFree (trace : List EngineStep) : Prop :=
  ∀ first ∈ trace, ∀ second ∈ trace, ∀ left right, hashedSnapshot first = some left →
    hashedSnapshot second = some right → sha256 left = sha256 right → left = right

def Evaluates (step : EngineStep) (plan : PromotionPlan) : Prop :=
  ∃ request now result, step.input = .evaluate request now ∧
    step.output = .evaluated (.ok result) ∧ result.hasPlan = true ∧ result.plan = plan

theorem planOf_snapshot {request : PromotionRequest} {now : UInt64} {artifact : ArtifactRecord}
    (issues : engine.Issues request now artifact) :
    (engine.planOf request artifact now).evidenceSnapshotDigest =
      computeSnapshotDigest artifact.id artifact.revision artifact.digest
        (snapshotEntries engine.state artifact.id artifact.revision) := by
  obtain ⟨found, rule, foundAt, _, _, _, _, gates, findings, reasons, decision⟩ :=
    evaluateGates_eligible issues.eligible
  have same : found = artifact := Option.some.inj (foundAt.symm.trans issues.found)
  subst same
  change (engine.evaluationOf request found now).decision.evidenceSnapshotDigest = _
  have bound := congrArg PromotionDecision.evidenceSnapshotDigest decision
  exact bound

theorem evaluates_issues {op : Op} {reply : Reply} (moved : engine.step op = some (reply, next))
    {plan : PromotionPlan} (evaluates : Evaluates ⟨engine, op, reply, next⟩ plan) :
    plan.id = engine.control.planGenerator.next ∧ next.control.plans[plan.id]? = some plan := by
  obtain ⟨request, now, result, rfl, rfl, hasPlan, rfl⟩ := evaluates
  cases step_effect moved with
  | idle quiet _ => simp [Reply.confirmsChange, hasPlan] at quiet
  | undecided _ _ planless _ => simp [hasPlan] at planless
  | decided _ _ _ planless _ _ _ => simp [hasPlan] at planless
  | issued issues _ plan_eq _ _ _ changed =>
      have plans := congrArg Control.plans changed
      rw [plan_eq]
      refine ⟨rfl, ?_⟩
      rw [plans]
      exact Std.ExtTreeMap.getElem?_insert_self

theorem evaluates_once {start final : Engine} {trace between rest : List EngineStep}
    {first second : EngineStep} {plan : PromotionPlan} (sound : start.Sound)
    (run : EngineRun start (trace ++ first :: (between ++ second :: rest)) final)
    (evaluates : Evaluates first plan) (again : Evaluates second plan) : False := by
  obtain ⟨before, moved, after⟩ := run.cut
  obtain ⟨gap, movedAgain, _⟩ := after.cut
  have firstSound := EngineRun.sound before sound
  have issued := ((sound_step firstSound moved).coherent.plans _ _
    (evaluates_issues moved evaluates).2).2.1
  have kept := gap.invariant
    (fun engine => engine.Sound ∧ engine.control.planGenerator.Issued plan.id)
    (fun _ _ _ _ holds moved => ⟨sound_step holds.1 moved, step_plan_issued holds.1 moved holds.2⟩)
    ⟨sound_step firstSound moved, issued⟩
  exact kept.2.ne_next (kept.1.coherent.planRoom kept.1.roomy)
    (evaluates_issues movedAgain again).1

/-- The step changes what a plan for the revision rests on: its evidence, the compatibility
generation, the coordinator's incarnation or the artifact's trust state. -/
def Disturbs (step : EngineStep) (id : ArtifactId) (revision : ArtifactRevision) : Prop :=
  match step.input, step.output with
  | .submitEvidence submission, .submitted (.ok _) =>
      submission.subject = id ∧ submission.subjectRevision = revision
  | .revokeEvidence evidence _ _, _ =>
      step.after.state ≠ step.before.state ∧ ∃ record : EvidenceRecord,
        step.before.state.evidence[evidence]? = some record ∧ record.subject = id ∧
          record.subjectRevision = revision
  | .setCompatibilityGeneration _, .generation (.ok _) => True
  | .restart _, .restarted (.ok _) => True
  | .recoverInFlight, _ => True
  | .reload _, .reloaded (.ok _) => True
  | .quarantine other _ _ _, _ => other = id ∧ step.after.state ≠ step.before.state
  | .revoke other _ _ _ _ _ _, _ => other = id ∧ step.after.state ≠ step.before.state
  | .supersede other _ _ _ _, _ => other = id ∧ step.after.state ≠ step.before.state
  | .retire other _ _, _ => other = id ∧ step.after.state ≠ step.before.state
  | _, _ => False

theorem quarantine_drops (id : ArtifactId) (reasonClass detail : Text)
    (authority : CoordinatorAuthority) :
    (engine.quarantine id reasonClass detail authority).2 = engine ∨
      (engine.quarantine id reasonClass detail authority).2.state.pending =
        engine.state.pending.erase id := by
  unfold quarantine
  split
  · exact .inl rfl
  split
  · exact .inl rfl
  split
  · exact .inl rfl
  split
  · exact .inl rfl
  split
  · exact .inl rfl
  split
  · exact .inl rfl
  split
  · exact .inl rfl
  · exact .inr rfl

theorem Applied.drops {id : ArtifactId} {now : UInt64} (applied : engine.Applied id now next) :
    next = engine ∨ next.state.pending = engine.state.pending.erase id := by
  rcases applied with same | ⟨_, _, _, _, _, _, rfl⟩
  · exact .inl same
  · exact .inr rfl

theorem revokeEvidence_fences (id : EvidenceId) (reason : Text)
    (authority : CoordinatorAuthority) :
    (engine.revokeEvidence id reason authority).2 = engine ∨
      ∃ record : EvidenceRecord, engine.state.evidence[id]? = some record ∧
        (engine.revokeEvidence id reason authority).2.state.pending =
          fencePending engine.state.pending record := by
  unfold revokeEvidence
  split
  · exact .inl rfl
  cases found : engine.state.evidence[id]? with
  | none => exact .inl rfl
  | some record =>
      dsimp only
      split
      · exact .inl rfl
      split
      · exact .inl rfl
      · exact .inr ⟨record, rfl, rfl⟩

theorem disturbs_submits (sound : engine.Sound) {op : Op} {reply : Reply}
    (moved : engine.step op = some (reply, next)) {id : ArtifactId}
    {reservation : PendingTransition} (held : next.state.pending[id]? = some reservation)
    (disturbs : Disturbs ⟨engine, op, reply, next⟩ id reservation.artifactRevision) :
    SubmitsFor ⟨engine, op, reply, next⟩ id reservation.artifactRevision := by
  have performed := (step_eq_some moved).1
  -- A trust operation that changed anything erased the reservation.
  have dropped {reply : Reply} {answer : Result TrustMutation × Engine}
      (answered : answerWith .mutated answer = some (reply, next))
      (drops : answer.2 = engine ∨ answer.2.state.pending = engine.state.pending.erase id)
      (moves : next.state ≠ engine.state) : False := by
    have same : answer.2 = next := by
      simp only [answerWith, Option.some.injEq, Prod.mk.injEq] at answered
      exact answered.2
    rw [same] at drops
    rcases drops with unchanged | erased
    · exact moves (by rw [unchanged])
    · rw [erased] at held
      simp at held
  have emptied (empty : next.control.pending = ∅) : False := by
    change next.control.pending[id]? = some reservation at held
    rw [empty] at held
    simp at held
  cases op with
  | submitEvidence submission =>
      cases reply with
      | submitted result =>
          cases result with
          | ok record => exact ⟨submission, record, rfl, rfl, disturbs.1, disturbs.2⟩
          | error status => exact disturbs.elim
      | _ => exact disturbs.elim
  | revokeEvidence evidence reason authority =>
      obtain ⟨moves, record, found, subject, revision⟩ := disturbs
      have same : (engine.revokeEvidence evidence reason authority).2 = next := by
        simp only [perform, answerWith, Option.some.injEq, Prod.mk.injEq] at performed
        exact performed.2
      have fences := engine.revokeEvidence_fences evidence reason authority
      rw [same] at fences
      rcases fences with unchanged | ⟨stored, present, fenced⟩
      · exact absurd (by rw [unchanged]) moves
      · have stored_eq : record = stored := Option.some.inj (found.symm.trans present)
        rw [fenced] at held
        obtain ⟨before, elsewhere⟩ := fencePending_cases held
        have artifact := (sound.coherent.reservations id reservation before).1
        rw [← stored_eq, subject, revision, artifact] at elsewhere
        exact absurd ⟨rfl, rfl⟩ elsewhere
  | setCompatibilityGeneration generation =>
      cases reply with
      | generation result =>
          cases result with
          | ok advanced =>
              cases step_effect moved with
              | idle quiet _ => simp [Reply.confirmsChange] at quiet
              | compatibilityMoved _ changed =>
                  exact (emptied (congrArg Control.pending changed)).elim
          | error status => exact disturbs.elim
      | _ => exact disturbs.elim
  | restart epoch =>
      cases reply with
      | restarted result =>
          cases result with
          | ok advanced =>
              cases step_effect moved with
              | idle quiet _ => simp [Reply.confirmsChange] at quiet
              | restarted _ changed => exact (emptied (congrArg Control.pending changed)).elim
          | error status => exact disturbs.elim
      | _ => exact disturbs.elim
  | recoverInFlight =>
      simp only [perform, answerWith, Option.some.injEq, Prod.mk.injEq] at performed
      cases step_effect moved with
      | idle quiet _ => simp [← performed.1, Reply.confirmsChange] at quiet
      | recovered changed => exact (emptied (congrArg Control.pending changed)).elim
  | reload advance =>
      cases reply with
      | reloaded result =>
          cases result with
          | ok done =>
              cases step_effect moved with
              | idle quiet _ => simp [Reply.confirmsChange] at quiet
              | reloaded _ changed => exact (emptied (congrArg Control.pending changed)).elim
          | error status => exact disturbs.elim
      | _ => exact disturbs.elim
  | quarantine other reasonClass detail authority =>
      obtain ⟨rfl, moves⟩ := disturbs
      exact (dropped performed (quarantine_drops other reasonClass detail authority) moves).elim
  | revoke other decision reasonClass detail authority cause now =>
      obtain ⟨rfl, moves⟩ := disturbs
      have applied := @revoke_applied engine other decision reasonClass detail authority cause now
      exact (dropped performed applied.drops moves).elim
  | supersede other successor reason authority now =>
      obtain ⟨rfl, moves⟩ := disturbs
      have applied := @supersede_applied engine other successor reason authority now
      exact (dropped performed applied.drops moves).elim
  | retire other authority now =>
      obtain ⟨rfl, moves⟩ := disturbs
      exact (dropped performed (retire_applied other authority now).drops moves).elim
  | _ => exact disturbs.elim

/-- The revision's live evidence at a commit is named by the evidence its plan was derived from. -/
theorem accepted_ids {trace : List EngineStep} (collisionFree : SnapshotsCollisionFree trace)
    {issue commit : EngineStep} (issueExecuted : issue ∈ trace) (commitExecuted : commit ∈ trace)
    {plan : PromotionPlan} {reservation : PendingTransition} {now : UInt64}
    {artifact : ArtifactRecord} (issueSound : issue.before.Sound)
    (commitSound : commit.before.Sound) (issues : IssuesPlan issue plan reservation)
    (input : commit.input = .commit plan now) (accepts : commit.before.Accepts plan now artifact)
    {id : EvidenceId} {record : EvidenceRecord}
    (present : commit.before.control.evidence[id]? = some record)
    (subject : record.subject = plan.artifact)
    (revision : record.subjectRevision = plan.artifactRevision) (live : record.live = true) :
    issue.before.control.evidenceGenerator.Issued id := by
  obtain ⟨request, created, planned, _, issueInput, _, _, _, established, plan_eq, _⟩ :=
    issues.evaluated
  have digest := accepts.sameEvidence
  rw [plan_eq, planOf_snapshot established] at digest
  have same := collisionFree commit commitExecuted issue issueExecuted _ _
    (by rw [hashedSnapshot, input]; dsimp only; rw [accepts.found]; rfl)
    (by rw [hashedSnapshot, issueInput]; dsimp only; rw [established.found]; rfl) digest
  have artifact_id := findRevision_id commitSound.coherent accepts.found
  have artifact_revision := (findRevision_mem accepts.found).2
  have named := (commitSound.coherent.evidence id record present).1
  have inside := (mem_snapshotEntries commit.before.state artifact.id artifact.revision id).mpr
    ⟨id, record, present, by rw [artifact_id, subject], by rw [artifact_revision, revision], live,
      named⟩
  obtain ⟨key, original, stored, _, _, _, original_id⟩ :=
    (mem_snapshotEntries _ _ _ id).mp ((snapshotPreimage_ids same id).mp inside)
  obtain ⟨keyed, issued⟩ := issueSound.coherent.evidence key original stored
  rw [← original_id, keyed]
  exact issued

/-- A disturbance between the evaluation that issued a plan and its commit would leave a live
record the plan does not know. -/
theorem window_undisturbed {start final : Engine} {front since future : List EngineStep}
    {issue commit : EngineStep} {plan : PromotionPlan} {reservation : PendingTransition}
    {now : UInt64} {artifact : ArtifactRecord} (sound : start.Sound)
    (run : EngineRun start (front ++ issue :: (since ++ commit :: future)) final)
    (collisionFree : SnapshotsCollisionFree (front ++ issue :: (since ++ commit :: future)))
    (issues : IssuesPlan issue plan reservation) (stands : Held plan.artifact reservation since)
    (input : commit.input = .commit plan now)
    (accepts : commit.before.Accepts plan now artifact) {step : EngineStep}
    (executed : step ∈ since) : ¬Disturbs step plan.artifact plan.artifactRevision := by
  intro disturbs
  have revision : reservation.artifactRevision = plan.artifactRevision := by
    obtain ⟨_, _, _, _, _, _, _, _, _, _, made⟩ := issues.evaluated
    rw [made]
    rfl
  obtain ⟨before, issued, window⟩ := run.cut
  obtain ⟨since_run, commitMoved, _⟩ := window.cut
  have issueSound := EngineRun.sound before sound
  have covered {trace : List EngineStep} {engine : Engine}
      (reached : EngineRun issue.after trace engine) :
      engine.Sound ∧ Covers issue.before.control.evidenceGenerator engine := by
    refine reached.invariant
      (fun engine => engine.Sound ∧ Covers issue.before.control.evidenceGenerator engine)
      (fun _ _ _ _ holds moved => ⟨sound_step holds.1 moved, fun id named =>
        step_evidence_issued holds.1 moved (holds.2 id named)⟩) ?_
    exact ⟨sound_step issueSound issued, fun id named => step_evidence_issued issueSound issued named⟩
  have commitSound := (covered since_run).1
  obtain ⟨earlier, later, rfl⟩ := List.append_of_mem executed
  obtain ⟨reached, moved, remaining⟩ := since_run.cut
  obtain ⟨stepSound, covers⟩ := covered reached
  have held := (stands step executed).2
  rw [← revision] at disturbs
  have submits := disturbs_submits stepSound moved held disturbs
  have fresh := submitted_freshlyLive stepSound covers moved submits
  -- The new record, or one that replaced it, is live until the commit.
  have kept := remaining.guarded
    (fun engine => (engine.Sound ∧ Covers issue.before.control.evidenceGenerator engine) ∧
      FreshlyLive issue.before.control.evidenceGenerator engine plan.artifact
        reservation.artifactRevision)
    (fun step => step.after.state.pending[plan.artifact]? = some reservation)
    (fun step holds stays moved => ⟨⟨sound_step holds.1.1 moved, fun id named =>
        step_evidence_issued holds.1.1 moved (holds.1.2 id named)⟩,
      step_freshlyLive holds.1.1 holds.1.2 moved stays holds.2⟩)
    ⟨⟨sound_step stepSound moved, fun id named =>
      step_evidence_issued stepSound moved (covers id named)⟩, fresh⟩
    (fun other inside => (stands other (by simp [inside])).2)
  obtain ⟨id, record, present, subject, recordRevision, live, unnamed⟩ := kept.2
  exact unnamed (accepted_ids collisionFree (by simp) (by simp) issueSound commitSound issues input
    accepts present subject (recordRevision.trans revision) live)

theorem evaluates_of_issues {step : EngineStep} {plan : PromotionPlan}
    {reservation : PendingTransition} (issues : IssuesPlan step plan reservation) :
    Evaluates step plan := by
  obtain ⟨request, now, _, result, input, output, hasPlan, plan_eq, _⟩ := issues.evaluated
  exact ⟨request, now, result, input, output, hasPlan, plan_eq⟩

theorem commit_origin {start final : Engine} {past future : List EngineStep} {step : EngineStep}
    {plan : PromotionPlan} (constructed : Constructed start)
    (run : EngineRun start (past ++ step :: future) final) (commits : Commits step plan) :
    ∃ front issue since reservation now artifact, past = front ++ issue :: since ∧
      IssuesPlan issue plan reservation ∧ Held plan.artifact reservation since ∧
      step.before.state.pending[plan.artifact]? = some reservation ∧
      reservation.plan = plan.id ∧ step.input = .commit plan now ∧
      step.before.Accepts plan now artifact := by
  obtain ⟨now, result, input, output, acknowledged⟩ := commits
  obtain ⟨before, moved, _⟩ := run.cut
  rw [input, output] at moved
  obtain ⟨artifact, accepts, _, _⟩ := acknowledged_accepts moved acknowledged
  have empty : start.state.pending = ∅ := by
    obtain ⟨config, epoch, salting, naming, rfl⟩ := constructed
    rfl
  obtain ⟨front, issue, since, reservation, past_eq, issues, stands, held, named⟩ :=
    commit_window constructed.sound empty before accepts
  exact ⟨front, issue, since, reservation, now, artifact, past_eq, issues, stands, held, named,
    input, accepts⟩

/-- In every run whose evidence snapshots do not collide, a committed plan was issued by exactly
one earlier evaluation, and nothing the plan rests on was disturbed between the two. -/
theorem commit_undisturbed {start final : Engine} {past future : List EngineStep}
    {step : EngineStep} {plan : PromotionPlan} (constructed : Constructed start)
    (run : EngineRun start (past ++ step :: future) final)
    (collisionFree : SnapshotsCollisionFree (past ++ step :: future))
    (commits : Commits step plan) :
    ∃ front issue since, past = front ++ issue :: since ∧ Evaluates issue plan ∧
      (∀ other ∈ front ++ since, ¬Evaluates other plan) ∧
      ∀ other ∈ since, ¬Disturbs other plan.artifact plan.artifactRevision := by
  obtain ⟨front, issue, since, reservation, now, artifact, rfl, issues, stands, _, _, input,
    accepts⟩ := commit_origin constructed run commits
  have evaluates := evaluates_of_issues issues
  rw [List.append_assoc, List.cons_append] at run collisionFree
  refine ⟨front, issue, since, rfl, evaluates, ?_, ?_⟩
  · intro other inside again
    rcases List.mem_append.mp inside with earlier | later
    · obtain ⟨left, right, rfl⟩ := List.append_of_mem earlier
      rw [List.append_assoc, List.cons_append] at run
      exact evaluates_once constructed.sound run again evaluates
    · obtain ⟨left, right, rfl⟩ := List.append_of_mem later
      rw [List.append_assoc, List.cons_append] at run
      exact evaluates_once constructed.sound run evaluates again
  · intro other executed
    exact window_undisturbed constructed.sound run collisionFree issues stands input accepts executed

def acknowledges (step : EngineStep) : Bool :=
  match step.input, step.output with
  | .commit _ _, .committed (.ok result) => result.outcome == .promotionCommitted
  | _, _ => false

theorem commits_of_acknowledges {step : EngineStep} (acknowledged : acknowledges step = true) :
    ∃ plan, Commits step plan := by
  unfold acknowledges at acknowledged
  split at acknowledged
  · rename_i plan now result input output
    exact ⟨plan, now, result, input, output, by simpa using acknowledged⟩
  · simp at acknowledged

def hashesAlike (trace : List EngineStep) : Bool :=
  trace.all fun first => trace.all fun second =>
    match hashedSnapshot first, hashedSnapshot second with
    | some left, some right => left == right
    | _, _ => true

theorem collisionFree_of_alike {trace : List EngineStep} (alike : hashesAlike trace = true) :
    SnapshotsCollisionFree trace := by
  intro first firstExecuted second secondExecuted left right firstHashed secondHashed _
  unfold hashesAlike at alike
  have same := List.all_eq_true.mp (List.all_eq_true.mp alike first firstExecuted) second
    secondExecuted
  simpa [firstHashed, secondHashed] using same

def sampleEvidence (engine : Engine) : EvidenceSubmission :=
  let current := (engine.state.findCurrent ⟨0, 5⟩).getD {}
  { subject := ⟨0, 5⟩, subjectDigest := current.digest, subjectRevision := current.revision,
    type := .buildPass, result := .pass, payloadDigest := ⟨List.replicate 32 7, by simp⟩ }

def sampleEvidenceId (engine : Engine) : EvidenceId := engine.state.evidence.keys.head?.getD {}

def builtPolicy : PromotionPolicy :=
  { directPolicy with
    rules := [{ source := .candidate, target := .promoted, requirements :=
      [makeEvidenceGate .buildPass "build"] }] }

def neighbourRegistration : ArtifactRegistration := { sampleRegistration 2 with id := ⟨0, 6⟩ }

def neighbourEvidence (engine : Engine) : EvidenceSubmission :=
  let current := (engine.state.findCurrent ⟨0, 6⟩).getD {}
  { engine.sampleEvidence with
    subject := ⟨0, 6⟩, subjectDigest := current.digest, subjectRevision := current.revision }

def neighbourChoices : List (Engine → Op) :=
  [fun _ => .publishPolicy builtPolicy,
    fun _ => .registerArtifact (sampleRegistration 1) 0,
    fun engine => .submitEvidence engine.sampleEvidence,
    fun engine => .evaluate (engine.sampleRequest .promoted 1) 0,
    fun _ => .registerArtifact neighbourRegistration 0,
    fun engine => .submitEvidence engine.neighbourEvidence,
    fun engine => .commit (engine.planFor 1) 0]

def asksEvaluation (step : EngineStep) : Bool :=
  match step.input with
  | .evaluate _ _ => true
  | _ => false

theorem asksEvaluation_of_evaluates {step : EngineStep} {plan : PromotionPlan}
    (evaluates : Evaluates step plan) : asksEvaluation step = true := by
  obtain ⟨request, now, result, input, _⟩ := evaluates
  rw [asksEvaluation, input]

def acceptsEvidence (step : EngineStep) : Bool :=
  match step.output with
  | .submitted (.ok _) => true
  | _ => false

def promotesBesideNeighbour (played : List EngineStep × Engine) : Bool :=
  match played.1 with
  | [published, registered, submitted, _, neighbour, evidence, step] =>
      [published, registered, submitted, neighbour, evidence].all (!asksEvaluation ·) &&
        acceptsEvidence evidence && acknowledges step &&
        (match step.input with
          | .commit plan _ => plan.evidenceEntryCount == 1
          | _ => false)
  | _ => false

theorem commit_undisturbed_promoted :
    ∃ (past : List EngineStep) (issue neighbour evidence step : EngineStep) (plan : PromotionPlan)
      (final : Engine), EngineRun sampleEngine (past ++ [issue, neighbour, evidence, step]) final ∧
        SnapshotsCollisionFree (past ++ [issue, neighbour, evidence, step]) ∧
        Commits step plan ∧ plan.evidenceEntryCount = 1 ∧ acceptsEvidence evidence = true ∧
        Evaluates issue plan ∧
        ∀ other ∈ [neighbour, evidence], ¬Disturbs other plan.artifact plan.artifactRevision := by
  have evaluated : ((play step sampleEngine neighbourChoices).any fun played =>
      hashesAlike played.1 && promotesBesideNeighbour played) = true := by
    decide +kernel
  obtain ⟨trace, final, run, checked⟩ := run_of_checked evaluated
  obtain ⟨alike, promotes⟩ := Bool.and_eq_true_iff.mp checked
  have collisionFree := collisionFree_of_alike alike
  unfold promotesBesideNeighbour at promotes
  split at promotes
  case h_2 => cases promotes
  case h_1 published registered submitted issue neighbour evidence step listed =>
  dsimp only at listed
  subst listed
  simp only [Bool.and_eq_true] at promotes
  obtain ⟨⟨⟨others, accepted⟩, acknowledged⟩, rests⟩ := promotes
  obtain ⟨plan, commits⟩ := commits_of_acknowledges acknowledged
  have counted : plan.evidenceEntryCount = 1 := by
    obtain ⟨now, result, input, _⟩ := commits
    rw [input] at rests
    simpa using rests
  obtain ⟨front, found, since, split, evaluates, _, undisturbed⟩ :=
    @commit_undisturbed _ _ [published, registered, submitted, issue, neighbour, evidence] [] step
      plan sampleEngine_constructed run collisionFree commits
  obtain ⟨rfl, rfl⟩ := @eq_of_only _ (asksEvaluation · = true) front since
    [published, registered, submitted] [neighbour, evidence] found issue split
    (asksEvaluation_of_evaluates evaluates) (by simpa using others)
  exact ⟨[published, registered, submitted], found, neighbour, evidence, step, plan, final, run,
    collisionFree, commits, counted, accepted, evaluates, undisturbed⟩

def revokedTwiceChoices : List (Engine → Op) :=
  [fun _ => .publishPolicy directPolicy,
    fun _ => .registerArtifact (sampleRegistration 1) 0,
    fun engine => .submitEvidence engine.sampleEvidence,
    fun engine => .revokeEvidence engine.sampleEvidenceId [] engine.state.authority,
    fun engine => .evaluate (engine.sampleRequest .promoted 1) 0,
    fun engine => .revokeEvidence engine.sampleEvidenceId [] engine.state.authority,
    fun engine => .commit (engine.planFor 1) 0]

def revokesUnderPlan (played : List EngineStep × Engine) : Bool :=
  match played.1 with
  | [_, _, _, _, issue, again, step] =>
      match issue.input, issue.output, again.input, again.output, step.input, step.output with
      | .evaluate _ _, .evaluated (.ok evaluated), .revokeEvidence evidence _ _,
        .mutated (.ok revoked), .commit plan _, .committed (.ok committed) =>
          evaluated.hasPlan && evaluated.plan == plan && revoked.outcome == .evidenceRevoked &&
            committed.outcome == .promotionCommitted &&
            (again.before.state.evidence[evidence]?.any fun record =>
              record.subject == plan.artifact && record.subjectRevision == plan.artifactRevision)
      | _, _, _, _, _, _ => false
  | _ => false

/-- A successful revocation of the revision's evidence stands between the evaluation and the
commit: it found the record already revoked. -/
theorem revoked_evidence_revoked_again :
    ∃ (front : List EngineStep) (issue again step : EngineStep) (plan : PromotionPlan)
      (final : Engine) (evidence : EvidenceId) (reason : Text) (authority : CoordinatorAuthority)
      (result : TrustMutation) (record : EvidenceRecord),
      EngineRun sampleEngine (front ++ issue :: again :: [step]) final ∧ Evaluates issue plan ∧
        Commits step plan ∧ again.input = .revokeEvidence evidence reason authority ∧
        again.output = .mutated (.ok result) ∧ result.outcome = .evidenceRevoked ∧
        again.before.state.evidence[evidence]? = some record ∧ record.subject = plan.artifact ∧
        record.subjectRevision = plan.artifactRevision := by
  have evaluated : (play step sampleEngine revokedTwiceChoices).any revokesUnderPlan = true := by
    decide +kernel
  obtain ⟨trace, final, run, checked⟩ := run_of_checked evaluated
  unfold revokesUnderPlan at checked
  dsimp only at checked
  split at checked
  · rename_i first second third fourth issue again step
    split at checked
    · rename_i request created evaluated evidence reason authority revoked plan now committed
        issueInput issueOutput input output commitInput commitOutput
      simp only [Bool.and_eq_true, beq_iff_eq, Option.any_eq_true] at checked
      obtain ⟨⟨⟨⟨hasPlan, plan_eq⟩, outcome⟩, acknowledged⟩, record, present, subject, revision⟩ :=
        checked
      exact ⟨[first, second, third, fourth], issue, again, step, plan, final, evidence, reason,
        authority, revoked, record, run,
        ⟨request, created, evaluated, issueInput, issueOutput, hasPlan, plan_eq⟩,
        ⟨now, committed, commitInput, commitOutput, acknowledged⟩, input, output, outcome, present,
        subject, revision⟩
    · simp at checked
  · simp at checked

end Engine

end ArtifactPromotion
