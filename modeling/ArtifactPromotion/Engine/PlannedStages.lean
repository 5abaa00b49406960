import ArtifactPromotion.Engine.Windows

/-! Whether a commit finds its revision in the stage the plan was issued for. -/

namespace ArtifactPromotion

open Runs

namespace Engine

variable {engine next : Engine}

/-- While a reservation stands, only a newer registration and a granted quarantine release change
a revision of its artifact. -/
theorem revised_held {op : Op} {reply : Reply} (moved : engine.step op = some (reply, next))
    {id : ArtifactId} {index : Nat} {record revised : ArtifactRecord}
    (before : (engine.control.chain id)[index]? = some record)
    (after : (next.control.chain id)[index]? = some revised)
    (change : Revised engine id index op reply record revised) {reservation : PendingTransition}
    (held : next.state.pending[id]? = some reservation) :
    revised = record ∨
      (engine.Current id index ∧ ∃ registration now added state revision,
        op = .registerArtifact registration now ∧ reply = .registered (.ok added) ∧
        registration.id = id ∧ revised = supersedeByRegistration state revision record id) ∨
      (engine.Current id index ∧ ∃ authority now later result,
        op = .releaseQuarantine id authority now later ∧ reply = .mutated (.ok result) ∧
        result.outcome = .promotionCommitted ∧
        revised = releasedArtifact engine.state.advanceSequence record) := by
  have held : next.control.pending[id]? = some reservation := held
  have same (artifacts : next.control.artifacts = engine.control.artifacts) : revised = record := by
    have chains : next.control.chain id = engine.control.chain id := by
      rw [Control.chain, artifacts, Control.chain]
    rw [chains, before] at after
    exact (Option.some.inj after).symm
  cases change with
  | kept => exact .inl rfl
  | restored =>
      cases step_effect moved with
      | idle _ unchanged => exact .inl (same (by rw [unchanged]))
      | reloaded _ changed =>
          rw [changed] at held
          simp at held
  | overtaken state revision named current =>
      subst named
      exact .inr (.inl ⟨current, _, _, _, state, revision, rfl, rfl, rfl, rfl⟩)
  | applied named first accepts =>
      subst named
      cases step_effect moved with
      | idle _ unchanged => exact .inl (same (by rw [unchanged]))
      | closed released _ _ _ _ changed =>
          refine .inl (same ?_)
          rw [changed]
          split <;> rfl
      | committed _ _ _ _ _ changed =>
          rw [changed] at held
          exact absurd rfl (OrderedMaps.erase_cases held).1
  | quarantined current unquarantined open_ =>
      cases step_effect moved with
      | idle _ unchanged => exact .inl (same (by rw [unchanged]))
      | quarantined _ _ _ _ changed =>
          rw [changed] at held
          exact absurd rfl (OrderedMaps.erase_cases held).1
  | released current active granted =>
      exact .inr (.inr ⟨current, _, _, _, _, rfl, rfl, granted, rfl⟩)
  | revoked target current unrevoked =>
      cases step_effect moved with
      | idle _ unchanged => exact .inl (same (by rw [unchanged]))
      | revoked _ _ _ _ _ _ changed =>
          rw [changed] at held
          exact absurd rfl (OrderedMaps.erase_cases held).1
  | superseded successorRecord current unsuperseded open_ =>
      cases step_effect moved with
      | idle _ unchanged => exact .inl (same (by rw [unchanged]))
      | superseded _ _ _ _ _ _ changed =>
          rw [changed] at held
          exact absurd rfl (OrderedMaps.erase_cases held).1
  | retired current unretired =>
      cases step_effect moved with
      | idle _ unchanged => exact .inl (same (by rw [unchanged]))
      | retired _ _ _ changed =>
          rw [changed] at held
          exact absurd rfl (OrderedMaps.erase_cases held).1

/-- The step moves the revision a reservation is bound to and leaves the reservation in place: a
newer revision is registered over it, or its quarantine is released. -/
def MovesReserved (step : EngineStep) : Prop :=
  ∃ id reservation current, step.before.state.pending[id]? = some reservation ∧
    step.before.state.findCurrent id = some current ∧
    reservation.artifactRevision = current.revision ∧
    ((∃ registration now added, step.input = .registerArtifact registration now ∧
        step.output = .registered (.ok added) ∧ registration.id = id ∧
        current.stage ≠ .promoted ∧ current.stage ≠ .revoked ∧ current.stage ≠ .retired) ∨
      ∃ authority now later result, step.input = .releaseQuarantine id authority now later ∧
        step.output = .mutated (.ok result) ∧ result.outcome = .promotionCommitted)

theorem current_found {id : ArtifactId} {index : Nat} {record : ArtifactRecord}
    (current : engine.Current id index)
    (held : (engine.state.chain id)[index]? = some record) :
    engine.state.findCurrent id = some record := by
  have length : index + 1 = (engine.state.chain id).length := current
  rw [CoordinatorState.findCurrent, List.getLast?_eq_getElem?, ← length]
  exact held

def InStage (engine : Engine) (id : ArtifactId) (revision : ArtifactRevision) (stage : Stage)
    (generation : StageGeneration) : Prop :=
  ∃ artifact, engine.state.findRevision id revision = some artifact ∧ artifact.stage = stage ∧
    artifact.stageGeneration = generation

theorem step_reserved_stage (sound : engine.Sound) {op : Op} {reply : Reply}
    (moved : engine.step op = some (reply, next)) {id : ArtifactId}
    {reservation : PendingTransition} (held : engine.state.pending[id]? = some reservation)
    (still : next.state.pending[id]? = some reservation)
    (unmoved : ¬MovesReserved ⟨engine, op, reply, next⟩) {stage : Stage}
    {generation : StageGeneration}
    (staged : engine.InStage id reservation.artifactRevision stage generation) :
    next.InStage id reservation.artifactRevision stage generation := by
  obtain ⟨record, found, rfl, rfl⟩ := staged
  obtain ⟨revised, newFound, position, newPosition, change⟩ := step_findRevision sound moved found
  have named := (findRevision_mem found).2
  refine ⟨revised, newFound, ?_⟩
  rcases revised_held moved position newPosition change still with rfl | overtaken | released
  · exact ⟨rfl, rfl⟩
  · obtain ⟨current, registration, now, added, state, revision, rfl, rfl, same, rfl⟩ := overtaken
    unfold supersedeByRegistration
    split
    · rename_i open_
      simp only [ne_eq, Bool.and_eq_true, decide_eq_true_eq] at open_
      exact absurd ⟨id, reservation, record, held, current_found current position, named.symm,
        .inl ⟨registration, now, added, rfl, rfl, same, open_.1.1, open_.1.2, open_.2⟩⟩ unmoved
    · exact ⟨rfl, rfl⟩
  · obtain ⟨current, authority, now, later, result, rfl, rfl, granted, _⟩ := released
    exact absurd ⟨id, reservation, record, held, current_found current position, named.symm,
      .inr ⟨authority, now, later, result, rfl, rfl, granted⟩⟩ unmoved

end Engine

theorem IssuesPlan.inStage {step : EngineStep} {plan : PromotionPlan}
    {reservation : PendingTransition} (issues : IssuesPlan step plan reservation)
    (sound : step.before.Sound)
    (moved : step.before.step step.input = some (step.output, step.after)) :
    reservation.artifactRevision = plan.artifactRevision ∧
      step.after.InStage plan.artifact plan.artifactRevision plan.source plan.stageGeneration := by
  obtain ⟨request, now, artifact, result, input, output, _, _, established, rfl, rfl⟩ :=
    issues.evaluated
  refine ⟨rfl, ?_⟩
  have revision := (Engine.findRevision_mem established.found).2
  have id_eq := Engine.findRevision_id sound.coherent established.found
  obtain ⟨revised, found, _, _, change⟩ := Engine.step_findRevision sound moved established.found
  rw [input] at change
  cases change with
  | kept =>
      refine ⟨artifact, ?_, rfl, rfl⟩
      rw [← id_eq, ← revision] at found
      exact found

namespace Engine

/-- In every run none of whose steps moves a revision under its reservation, a commit acknowledged
with `PromotionCommitted` finds the revision in the planned stage and stage generation, and its
record starts from the planned stage. -/
theorem commit_applies_planned_stage {start final : Engine} {trace : List EngineStep}
    (constructed : Constructed start) (run : EngineRun start trace final)
    (condition : ∀ step ∈ trace, ¬MovesReserved step) {step : EngineStep} (executed : step ∈ trace)
    {plan : PromotionPlan} {now : UInt64} {result : CommitResult}
    (input : step.input = .commit plan now) (output : step.output = .committed (.ok result))
    (acknowledged : result.outcome = .promotionCommitted) :
    step.before.InStage plan.artifact plan.artifactRevision plan.source plan.stageGeneration ∧
      result.record.source = plan.source := by
  obtain ⟨past, future, rfl⟩ := List.append_of_mem executed
  obtain ⟨before, moved, _⟩ := run.cut
  rw [input, output] at moved
  obtain ⟨artifact, accepts, record_eq, _⟩ := acknowledged_accepts moved acknowledged
  have empty : start.state.pending = ∅ := by
    obtain ⟨config, epoch, salting, naming, rfl⟩ := constructed
    rfl
  obtain ⟨front, issue, since, reservation, rfl, issues, stands, held, named⟩ :=
    commit_window constructed.sound empty before accepts
  obtain ⟨earlier, issued, window⟩ := before.cut
  have issueSound := EngineRun.sound earlier constructed.sound
  obtain ⟨revision, staged⟩ := issues.inStage issueSound issued
  -- Along the window the reservation stands, so no step may change the stage.
  have kept := window.guarded
    (fun engine => engine.Sound ∧
      engine.InStage plan.artifact reservation.artifactRevision plan.source plan.stageGeneration)
    (fun step => ¬MovesReserved step ∧ step.before.state.pending[plan.artifact]? = some reservation ∧
      step.after.state.pending[plan.artifact]? = some reservation)
    (fun step holds allowed stepped => ⟨sound_step holds.1 stepped,
      step_reserved_stage holds.1 stepped allowed.2.1 allowed.2.2 allowed.1 holds.2⟩)
    ⟨sound_step issueSound issued, by rw [revision]; exact staged⟩
    (fun step inside => ⟨condition step (by simp [inside]), stands step inside⟩)
  rw [revision] at kept
  refine ⟨kept.2, ?_⟩
  obtain ⟨current, found, stage, _⟩ := kept.2
  have same : current = artifact := Option.some.inj (found.symm.trans accepts.found)
  rw [record_eq, ← stage, same]
  rfl

def promotesPlanned (played : List EngineStep × Engine) : Bool :=
  (played.1.all fun step =>
    match step.input with
    | .registerArtifact registration _ => step.before.state.pending[registration.id]?.isNone
    | .releaseQuarantine _ _ _ _ => false
    | _ => true) &&
  (played.1.getLast?.any fun step =>
    match step.input, step.output with
    | .commit _ _, .committed (.ok result) => result.outcome == .promotionCommitted
    | _, _ => false)

theorem commit_applies_planned_stage_promoted :
    ∃ (trace : List EngineStep) (final : Engine) (step : EngineStep) (plan : PromotionPlan)
      (now : UInt64) (result : CommitResult),
      EngineRun sampleEngine trace final ∧ (∀ step ∈ trace, ¬MovesReserved step) ∧
        step ∈ trace ∧ step.input = .commit plan now ∧ step.output = .committed (.ok result) ∧
        result.outcome = .promotionCommitted ∧ result.record.source = plan.source := by
  have evaluated : (play step sampleEngine promoteChoices).any promotesPlanned = true := by
    rw [promote_played]
    decide +kernel
  obtain ⟨trace, final, run, checked⟩ := run_of_checked evaluated
  simp only [promotesPlanned, Bool.and_eq_true, List.all_eq_true, Option.any_eq_true] at checked
  obtain ⟨quiet, last, isLast, commits⟩ := checked
  have executed : last ∈ trace := List.mem_of_getLast? isLast
  have condition : ∀ step ∈ trace, ¬MovesReserved step := by
    rintro step inside ⟨id, reservation, current, held, _, _, moves⟩
    have alone := quiet step inside
    rcases moves with ⟨registration, now, added, input, _, named, _⟩ |
      ⟨authority, now, later, result, input, _⟩
    · simp [input, named, held] at alone
    · simp [input] at alone
  split at commits
  · rename_i plan now result input output
    have acknowledged : result.outcome = .promotionCommitted := by simpa using commits
    exact ⟨trace, final, last, plan, now, result, run, condition, executed, input, output,
      acknowledged, (commit_applies_planned_stage sampleEngine_constructed run condition executed
        input output acknowledged).2⟩
  · simp at commits

def retiringPolicy : PromotionPolicy :=
  { id := ⟨7, 2⟩, generation := ⟨1⟩, name := text "retiring",
    graph := { edges := [⟨.candidate, .superseded⟩, ⟨.candidate, .retired⟩,
      ⟨.superseded, .retired⟩] }
    rules := [{ source := .candidate, target := .retired },
      { source := .superseded, target := .retired }] }

def overtakenPlanChoices : List (Engine → Op) :=
  [fun _ => .publishPolicy retiringPolicy,
    fun _ => .registerArtifact (sampleRegistration 1) 0,
    fun engine => .evaluate (engine.sampleRequest .retired 1) 0,
    fun _ => .registerArtifact (sampleRegistration 2) 0,
    fun engine => .commit (engine.planFor 1) 0]

def commitsUnplanned (step : EngineStep) : Bool :=
  match step.input, step.output with
  | .commit plan _, .committed (.ok result) =>
      result.outcome == .promotionCommitted && result.record.source != plan.source
  | _, _ => false

/-- The plan was issued for a candidate and is applied to a superseded revision. -/
theorem overtaken_plan_commits :
    ∃ (trace : List EngineStep) (final : Engine) (step : EngineStep) (plan : PromotionPlan)
      (now : UInt64) (result : CommitResult),
      EngineRun sampleEngine trace final ∧ step ∈ trace ∧ step.input = .commit plan now ∧
        step.output = .committed (.ok result) ∧ result.outcome = .promotionCommitted ∧
        result.record.source ≠ plan.source ∧
        ¬step.before.InStage plan.artifact plan.artifactRevision plan.source
          plan.stageGeneration := by
  have evaluated : ((play step sampleEngine overtakenPlanChoices).any fun played =>
      played.1.any commitsUnplanned) = true := by
    decide +kernel
  obtain ⟨trace, final, run, checked⟩ := run_of_checked evaluated
  obtain ⟨last, executed, commits⟩ := List.any_eq_true.mp checked
  unfold commitsUnplanned at commits
  split at commits
  · rename_i plan now result input output
    simp only [Bool.and_eq_true, beq_iff_eq, bne_iff_ne] at commits
    obtain ⟨acknowledged, unplanned⟩ := commits
    refine ⟨trace, final, last, plan, now, result, run, executed, input, output, acknowledged,
      unplanned, ?_⟩
    rintro ⟨current, found, stage, _⟩
    have moved := run.moved executed
    rw [input, output] at moved
    obtain ⟨artifact, accepts, record_eq, _⟩ := acknowledged_accepts moved acknowledged
    have same : current = artifact := Option.some.inj (found.symm.trans accepts.found)
    rw [record_eq, ← stage, same] at unplanned
    exact unplanned rfl
  · simp at commits

end Engine

end ArtifactPromotion
