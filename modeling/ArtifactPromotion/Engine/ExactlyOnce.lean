import ArtifactPromotion.Engine.Generations

/-! A plan that lost its reservation never commits, and commits are unique by plan, by request and
by stage generation. -/

namespace ArtifactPromotion

open Runs

def Commits (step : EngineStep) (plan : PromotionPlan) : Prop :=
  ∃ now result, step.input = .commit plan now ∧ step.output = .committed (.ok result) ∧
    result.outcome = .promotionCommitted

theorem IssuesPlan.request_unseen {step : EngineStep} {plan : PromotionPlan}
    {reservation : PendingTransition} (issues : IssuesPlan step plan reservation)
    (sound : step.before.Sound) :
    step.before.control.idempotency.contains reservation.request = false := by
  obtain ⟨request, now, artifact, _, _, _, _, _, established, rfl, rfl⟩ := issues.evaluated
  change step.before.control.idempotency.contains request.request = false
  have unbound : step.before.control.idempotency[request.request]? = none :=
    Engine.unbound_of_unseen sound established.unseen
  rw [Std.ExtTreeMap.contains_eq_isSome_getElem?, unbound]
  rfl

namespace Engine

variable {engine next : Engine}

theorem step_plan_issued (sound : engine.Sound) {op : Op} {reply : Reply}
    (moved : engine.step op = some (reply, next)) {id : PromotionPlanId}
    (issued : engine.control.planGenerator.Issued id) : next.control.planGenerator.Issued id := by
  have room := sound.coherent.planRoom sound.roomy
  cases step_effect moved with
  | idle _ same => rwa [same]
  | decided _ _ _ _ _ allocated changed =>
      rw [changed]
      rcases allocated with rfl | rfl
      · exact issued
      · exact issued.advance room
  | issued _ _ _ _ _ _ changed =>
      rw [changed]
      exact issued.advance room
  | closed _ _ _ _ _ changed =>
      rw [changed]
      split <;> exact issued
  | reloaded decoded changed =>
      rwa [(image_reloaded sound decoded changed).planGenerator]
  | published _ _ changed | restarted _ changed | recovered changed
  | compatibilityMoved _ changed | registrationRefused _ _ changed
  | registered _ _ _ _ _ _ _ changed | submitted _ _ _ _ changed | undecided _ _ _ changed
  | committed _ _ _ _ _ changed | quarantined _ _ _ _ changed | releaseRefused _ _ changed
  | released _ _ _ _ _ _ _ _ changed | revoked _ _ _ _ _ _ changed
  | superseded _ _ _ _ _ _ changed | retired _ _ _ changed | evidenceRevoked _ _ changed =>
      rw [changed]
      exact issued

theorem step_answered (sound : engine.Sound) {op : Op} {reply : Reply}
    (moved : engine.step op = some (reply, next)) {request : PromotionRequestId}
    (answered : engine.control.idempotency.contains request = true) :
    next.control.idempotency.contains request = true := by
  cases step_effect moved with
  | idle _ same => rwa [same]
  | decided _ _ _ _ _ _ changed =>
      rw [changed]
      exact OrderedMaps.contains_insert_of_held _ answered
  | issued _ _ _ _ _ _ changed =>
      rw [changed]
      exact OrderedMaps.contains_insert_of_held _ answered
  | closed _ _ _ _ _ changed =>
      rw [changed]
      split <;> exact answered
  | @committed plan _ _ _ _ _ _ _ _ _ _ changed =>
      have kept : next.control.idempotency =
          committedIdempotency engine.control.idempotency plan := by
        rw [changed]
      rw [kept]
      unfold committedIdempotency
      split
      · exact answered
      · exact OrderedMaps.contains_insert_of_held _ answered
  | reloaded decoded changed =>
      have same := (image_reloaded sound decoded changed).idempotency
      rw [same]
      exact answered
  | published _ _ changed | restarted _ changed | recovered changed
  | compatibilityMoved _ changed | registrationRefused _ _ changed
  | registered _ _ _ _ _ _ _ changed | submitted _ _ _ _ changed | undecided _ _ _ changed
  | quarantined _ _ _ _ changed | releaseRefused _ _ changed
  | released _ _ _ _ _ _ _ _ changed | revoked _ _ _ _ _ _ changed
  | superseded _ _ _ _ _ _ changed | retired _ _ _ changed | evidenceRevoked _ _ changed =>
      rw [changed]
      exact answered

def Fenced (engine : Engine) (id : PromotionPlanId) : Prop :=
  engine.control.planGenerator.Issued id ∧
    ∀ (artifact : ArtifactId) (reservation : PendingTransition),
      engine.control.pending[artifact]? = some reservation → reservation.plan ≠ id

/-- The request was answered and no reservation was made for it. -/
def Spent (engine : Engine) (request : PromotionRequestId) : Prop :=
  engine.control.idempotency.contains request = true ∧
    ∀ (artifact : ArtifactId) (reservation : PendingTransition),
      engine.control.pending[artifact]? = some reservation → reservation.request ≠ request

/-- The revision has reached the stage generation. -/
def Attained (engine : Engine) (id : ArtifactId) (revision : ArtifactRevision) (bound : Nat) :
    Prop :=
  ∃ artifact, engine.state.findRevision id revision = some artifact ∧
    bound ≤ artifact.stageGeneration.value.toNat

/-- The revision has reached the stage generation and its reservation was made no earlier. -/
def Passed (engine : Engine) (id : ArtifactId) (revision : ArtifactRevision) (bound : Nat) : Prop :=
  engine.Attained id revision bound ∧ ∀ reservation, engine.control.pending[id]? = some reservation →
    reservation.artifactRevision = revision → bound ≤ reservation.stageGeneration.value.toNat

theorem step_fenced (sound : engine.Sound) {op : Op} {reply : Reply}
    (moved : engine.step op = some (reply, next)) {id : PromotionPlanId}
    (fenced : engine.Fenced id) : next.Fenced id := by
  obtain ⟨issued, unnamed⟩ := fenced
  refine ⟨step_plan_issued sound moved issued, ?_⟩
  intro artifact reservation held
  rcases step_pending moved held with old | ⟨plan, _, planned, fresh, _⟩
  · exact unnamed artifact reservation old
  · rw [planned, fresh]
    exact (issued.ne_next (sound.coherent.planRoom sound.roomy)).symm

theorem step_spent (sound : engine.Sound) {op : Op} {reply : Reply}
    (moved : engine.step op = some (reply, next)) {request : PromotionRequestId}
    (spent : engine.Spent request) : next.Spent request := by
  obtain ⟨answered, unnamed⟩ := spent
  refine ⟨step_answered sound moved answered, ?_⟩
  intro artifact reservation held
  rcases step_pending moved held with old | ⟨plan, _, _, _, issues⟩
  · exact unnamed artifact reservation old
  · rintro rfl
    have unseen := issues.request_unseen sound
    simp [answered] at unseen

theorem revised_generation {id : ArtifactId} {index : Nat} {op : Op} {reply : Reply}
    {record revised : ArtifactRecord} (change : Revised engine id index op reply record revised) :
    record.stageGeneration.value.toNat ≤ revised.stageGeneration.value.toNat := by
  have bounds := record.stageGeneration.next_bounds
  cases change with
  | kept => exact le_refl _
  | restored => exact le_refl _
  | overtaken state revision named current =>
      unfold supersedeByRegistration
      dsimp only
      split
      · exact bounds.1
      · exact le_refl _
  | applied named first accepts =>
      unfold promotedArtifact
      dsimp only
      split <;> exact bounds.1
  | quarantined current unquarantined open_ => exact bounds.1
  | released current held granted => exact bounds.1
  | revoked target current unrevoked => exact bounds.1
  | superseded successorRecord current unsuperseded open_ => exact bounds.1
  | retired current unretired => exact bounds.1

theorem step_attained (sound : engine.Sound) {op : Op} {reply : Reply}
    (moved : engine.step op = some (reply, next)) {id : ArtifactId} {revision : ArtifactRevision}
    {bound : Nat} (attained : engine.Attained id revision bound) :
    next.Attained id revision bound := by
  obtain ⟨artifact, found, reached⟩ := attained
  obtain ⟨revised, newFound, _, _, change⟩ := step_findRevision sound moved found
  exact ⟨revised, newFound, le_trans reached (revised_generation change)⟩

theorem step_passed (sound : engine.Sound) {op : Op} {reply : Reply}
    (moved : engine.step op = some (reply, next)) {id : ArtifactId} {revision : ArtifactRevision}
    {bound : Nat} (passed : engine.Passed id revision bound) : next.Passed id revision bound := by
  obtain ⟨attained, later⟩ := passed
  refine ⟨step_attained sound moved attained, ?_⟩
  intro reservation held named
  rcases step_pending moved held with old | ⟨plan, artifact_eq, _, _, issues⟩
  · exact later reservation old named
  · obtain ⟨request, now, artifact, _, _, _, _, _, established, rfl, rfl⟩ := issues.evaluated
    obtain ⟨current, found, reached⟩ := attained
    have revision_eq := (findRevision_mem established.found).2
    have id_eq := findRevision_id sound.coherent established.found
    have same : current = artifact := by
      have expected := established.found
      rw [← id_eq, ← revision_eq] at expected
      change artifact.revision = revision at named
      change artifact.id = id at artifact_eq
      rw [artifact_eq, named] at expected
      exact Option.some.inj (found.symm.trans expected)
    rw [same] at reached
    exact reached

structure Settled (engine : Engine) (plan : PromotionPlan) : Prop where
  fenced : engine.Fenced plan.id
  spent : engine.Spent plan.request
  passed : engine.Passed plan.artifact plan.artifactRevision (plan.stageGeneration.value.toNat + 1)

theorem step_settled (sound : engine.Sound) {op : Op} {reply : Reply}
    (moved : engine.step op = some (reply, next)) {plan : PromotionPlan}
    (settled : engine.Settled plan) : next.Settled plan :=
  ⟨step_fenced sound moved settled.fenced, step_spent sound moved settled.spent,
    step_passed sound moved settled.passed⟩

theorem fenced_of_unreserved (sound : engine.Sound) {plan : PromotionPlan}
    (stored : engine.state.plans[plan.id]? = some plan)
    (unreserved : holdsReservation engine.state plan = false) : engine.Fenced plan.id := by
  refine ⟨(sound.coherent.plans _ _ stored).2.1, ?_⟩
  intro artifact reservation held named
  obtain ⟨same, _, _, reserves⟩ := sound.coherent.reservations artifact reservation held
  have reserved := reserves plan (by rw [named]; exact stored)
  have artifact_eq : plan.artifact = artifact := reserved.artifact.trans same
  subst artifact_eq
  change engine.state.pending[plan.artifact]? = some reservation at held
  simp [holdsReservation, held, named] at unreserved

theorem accepted_reservation {start : Engine} {trace : List EngineStep} (sound : start.Sound)
    (empty : start.state.pending = ∅) (run : EngineRun start trace engine) {plan : PromotionPlan}
    {now : UInt64} {artifact : ArtifactRecord} (accepts : engine.Accepts plan now artifact) :
    (∃ state created, engine.control.pending[plan.artifact]? =
      some (makeReservation state plan created)) ∧
      engine.Attained plan.artifact plan.artifactRevision plan.stageGeneration.value.toNat := by
  obtain ⟨past, issue, since, reservation, rfl, issues, _, held, _⟩ :=
    commit_window sound empty run accepts
  obtain ⟨earlier, issued, window⟩ := run.cut
  have issueSound := EngineRun.sound earlier sound
  constructor
  · obtain ⟨_, created, _, _, _, _, _, _, _, _, made⟩ := issues.evaluated
    rw [made] at held
    exact ⟨_, _, held⟩
  · obtain ⟨_, staged⟩ := issues.inStage issueSound issued
    obtain ⟨found, foundAt, _, generation⟩ := staged
    have kept := window.invariant
      (fun engine => engine.Sound ∧
        engine.Attained plan.artifact plan.artifactRevision plan.stageGeneration.value.toNat)
      (fun _ _ _ _ holds moved => ⟨sound_step holds.1 moved, step_attained holds.1 moved holds.2⟩)
      ⟨sound_step issueSound issued, found, foundAt, by rw [generation]⟩
    exact kept.2

theorem Accepts.named {plan : PromotionPlan} {now : UInt64} {artifact : ArtifactRecord}
    (accepts : engine.Accepts plan now artifact) :
    ∃ reservation, engine.control.pending[plan.artifact]? = some reservation ∧
      reservation.plan = plan.id := by
  have reserved := accepts.reserved
  unfold holdsReservation at reserved
  split at reserved
  · simp at reserved
  · rename_i reservation held
    exact ⟨reservation, held, by simpa using reserved⟩

def DistinctRequests (engine : Engine) : Prop :=
  ∀ (left right : ArtifactId) (first second : PendingTransition),
    engine.control.pending[left]? = some first → engine.control.pending[right]? = some second →
      first.request = second.request → left = right

theorem step_distinctRequests (sound : engine.Sound) {op : Op} {reply : Reply}
    (moved : engine.step op = some (reply, next)) (distinct : engine.DistinctRequests) :
    next.DistinctRequests := by
  intro left right first second firstHeld secondHeld same
  have apart {id : ArtifactId} {old new : PendingTransition} {plan : PromotionPlan}
      (held : engine.control.pending[id]? = some old)
      (issues : IssuesPlan ⟨engine, op, reply, next⟩ plan new) : new.request ≠ old.request := by
    intro equal
    have answered := (sound.coherent.reservations id old held).2.2.1
    have unseen := issues.request_unseen sound
    rw [equal] at unseen
    change engine.control.idempotency.contains old.request = false at unseen
    simp [answered] at unseen
  rcases step_pending moved firstHeld with oldFirst | ⟨plan, named, _, _, issues⟩
  · rcases step_pending moved secondHeld with oldSecond | ⟨_, _, _, _, issues⟩
    · exact distinct left right first second oldFirst oldSecond same
    · exact absurd same.symm (apart oldFirst issues)
  · rcases step_pending moved secondHeld with oldSecond | ⟨other, otherNamed, _, _, otherIssues⟩
    · exact absurd same (apart oldSecond issues)
    · obtain ⟨request, now, artifact, _, input, _, _, _, established, rfl, _⟩ := issues.evaluated
      obtain ⟨again, later, found, _, otherInput, _, _, _, otherEstablished, rfl, _⟩ :=
        otherIssues.evaluated
      cases input.symm.trans otherInput
      have same : artifact = found :=
        Option.some.inj (established.found.symm.trans otherEstablished.found)
      rw [← named, ← otherNamed, same]

theorem find?_replaceFirst {revision : ArtifactRevision} {record artifact : ArtifactRecord}
    (chain : List ArtifactRecord) (named : record.revision = revision)
    (found : chain.find? (fun record => record.revision == revision) = some artifact) :
    (CoordinatorState.replaceFirst revision record chain).find?
      (fun record => record.revision == revision) = some record := by
  induction chain with
  | nil => simp at found
  | cons head rest ih =>
      rw [CoordinatorState.replaceFirst]
      by_cases matches_ : head.revision = revision
      · rw [if_pos matches_]
        exact List.find?_cons_of_pos (by simpa using named)
      · rw [List.find?_cons_of_neg (by simpa using matches_)] at found
        rw [if_neg matches_, List.find?_cons_of_neg (by simpa using matches_)]
        exact ih found

theorem commit_advances (sound : engine.Sound) (budget : engine.Budgeted) {plan : PromotionPlan}
    {now : UInt64} {result : CommitResult}
    (moved : engine.step (.commit plan now) = some (.committed (.ok result), next))
    (acknowledged : result.outcome = .promotionCommitted) {bound : Nat}
    (attained : engine.Attained plan.artifact plan.artifactRevision bound) :
    next.Attained plan.artifact plan.artifactRevision (bound + 1) := by
  cases step_effect moved with
  | idle quiet _ => simp [Reply.confirmsChange] at quiet
  | closed _ quiet => exact absurd acknowledged quiet
  | @committed _ _ artifact _ _ _ accepts _ _ _ _ changed =>
      obtain ⟨current, found, reached⟩ := attained
      have same : current = artifact := Option.some.inj (found.symm.trans accepts.found)
      subst same
      have chain : next.control.chain plan.artifact = CoordinatorState.replaceFirst
          plan.artifactRevision (promotedArtifact engine.state.advanceSequence plan current)
          (engine.control.chain plan.artifact) := by
        rw [changed]
        exact Std.ExtTreeMap.getD_insert_self
      have revision : (promotedArtifact engine.state.advanceSequence plan current).revision =
          plan.artifactRevision := by
        rw [← (findRevision_mem found).2]
        unfold promotedArtifact
        dsimp only
        split <;> rfl
      have generation : (promotedArtifact engine.state.advanceSequence plan
          current).stageGeneration = current.stageGeneration.next := by
        unfold promotedArtifact
        dsimp only
        split <;> rfl
      refine ⟨promotedArtifact engine.state.advanceSequence plan current, ?_, ?_⟩
      · change (next.control.chain plan.artifact).find? _ = _
        rw [chain]
        exact find?_replaceFirst _ revision found
      · obtain ⟨index, position⟩ := List.mem_iff_getElem?.mp (findRevision_mem found).1
        have below : current.stageGeneration.value.toNat < 2 ^ 64 - 1 := by
          have budgeted := budget plan.artifact index current position
          have roomy := sound.roomy.2
          unfold kMaxNodes at roomy
          unfold ArtifactRecord.potential at budgeted
          omega
        rw [generation, Counter.next_value]
        omega

theorem commit_settles (sound : engine.Sound) (budget : engine.Budgeted)
    (distinct : engine.DistinctRequests) {plan : PromotionPlan} {now : UInt64}
    {result : CommitResult}
    (moved : engine.step (.commit plan now) = some (.committed (.ok result), next))
    (acknowledged : result.outcome = .promotionCommitted)
    (attained : engine.Attained plan.artifact plan.artifactRevision
      plan.stageGeneration.value.toNat) : next.Settled plan := by
  obtain ⟨artifact, accepts, _, freed⟩ := acknowledged_accepts moved acknowledged
  have stored := accepts.stored
  have others {other : ArtifactId} {reservation : PendingTransition}
      (held : next.control.pending[other]? = some reservation) :
      other ≠ plan.artifact ∧ engine.control.pending[other]? = some reservation := by
    change next.state.pending[other]? = some reservation at held
    rw [freed] at held
    exact OrderedMaps.erase_cases held
  obtain ⟨reservation, held, named⟩ := accepts.named
  obtain ⟨_, _, answered, reserves⟩ := sound.coherent.reservations _ _ held
  have request := (reserves plan (by rw [named]; exact stored)).request
  constructor
  · refine ⟨step_plan_issued sound moved (sound.coherent.plans _ _ stored).2.1, ?_⟩
    intro other found present planned
    obtain ⟨apart, before⟩ := others present
    obtain ⟨same, _, _, agrees⟩ := sound.coherent.reservations other found before
    exact apart ((agrees plan (by rw [planned]; exact stored)).artifact.trans same).symm
  · rw [request]
    refine ⟨step_answered sound moved answered, ?_⟩
    intro other found present requested
    obtain ⟨apart, before⟩ := others present
    exact apart (distinct other plan.artifact found reservation before held requested)
  · refine ⟨commit_advances sound budget moved acknowledged attained, ?_⟩
    intro found present
    exact absurd rfl (others present).1

def Apart (first second : PromotionPlan) : Prop :=
  second.id ≠ first.id ∧ second.request ≠ first.request ∧
    ¬(second.artifact = first.artifact ∧ second.artifactRevision = first.artifactRevision ∧
      second.stageGeneration = first.stageGeneration)

theorem settled_apart {first second : PromotionPlan} (settled : engine.Settled first)
    (reserved : ∃ state created, engine.control.pending[second.artifact]? =
      some (makeReservation state second created)) : Apart first second := by
  obtain ⟨state, created, held⟩ := reserved
  refine ⟨settled.fenced.2 _ _ held, settled.spent.2 _ _ held, ?_⟩
  rintro ⟨artifact_eq, revision_eq, generation_eq⟩
  rw [artifact_eq] at held
  have later := settled.passed.2 _ held revision_eq
  change first.stageGeneration.value.toNat + 1 ≤ second.stageGeneration.value.toNat at later
  rw [generation_eq] at later
  omega

theorem step_records (sound : engine.Sound) {op : Op} {reply : Reply}
    (moved : engine.step op = some (reply, next)) {id : TransitionId} {record : PromotionRecord}
    (held : next.control.records[id]? = some record) :
    (∃ old, engine.control.records[id]? = some old ∧ record.plan = old.plan ∧
      record.request = old.request) ∨ record.plan.valid = false ∨
      ∃ plan, Commits ⟨engine, op, reply, next⟩ plan ∧ record.request = plan.request ∧
        id = engine.control.transitionGenerator.next := by
  have kept (same : next.control.records = engine.control.records) :
      ∃ old, engine.control.records[id]? = some old ∧ record.plan = old.plan ∧
        record.request = old.request := by
    rw [same] at held
    exact ⟨record, held, rfl, rfl⟩
  have added {bound : UInt64} {made : PromotionRecord}
      (changed : next.control.records =
        putBounded bound engine.control.records made.transition made)
      (planless : made.plan = {}) : (∃ old, engine.control.records[id]? = some old ∧
        record.plan = old.plan ∧ record.request = old.request) ∨ record.plan.valid = false := by
    rw [changed] at held
    rcases putBounded_entry held with ⟨_, rfl⟩ | ⟨_, old⟩
    · right
      rw [planless]
      rfl
    · exact .inl ⟨record, old, rfl, rfl⟩
  cases step_effect moved with
  | idle _ same => exact .inl (kept (by rw [same]))
  | closed _ _ _ _ _ changed =>
      refine .inl (kept ?_)
      rw [changed]
      split <;> rfl
  | committed _ acknowledged record_eq _ _ changed =>
      have records := congrArg Control.records changed
      change _ = putBounded _ engine.control.records _ _ at records
      rw [records] at held
      rcases putBounded_entry held with ⟨same, made⟩ | ⟨_, old⟩
      · refine .inr (.inr ⟨_, ⟨_, _, rfl, rfl, acknowledged⟩, ?_, ?_⟩)
        · rw [made, record_eq]
          rfl
        · rw [same, record_eq]
          rfl
      · exact .inl ⟨record, old, rfl, rfl⟩
  | released request _ _ _ _ _ _ record_eq changed =>
      have records := congrArg Control.records changed
      rcases added records (by rw [record_eq]; rfl) with old | planless
      · exact .inl old
      · exact .inr (.inl planless)
  | revoked _ _ _ _ _ record_eq changed =>
      have records := congrArg Control.records changed
      rcases added records (by rw [record_eq]; rfl) with old | planless
      · exact .inl old
      · exact .inr (.inl planless)
  | superseded _ _ _ _ _ record_eq changed =>
      have records := congrArg Control.records changed
      rcases added records (by rw [record_eq]; rfl) with old | planless
      · exact .inl old
      · exact .inr (.inl planless)
  | retired _ _ record_eq changed =>
      have records := congrArg Control.records changed
      rcases added records (by rw [record_eq]; rfl) with old | planless
      · exact .inl old
      · exact .inr (.inl planless)
  | reloaded decoded changed =>
      have records := (image_reloaded sound decoded changed).records
      rw [records, Std.ExtTreeMap.getElem?_map] at held
      obtain ⟨old, present, rfl⟩ := Option.map_eq_some_iff.mp held
      exact .inl ⟨old, present, rfl, rfl⟩
  | published _ _ changed | restarted _ changed | recovered changed
  | compatibilityMoved _ changed | registrationRefused _ _ changed
  | registered _ _ _ _ _ _ _ changed | submitted _ _ _ _ changed | undecided _ _ _ changed
  | decided _ _ _ _ _ _ changed | issued _ _ _ _ _ _ changed
  | quarantined _ _ _ _ changed | releaseRefused _ _ changed | evidenceRevoked _ _ changed =>
      have records := congrArg Control.records changed
      exact .inl (kept records)

def SingleRecords (engine : Engine) : Prop :=
  ∀ (left right : TransitionId) (first second : PromotionRecord),
    engine.state.records[left]? = some first → engine.state.records[right]? = some second →
      first.plan.valid = true → second.plan.valid = true → first.request = second.request →
        left = right

def RecordsSpent (engine : Engine) : Prop :=
  ∀ (id : TransitionId) (record : PromotionRecord), engine.state.records[id]? = some record →
    record.plan.valid = true → engine.Spent record.request

theorem step_singleRecords (sound : engine.Sound) {op : Op} {reply : Reply}
    (moved : engine.step op = some (reply, next)) (spent : engine.RecordsSpent)
    (single : engine.SingleRecords)
    (settles : ∀ plan, Commits ⟨engine, op, reply, next⟩ plan →
      ¬engine.Spent plan.request ∧ next.Spent plan.request) :
    next.RecordsSpent ∧ next.SingleRecords := by
  constructor
  · intro id record held backed
    rcases step_records sound moved held with ⟨old, present, plan, request⟩ | planless | committed
    · rw [request]
      exact step_spent sound moved (spent id old present (by rwa [← plan]))
    · simp [planless] at backed
    · obtain ⟨plan, commits, request, _⟩ := committed
      rw [request]
      exact (settles plan commits).2
  · intro left right first second firstHeld secondHeld firstBacked secondBacked same
    rcases step_records sound moved firstHeld with ⟨old, present, plan, request⟩ | planless |
      ⟨plan, commits, request, fresh⟩
    · have firstSpent := spent left old present (by rwa [← plan])
      rcases step_records sound moved secondHeld with ⟨other, otherPresent, otherPlan,
        otherRequest⟩ | planless | ⟨committed, commits, otherRequest, _⟩
      · refine single left right old other present otherPresent (by rwa [← plan])
          (by rwa [← otherPlan]) ?_
        rw [← request, same, otherRequest]
      · simp [planless] at secondBacked
      · rw [← request, same, otherRequest] at firstSpent
        exact absurd firstSpent (settles committed commits).1
    · simp [planless] at firstBacked
    · rcases step_records sound moved secondHeld with ⟨other, otherPresent, otherPlan,
        otherRequest⟩ | planless | ⟨_, _, _, otherFresh⟩
      · have otherSpent := spent right other otherPresent (by rwa [← otherPlan])
        rw [← otherRequest, ← same, request] at otherSpent
        exact absurd otherSpent (settles plan commits).1
      · simp [planless] at secondBacked
      · rw [fresh, otherFresh]

/-- The commits of an executed past are pairwise apart, and the state it led to has settled every
one of them. -/
structure Once (past : List EngineStep) (engine : Engine) : Prop where
  distinct : engine.DistinctRequests
  apart : past.Pairwise fun first second => ∀ plan later, Commits first plan →
    Commits second later → Apart plan later
  settled : ∀ step ∈ past, ∀ plan, Commits step plan → engine.Settled plan
  recordsSpent : engine.RecordsSpent
  singleRecords : engine.SingleRecords

theorem run_once {start final : Engine} {trace : List EngineStep} (constructed : Constructed start)
    (run : EngineRun start trace final) : Once trace final := by
  have empty : start.state.pending = ∅ ∧ start.state.records = ∅ := by
    obtain ⟨config, epoch, salting, naming, rfl⟩ := constructed
    exact ⟨rfl, rfl⟩
  refine run.byHistory Once ?_ ?_
  · constructor
    case distinct =>
      intro left right first second held
      exact (no_entry empty.1 held).elim
    case apart => exact .nil
    case settled => simp
    case recordsSpent =>
      intro id record held
      exact (no_entry empty.2 held).elim
    case singleRecords =>
      intro left right first second held
      exact (no_entry empty.2 held).elim
  · intro past before op reply after reached once moved
    have sound := EngineRun.sound reached constructed.sound
    have budget := EngineRun.budgeted reached constructed
    -- A commit rests on a reservation of its own and settles its plan.
    have commits (plan : PromotionPlan) (commits : Commits ⟨before, op, reply, after⟩ plan) :
        (∃ state created, before.control.pending[plan.artifact]? =
          some (makeReservation state plan created)) ∧ after.Settled plan := by
      obtain ⟨now, result, rfl, rfl, acknowledged⟩ := commits
      obtain ⟨artifact, accepts, _, _⟩ := acknowledged_accepts moved acknowledged
      obtain ⟨reserved, attained⟩ :=
        accepted_reservation constructed.sound empty.1 reached accepts
      exact ⟨reserved, commit_settles sound budget once.distinct moved acknowledged attained⟩
    obtain ⟨recordsSpent, singleRecords⟩ := step_singleRecords sound moved once.recordsSpent
      once.singleRecords fun plan committed => by
        obtain ⟨⟨state, created, held⟩, settled⟩ := commits plan committed
        exact ⟨fun spent => spent.2 _ _ held rfl, settled.spent⟩
    refine ⟨step_distinctRequests sound moved once.distinct, ?_, ?_, recordsSpent, singleRecords⟩
    · rw [List.pairwise_append]
      refine ⟨once.apart, List.pairwise_singleton _ _, ?_⟩
      intro first earlier second last plan later committed second_commits
      rw [List.mem_singleton.mp last] at second_commits
      exact settled_apart (once.settled first earlier plan committed)
        (commits later second_commits).1
    · intro step executed plan committed
      rcases List.mem_append.mp executed with earlier | last
      · exact step_settled sound moved (once.settled step earlier plan committed)
      · rw [List.mem_singleton.mp last] at committed
        exact (commits plan committed).2

theorem fenced_never_commits {start final : Engine} {trace : List EngineStep} (sound : start.Sound)
    (run : EngineRun start trace final) {id : PromotionPlanId} (fenced : start.Fenced id)
    {step : EngineStep} (executed : step ∈ trace) {plan : PromotionPlan}
    (commits : Commits step plan) : plan.id ≠ id := by
  obtain ⟨past, future, rfl⟩ := List.append_of_mem executed
  obtain ⟨before, moved, _⟩ := run.cut
  have kept := before.invariant (fun engine => engine.Sound ∧ engine.Fenced id)
    (fun _ _ _ _ holds moved => ⟨sound_step holds.1 moved, step_fenced holds.1 moved holds.2⟩)
    ⟨sound, fenced⟩
  obtain ⟨now, result, input, output, acknowledged⟩ := commits
  rw [input, output] at moved
  obtain ⟨artifact, accepts, _, _⟩ := acknowledged_accepts moved acknowledged
  obtain ⟨reservation, held, named⟩ := accepts.named
  rw [← named]
  exact kept.2.2 _ _ held

/-- Over every run: a stored plan its artifact's reservation does not name is never committed
afterwards, two commits differ in plan, request and stage generation of their revision, and every
request has at most one plan-backed record. -/
theorem run_exactly_once {start final : Engine} {trace : List EngineStep}
    (constructed : Constructed start) (run : EngineRun start trace final) :
    (∀ (past future : List EngineStep) (middle : Engine) (plan : PromotionPlan),
      trace = past ++ future → EngineRun start past middle → EngineRun middle future final →
      middle.state.plans[plan.id]? = some plan → holdsReservation middle.state plan = false →
      ∀ step ∈ future, ∀ later, Commits step later → later.id ≠ plan.id) ∧
    (trace.Pairwise fun first second => ∀ plan later, Commits first plan → Commits second later →
      later.id ≠ plan.id ∧ later.request ≠ plan.request ∧
        ¬(later.artifact = plan.artifact ∧ later.artifactRevision = plan.artifactRevision ∧
          later.stageGeneration = plan.stageGeneration)) ∧
    ∀ (left right : TransitionId) (first second : PromotionRecord),
      final.state.records[left]? = some first → final.state.records[right]? = some second →
        first.plan.valid = true → second.plan.valid = true → first.request = second.request →
          left = right := by
  have once := run_once constructed run
  refine ⟨?_, once.apart, once.singleRecords⟩
  intro past future middle plan _ before after stored unreserved step executed later commits
  have sound := EngineRun.sound before constructed.sound
  exact fenced_never_commits sound after (fenced_of_unreserved sound stored unreserved) executed
    commits

def recommitChoices : List (Engine → Op) :=
  promoteChoices ++
    [fun engine => .commit (engine.planFor 1) 0, fun _ => .restart ⟨2⟩,
      fun engine => .commit (engine.planFor 1) 0]

def committedOnce (played : List EngineStep × Engine) : Bool :=
  (played.1.countP fun step => match step.input with | .commit _ _ => true | _ => false) == 3 &&
    played.2.state.records.size == 1 &&
    (played.1.any fun step =>
      match step.input, step.output with
      | .commit _ _, .committed (.ok result) => result.outcome == .promotionCommitted
      | _, _ => false)

theorem run_exactly_once_recommitted :
    ∃ (trace : List EngineStep) (final : Engine), EngineRun sampleEngine trace final ∧
      final.state.records.size = 1 ∧ (∃ step ∈ trace, ∃ plan, Commits step plan) ∧
      trace.Pairwise fun first second => ∀ plan later, Commits first plan →
        Commits second later → later.id ≠ plan.id ∧ later.request ≠ plan.request ∧
          ¬(later.artifact = plan.artifact ∧ later.artifactRevision = plan.artifactRevision ∧
            later.stageGeneration = plan.stageGeneration) := by
  have evaluated : (play step sampleEngine recommitChoices).any committedOnce = true := by
    rw [recommitChoices, play_append promote_played]
    decide +kernel
  obtain ⟨trace, final, run, checked⟩ := run_of_checked evaluated
  simp only [committedOnce, Bool.and_eq_true, List.any_eq_true, beq_iff_eq] at checked
  obtain ⟨⟨_, single⟩, step, executed, commits⟩ := checked
  refine ⟨trace, final, run, single, ⟨step, executed, ?_⟩,
    (run_exactly_once sampleEngine_constructed run).2.1⟩
  split at commits
  · rename_i plan now result input output
    exact ⟨plan, now, result, input, output, by simpa using commits⟩
  · simp at commits

end Engine

end ArtifactPromotion
