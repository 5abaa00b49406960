import ArtifactPromotion.Engine.PlannedStages

/-! What a reservation accounts for: the revision it was made for is still in the reserved stage,
and the plan it names can still be presented. -/

namespace ArtifactPromotion

open Runs

namespace Engine

variable {engine next : Engine}

def ReservationsAccount (engine : Engine) : Prop :=
  ∀ (id : ArtifactId) (reservation : PendingTransition),
    engine.state.pending[id]? = some reservation →
      engine.InStage id reservation.artifactRevision reservation.source reservation.stageGeneration

theorem step_reservations_account (sound : engine.Sound) {op : Op} {reply : Reply}
    (moved : engine.step op = some (reply, next))
    (unmoved : ¬MovesReserved ⟨engine, op, reply, next⟩) (account : engine.ReservationsAccount) :
    next.ReservationsAccount := by
  intro id reservation held
  rcases step_pending moved held with old | ⟨plan, rfl, _, _, issues⟩
  · exact step_reserved_stage sound moved old held unmoved (account id reservation old)
  · obtain ⟨revision, staged⟩ := issues.inStage sound moved
    obtain ⟨_, _, _, _, _, _, _, _, _, _, made⟩ := issues.evaluated
    have source : reservation.source = plan.source := by rw [made]; rfl
    have generation : reservation.stageGeneration = plan.stageGeneration := by rw [made]; rfl
    rw [revision, source, generation]
    exact staged

/-- In every run none of whose steps moves a revision under its reservation, the reservations of
every state reached account for the stage of their revision. -/
theorem run_reservations_account {start final : Engine} {trace : List EngineStep}
    (constructed : Constructed start) (run : EngineRun start trace final)
    (condition : ∀ step ∈ trace, ¬MovesReserved step) : final.ReservationsAccount := by
  have initially : start.Sound ∧ start.ReservationsAccount := by
    refine ⟨constructed.sound, ?_⟩
    obtain ⟨config, epoch, salting, naming, rfl⟩ := constructed
    intro id reservation held
    have empty : (create config epoch salting naming).state.pending = ∅ := rfl
    simp [empty] at held
  have kept := run.guarded (fun engine => engine.Sound ∧ engine.ReservationsAccount)
    (fun step => ¬MovesReserved step)
    (fun _ holds unmoved moved => ⟨sound_step holds.1 moved,
      step_reservations_account holds.1 moved unmoved holds.2⟩) initially condition
  exact kept.2

def reservesQuietly (played : List EngineStep × Engine) : Bool :=
  (played.1.all fun step =>
    match step.input with
    | .registerArtifact registration _ => step.before.state.pending[registration.id]?.isNone
    | .releaseQuarantine _ _ _ _ => false
    | _ => true) &&
  (played.2.state.pending[(⟨0, 5⟩ : ArtifactId)]?).isSome

theorem run_reservations_account_reserved :
    ∃ (trace : List EngineStep) (final : Engine) (reservation : PendingTransition),
      EngineRun sampleEngine trace final ∧ (∀ step ∈ trace, ¬MovesReserved step) ∧
        final.state.pending[(⟨0, 5⟩ : ArtifactId)]? = some reservation ∧
        final.InStage ⟨0, 5⟩ reservation.artifactRevision reservation.source
          reservation.stageGeneration := by
  have evaluated : (play step sampleEngine (promoteChoices.take 3)).any reservesQuietly = true := by
    decide +kernel
  obtain ⟨trace, final, run, checked⟩ := run_of_checked evaluated
  simp only [reservesQuietly, Bool.and_eq_true, List.all_eq_true, Option.isSome_iff_exists]
    at checked
  obtain ⟨quiet, reservation, held⟩ := checked
  have condition : ∀ step ∈ trace, ¬MovesReserved step := by
    rintro step inside ⟨id, reservation, current, held, _, _, moves⟩
    have alone := quiet step inside
    rcases moves with ⟨registration, now, added, input, _, named, _⟩ |
      ⟨authority, now, later, result, input, _⟩
    · simp [input, named, held] at alone
    · simp [input] at alone
  exact ⟨trace, final, reservation, run, condition, held,
    run_reservations_account sampleEngine_constructed run condition _ _ held⟩

def reservesStale (engine : Engine) : Bool :=
  engine.state.pending[(⟨0, 5⟩ : ArtifactId)]?.any fun reservation =>
    (engine.state.findRevision ⟨0, 5⟩ reservation.artifactRevision).all fun artifact =>
      artifact.stage != reservation.source

/-- A registration supersedes the reserved revision and leaves the reservation behind. -/
theorem overtaken_reservation_stale :
    ∃ engine, Reachable engine ∧ ¬engine.ReservationsAccount := by
  have evaluated : ((play step sampleEngine (overtakenPlanChoices.take 4)).any fun played =>
      reservesStale played.2) = true := by
    decide +kernel
  obtain ⟨engine, reachable, checked⟩ :=
    Reachable.of_play reservesStale sampleEngine_constructed evaluated
  simp only [reservesStale, Option.any_eq_true, Option.all_eq_true] at checked
  obtain ⟨reservation, held, left⟩ := checked
  refine ⟨engine, reachable, fun account => ?_⟩
  obtain ⟨artifact, found, stage, _⟩ := account _ reservation held
  have apart := left artifact found
  simp [stage] at apart

/-- The plan a reservation names is stored and describes the reserved transition. -/
structure Presentable (engine : Engine) (id : ArtifactId) (reservation : PendingTransition)
    (plan : PromotionPlan) : Prop where
  stored : engine.state.plans[reservation.plan]? = some plan
  artifact : plan.artifact = id
  revision : plan.artifactRevision = reservation.artifactRevision
  request : plan.request = reservation.request
  attempt : plan.attempt = reservation.attempt
  source : plan.source = reservation.source
  target : plan.target = reservation.target

def NoneStranded (engine : Engine) : Prop :=
  ∀ (id : ArtifactId) (reservation : PendingTransition),
    engine.state.pending[id]? = some reservation → ∃ plan, engine.Presentable id reservation plan

/-- The operation is an evaluation that derives a plan while the plan store is full and its
smallest identity is the plan of a standing reservation. -/
def EvictsReserved (engine : Engine) (op : Op) : Prop :=
  ∃ (request : PromotionRequest) (now : UInt64) (artifact : ArtifactRecord) (id : ArtifactId)
    (reservation : PendingTransition), op = .evaluate request now ∧
    engine.admissionOpen = true ∧ engine.Issues request now artifact ∧
    engine.config.maxPlansRetained.toNat ≤ engine.state.plans.size ∧
    engine.state.pending[id]? = some reservation ∧
    engine.state.plans.minKey? = some reservation.plan

theorem MakesRoom.keeps {request : PromotionRequest} {now : UInt64}
    {kept : OrderedMap PromotionPlanId PromotionPlan} (room : engine.MakesRoom request now kept)
    (admitted : engine.admissionOpen = true)
    (spared : ¬engine.EvictsReserved (.evaluate request now)) {id : ArtifactId}
    {reservation : PendingTransition} (held : engine.state.pending[id]? = some reservation) :
    kept[reservation.plan]? = engine.control.plans[reservation.plan]? := by
  rcases room.crowded with same | ⟨⟨artifact, issues⟩, full⟩
  · rw [same]
  rcases room.evicts with rfl | rfl
  · rfl
  unfold eraseFirst
  split
  · rfl
  · rename_i key first
    refine OrderedMaps.getElem?_erase_ne _ ?_
    intro same
    exact spared ⟨request, now, artifact, id, reservation, rfl, admitted, issues, full, held,
      by rw [same]; exact first⟩

theorem step_reserved_plan (sound : engine.Sound) {op : Op} {reply : Reply}
    (moved : engine.step op = some (reply, next)) (spared : ¬engine.EvictsReserved op)
    {id : ArtifactId} {reservation : PendingTransition}
    (held : engine.state.pending[id]? = some reservation)
    (still : next.state.pending[id]? = some reservation) :
    next.state.plans[reservation.plan]? = engine.state.plans[reservation.plan]? := by
  change next.control.plans[reservation.plan]? = engine.control.plans[reservation.plan]?
  have still : next.control.pending[id]? = some reservation := still
  have kept (same : next.control.plans = engine.control.plans) :
      next.control.plans[reservation.plan]? = engine.control.plans[reservation.plan]? := by rw [same]
  cases step_effect moved with
  | decided _ _ opens _ evicted _ changed =>
      rw [changed]
      exact evicted.keeps opens.admitted spared held
  | issued _ _ _ _ opens evicted changed =>
      have allocated := (sound.coherent.reservations id reservation held).2.1
      have older := allocated.ne_next (sound.coherent.planRoom sound.roomy)
      rw [changed]
      exact (OrderedMaps.getElem?_insert_ne _ _ older).trans
        (evicted.keeps opens.admitted spared held)
  | closed released _ _ _ _ changed =>
      rw [changed]
      cases released <;> rfl
  | reloaded _ changed =>
      rw [changed] at still
      simp at still
  | idle _ changed | published _ _ changed | restarted _ changed | recovered changed
  | compatibilityMoved _ changed | registrationRefused _ _ changed
  | registered _ _ _ _ _ _ _ changed | submitted _ _ _ _ changed | undecided _ _ _ changed
  | committed _ _ _ _ _ changed | quarantined _ _ _ _ changed | releaseRefused _ _ changed
  | released _ _ _ _ _ _ _ _ changed | revoked _ _ _ _ _ _ changed
  | superseded _ _ _ _ _ _ changed | retired _ _ _ changed | evidenceRevoked _ _ changed =>
      have same := congrArg Control.plans changed
      exact kept same

theorem step_none_stranded (sound : engine.Sound) {op : Op} {reply : Reply}
    (moved : engine.step op = some (reply, next)) (spared : ¬engine.EvictsReserved op)
    (backed : engine.NoneStranded) : next.NoneStranded := by
  intro id reservation held
  rcases step_pending moved held with old | ⟨plan, rfl, named, _, issues⟩
  · obtain ⟨plan, presentable⟩ := backed id reservation old
    refine ⟨plan, { presentable with stored := ?_ }⟩
    rw [step_reserved_plan sound moved spared old held]
    exact presentable.stored
  · obtain ⟨_, _, _, _, _, _, _, _, _, _, rfl⟩ := issues.evaluated
    refine ⟨plan, ?_, rfl, rfl, rfl, rfl, rfl, rfl⟩
    rw [named]
    exact issues.stored

theorem step_strands (sound : engine.Sound) {op : Op} {reply : Reply}
    (moved : engine.step op = some (reply, next)) (evicts : engine.EvictsReserved op) :
    ¬next.NoneStranded := by
  obtain ⟨request, now, artifact, id, reservation, rfl, admitted, issues, full, held, first⟩ := evicts
  have unbound := unbound_of_unseen sound issues.unseen
  have lost (kept : OrderedMap PromotionPlanId PromotionPlan)
      (room : engine.MakesRoom request now kept) : kept[reservation.plan]? = none := by
    have first : engine.control.plans.minKey? = some reservation.plan := first
    rw [room.forced ⟨artifact, issues⟩ full, eraseFirst, first]
    simp
  intro backed
  -- The reservation stands on and its plan is gone.
  have stranded (still : next.state.pending[id]? = some reservation)
      (gone : next.state.plans[reservation.plan]? = none) : False := by
    obtain ⟨plan, presentable⟩ := backed id reservation still
    have stored := presentable.stored
    simp [gone] at stored
  cases step_effect moved with
  | idle _ same =>
      exact evaluate_changes sound moved admitted issues.wellFormed unbound same
  | undecided _ _ planless _ =>
      exact planless.2 ⟨artifact, issues.found, issues.digest⟩
  | decided _ _ _ _ evicted _ changed =>
      have pending := congrArg Control.pending changed
      have plans := congrArg Control.plans changed
      refine stranded ?_ ?_
      · change next.control.pending[id]? = _
        rw [pending]
        exact held
      · change next.control.plans[_]? = _
        rw [plans]
        exact lost _ evicted
  | issued other _ _ _ _ evicted changed =>
      have pending := congrArg Control.pending changed
      have plans := congrArg Control.plans changed
      have allocated := (sound.coherent.reservations id reservation held).2.1
      have older := allocated.ne_next (sound.coherent.planRoom sound.roomy)
      refine stranded ?_ ?_
      · change next.control.pending[id]? = _
        rw [pending]
        refine (OrderedMaps.getElem?_insert_ne _ _ ?_).trans held
        rintro rfl
        have answered := (sound.coherent.reservations _ reservation held).2.2.1
        have free := other.free
        rw [findRevision_id sound.coherent other.found] at held
        simp only [GateContext.conflicted, held, Bool.not_eq_false', Bool.and_eq_true,
          beq_iff_eq] at free
        have unbound : engine.control.idempotency[request.request]? = none := unbound
        rw [free.1, Std.ExtTreeMap.contains_eq_isSome_getElem?, unbound] at answered
        simp at answered
      · change next.control.plans[_]? = _
        rw [plans]
        exact (OrderedMaps.getElem?_insert_ne _ _ older).trans (lost _ evicted)

/-- In every run in which no evaluation evicts the plan of a standing reservation, every
reservation of every state reached can be presented. -/
theorem run_none_stranded {start final : Engine} {trace : List EngineStep}
    (constructed : Constructed start) (run : EngineRun start trace final)
    (condition : ∀ step ∈ trace, ¬step.before.EvictsReserved step.input) :
    final.NoneStranded := by
  have initially : start.Sound ∧ start.NoneStranded := by
    refine ⟨constructed.sound, ?_⟩
    obtain ⟨config, epoch, salting, naming, rfl⟩ := constructed
    intro id reservation held
    have empty : (create config epoch salting naming).state.pending = ∅ := rfl
    simp [empty] at held
  have kept := run.guarded (fun engine => engine.Sound ∧ engine.NoneStranded)
    (fun step => ¬step.before.EvictsReserved step.input)
    (fun _ holds spared moved => ⟨sound_step holds.1 moved,
      step_none_stranded holds.1 moved spared holds.2⟩) initially condition
  exact kept.2

def reservesWithRoom (played : List EngineStep × Engine) : Bool :=
  (played.1.all fun step =>
    match step.input with
    | .evaluate _ _ =>
        step.before.state.plans.size < step.before.config.maxPlansRetained.toNat
    | _ => true) &&
  (played.2.state.pending[(⟨0, 5⟩ : ArtifactId)]?).isSome

theorem run_none_stranded_reserved :
    ∃ (trace : List EngineStep) (final : Engine) (reservation : PendingTransition)
      (plan : PromotionPlan), EngineRun sampleEngine trace final ∧
        (∀ step ∈ trace, ¬step.before.EvictsReserved step.input) ∧
        final.state.pending[(⟨0, 5⟩ : ArtifactId)]? = some reservation ∧
        final.Presentable ⟨0, 5⟩ reservation plan := by
  have evaluated : (play step sampleEngine (promoteChoices.take 3)).any reservesWithRoom = true := by
    decide +kernel
  obtain ⟨trace, final, run, checked⟩ := run_of_checked evaluated
  simp only [reservesWithRoom, Bool.and_eq_true, List.all_eq_true, Option.isSome_iff_exists]
    at checked
  obtain ⟨roomy, reservation, held⟩ := checked
  have condition : ∀ step ∈ trace, ¬step.before.EvictsReserved step.input := by
    rintro step inside ⟨request, now, artifact, id, other, input, _, _, full, _⟩
    have room := roomy step inside
    simp only [input, decide_eq_true_eq] at room
    omega
  obtain ⟨plan, presentable⟩ :=
    run_none_stranded sampleEngine_constructed run condition _ _ held
  exact ⟨trace, final, reservation, plan, run, condition, held, presentable⟩

def secondRegistration : ArtifactRegistration := { sampleRegistration 2 with id := ⟨0, 6⟩ }

def secondRequest (engine : Engine) (target : Stage) (number : UInt64) : PromotionRequest :=
  let current := (engine.state.findCurrent ⟨0, 6⟩).getD {}
  { engine.sampleRequest target number with
    artifact := ⟨0, 6⟩, expectedRevision := current.revision, expectedDigest := current.digest }

def narrowEngine : Engine := create { maxPlansRetained := 1 } ⟨1⟩ 1 2

def crowdedChoices : List (Engine → Op) :=
  [fun _ => .publishPolicy directPolicy,
    fun _ => .registerArtifact (sampleRegistration 1) 0,
    fun _ => .registerArtifact secondRegistration 0,
    fun engine => .evaluate (engine.sampleRequest .promoted 1) 0,
    fun engine => .evaluate (engine.secondRequest .promoted 2) 0]

def evictsFirst (played : List EngineStep × Engine) : Bool :=
  played.1.getLast?.any fun step =>
    match step.input with
    | .evaluate request now =>
        step.before.admissionOpen && requestIsWellFormed request &&
        (step.before.state.idempotency[request.request]?).isNone &&
        step.before.config.maxPlansRetained.toNat ≤ step.before.state.plans.size &&
        (step.before.state.pending[(⟨0, 5⟩ : ArtifactId)]?.any fun reservation =>
          step.before.state.plans.keys == [reservation.plan]) &&
        ((step.before.state.findRevision request.artifact request.expectedRevision).any
          fun artifact => artifact.digest == request.expectedDigest &&
            artifact.stage != request.requestedStage &&
            !GateContext.conflicted step.before.state request.artifact request &&
            !(step.before.evaluationOf request artifact now).result.failed)
    | _ => false

/-- The second evaluation evicts the plan of the first one's reservation. -/
theorem crowded_plan_stranded :
    ∃ engine, Reachable engine ∧ engine.config.valid = true ∧ ¬engine.NoneStranded := by
  have evaluated : (play step narrowEngine crowdedChoices).any evictsFirst = true := by
    decide +kernel
  obtain ⟨trace, final, run, checked⟩ := run_of_checked evaluated
  have constructed : Constructed narrowEngine := ⟨_, _, _, _, rfl⟩
  simp only [evictsFirst, Option.any_eq_true] at checked
  obtain ⟨last, isLast, evicts⟩ := checked
  split at evicts
  · rename_i request now input
    simp only [Bool.and_eq_true, Option.any_eq_true, beq_iff_eq, bne_iff_ne, Bool.not_eq_true',
      decide_eq_true_eq, Option.isNone_iff_eq_none] at evicts
    obtain ⟨⟨⟨⟨⟨admitted, wellFormed⟩, unseen⟩, full⟩, reservation, held, alone⟩, artifact, found,
      ⟨⟨digest, moves⟩, free⟩, eligible⟩ := evicts
    have first : last.before.state.plans.minKey? = some reservation.plan := by
      rw [Std.ExtTreeMap.minKey?_eq_head?_keys, alone]
      rfl
    have condition : last.before.EvictsReserved last.input := by
      refine ⟨request, now, artifact, ⟨0, 5⟩, reservation, input, admitted, ?_, full, held, first⟩
      refine ⟨wellFormed, ?_, found, digest, moves, free, eligible⟩
      intro record present
      simp [unseen] at present
    obtain ⟨past, trace_eq⟩ := List.getLast?_eq_some_iff.mp isLast
    subst trace_eq
    obtain ⟨before, moved, _⟩ := run.cut
    have reached : EngineRun narrowEngine (past ++ [last]) last.after :=
      before.append (.cons moved (.nil _))
    have reachable : Reachable last.after := ⟨narrowEngine, _, constructed, reached⟩
    exact ⟨last.after, reachable, reachable.config_valid,
      step_strands (EngineRun.sound before constructed.sound) moved condition⟩
  · simp at evicts

end Engine

end ArtifactPromotion
