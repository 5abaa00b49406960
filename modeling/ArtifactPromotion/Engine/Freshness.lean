import ArtifactPromotion.Engine.Allocations

/-! Whether a generator ever hands out an identity twice over a run with restarts. -/

namespace ArtifactPromotion

open Runs IdentityGenerator

def Op.reloads : Op → Bool
  | .reload _ => true
  | _ => false

section Generators

variable {tag : IdentityTag} (generator : CoordinatorState → IdentityGenerator tag)

/-- The step took an identity from the generator. A reload replaces generators and takes none. -/
def handsOut (step : EngineStep) : Bool :=
  !step.input.reloads && generator step.after.state == (generator step.before.state).advance

def HandsOut (step : EngineStep) (id : Identity tag) : Prop :=
  handsOut generator step = true ∧ id = (generator step.before.state).next

/-- No identity is handed out by two steps. -/
def Distinct (trace : List EngineStep) : Prop :=
  trace.Pairwise fun first second => ∀ id, HandsOut generator first id →
    ¬HandsOut generator second id

def Few (trace : List EngineStep) : Prop := trace.countP (handsOut generator) < 2 ^ 64

/-- The step left the generator alone or took one identity from it. -/
def Draws (step : EngineStep) : Prop :=
  generator step.after.state = generator step.before.state ∨ handsOut generator step = true

variable {generator}

theorem handsOut_of_steady {step : EngineStep} (running : step.input.reloads = false)
    (steady : Steady (generator step.before.state) (generator step.after.state)) :
    Draws generator step := by
  rcases steady with same | advanced
  · exact .inl same
  · right
    simp [handsOut, running, advanced]

theorem handsOut_advances {step : EngineStep} (taken : handsOut generator step = true) :
    generator step.after.state = (generator step.before.state).advance := by
  simp only [handsOut, Bool.and_eq_true, beq_iff_eq] at taken
  exact taken.2

theorem not_handsOut_of_same {step : EngineStep}
    (same : generator step.after.state = generator step.before.state) :
    handsOut generator step = false := by
  cases taken : handsOut generator step with
  | false => rfl
  | true =>
      have advanced := handsOut_advances taken
      rw [same] at advanced
      exact absurd advanced.symm (advance_ne _)

theorem drawn_turn {start final : Engine} {trace : List EngineStep}
    (run : EngineRun start trace final) (draws : ∀ step ∈ trace, Draws generator step) :
    (generator final.state).turn =
      ((generator start.state).turn + trace.countP (handsOut generator)) % (2 ^ 64 - 1) := by
  induction run with
  | nil state =>
      have bound : (generator state.state).turn < 2 ^ 64 - 1 := Nat.mod_lt _ (by decide)
      rw [List.countP_nil]
      omega
  | @cons before input output after rest final moved _ ih =>
      rw [List.forall_mem_cons] at draws
      rw [ih draws.2, List.countP_cons]
      rcases draws.1 with same | taken
      · rw [not_handsOut_of_same same]
        have same : generator after.state = generator before.state := same
        rw [same]
        simp
      · rw [taken]
        have advanced : generator after.state = (generator before.state).advance :=
          handsOut_advances taken
        rw [advanced, advance_turn]
        simp only [if_true]
        omega

theorem drawn_apart {start final : Engine} {past between future : List EngineStep}
    {first second : EngineStep}
    (run : EngineRun start (past ++ first :: (between ++ second :: future)) final)
    (few : Few generator (past ++ first :: (between ++ second :: future)))
    (draws : ∀ step ∈ between, Draws generator step) {id : Identity tag}
    (earlier : HandsOut generator first id) : ¬HandsOut generator second id := by
  intro later
  obtain ⟨_, _, after⟩ := run.cut
  obtain ⟨window, _, _⟩ := after.cut
  have turned := drawn_turn window draws
  have firstAfter := handsOut_advances earlier.1
  have secondAfter := handsOut_advances later.1
  have counters : (generator first.after.state).counter = (generator second.after.state).counter := by
    have low := congrArg Identity.low (earlier.2.symm.trans later.2)
    rw [firstAfter, secondAfter]
    exact low
  have turns : (generator first.after.state).turn = (generator second.after.state).turn := by
    unfold turn
    rw [counters]
  have last : (generator second.after.state).turn =
      ((generator second.before.state).turn + 1) % (2 ^ 64 - 1) := by
    rw [secondAfter, advance_turn]
  have bound : (generator first.after.state).turn < 2 ^ 64 - 1 := Nat.mod_lt _ (by decide)
  have counted : between.countP (handsOut generator) + 2 < 2 ^ 64 := by
    refine lt_of_le_of_lt ?_ few
    simp only [List.countP_append, List.countP_cons, earlier.1, later.1, if_true]
    omega
  omega

theorem drawn_counter {past : List EngineStep} {step : EngineStep}
    (few : Few generator (past ++ [step]))
    (counted : (generator step.before.state).counter.toNat = past.countP (handsOut generator))
    (draws : Draws generator step) :
    (generator step.after.state ≠ generator step.before.state →
      (generator step.before.state).counter.toNat < 2 ^ 64 - 1) ∧
    (generator step.after.state).counter.toNat = (past ++ [step]).countP (handsOut generator) := by
  unfold Few at few
  rw [List.countP_append, List.countP_singleton] at few ⊢
  rcases draws with same | taken
  · rw [not_handsOut_of_same same, same]
    exact ⟨fun changed => absurd rfl changed, by simpa using counted⟩
  · rw [taken, if_pos rfl] at few
    rw [taken, if_pos rfl]
    have room : (generator step.before.state).counter.toNat < 2 ^ 64 - 1 := by omega
    refine ⟨fun _ => room, ?_⟩
    rw [handsOut_advances taken, advance_counter room, counted]

theorem Few.take {past future : List EngineStep} (few : Few generator (past ++ future)) :
    Few generator past := by
  unfold Few at few ⊢
  rw [List.countP_append] at few
  omega

end Generators

structure FreshIdentities (trace : List EngineStep) : Prop where
  revisions : Distinct CoordinatorState.revisionGenerator trace
  evidence : Distinct CoordinatorState.evidenceGenerator trace
  plans : Distinct CoordinatorState.planGenerator trace
  decisions : Distinct CoordinatorState.decisionGenerator trace
  transitions : Distinct CoordinatorState.transitionGenerator trace
  reservations : Distinct CoordinatorState.reservationGenerator trace
  internalRequests : Distinct CoordinatorState.internalRequestGenerator trace
  internalAttempts : Distinct CoordinatorState.internalAttemptGenerator trace

structure FewAllocations (trace : List EngineStep) : Prop where
  revisions : Few CoordinatorState.revisionGenerator trace
  evidence : Few CoordinatorState.evidenceGenerator trace
  plans : Few CoordinatorState.planGenerator trace
  decisions : Few CoordinatorState.decisionGenerator trace
  transitions : Few CoordinatorState.transitionGenerator trace
  reservations : Few CoordinatorState.reservationGenerator trace
  internalRequests : Few CoordinatorState.internalRequestGenerator trace
  internalAttempts : Few CoordinatorState.internalAttemptGenerator trace

namespace Engine

variable {engine next : Engine}

def ReleasesAcrossReload (trace : List EngineStep) : Prop :=
  ∃ past first between reload since second future,
    trace = past ++ first :: (between ++ reload :: (since ++ second :: future)) ∧
    first.before.EvaluatesRelease first.input ∧
    (∃ advance, reload.input = .reload advance ∧ reload.output = .reloaded (.ok ())) ∧
    second.before.EvaluatesRelease second.input

theorem reloads_iff {op : Op} : op.reloads = true ↔ ∃ advance, op = .reload advance := by
  cases op <;> simp [Op.reloads]

theorem running_iff {op : Op} : op.reloads = false ↔ ∀ advance, op ≠ .reload advance := by
  cases op <;> simp [Op.reloads]

structure PersistedDraw (step : EngineStep) : Prop where
  revisions : Draws CoordinatorState.revisionGenerator step
  evidence : Draws CoordinatorState.evidenceGenerator step
  plans : Draws CoordinatorState.planGenerator step
  decisions : Draws CoordinatorState.decisionGenerator step
  transitions : Draws CoordinatorState.transitionGenerator step
  reservations : Draws CoordinatorState.reservationGenerator step

theorem step_persistedDraw (sound : engine.Sound) (accounted : engine.Accounted) {op : Op}
    {reply : Reply} (moved : engine.step op = some (reply, next)) :
    PersistedDraw ⟨engine, op, reply, next⟩ := by
  cases reloads : op.reloads with
  | false =>
      have running := running_iff.mp reloads
      have steady := step_controlSteady moved running
      exact ⟨handsOut_of_steady reloads steady.revision, handsOut_of_steady reloads steady.evidence,
        handsOut_of_steady reloads steady.plan, handsOut_of_steady reloads steady.decision,
        handsOut_of_steady reloads steady.transition,
        handsOut_of_steady reloads (perform_private (step_eq_some moved).1 running).1⟩
  | true =>
      obtain ⟨advance, rfl⟩ := reloads_iff.mp reloads
      obtain ⟨revision, transition, reservation⟩ := reload_generators sound accounted moved
      rcases reload_cases moved with ⟨rfl, _⟩ | ⟨_, image, decoded, state⟩
      · exact ⟨.inl rfl, .inl rfl, .inl rfl, .inl rfl, .inl rfl, .inl rfl⟩
      · have control := congrArg CoordinatorState.control state
        have kept := image_reloaded sound decoded control
        exact ⟨.inl revision, .inl kept.evidenceGenerator, .inl kept.planGenerator,
          .inl kept.decisionGenerator, .inl transition, .inl reservation⟩

/-- How the internal generators move: a release takes one identity from each, a successful reload
starts them over, and nothing else touches them. -/
theorem step_internalDraw {op : Op} {reply : Reply} (moved : engine.step op = some (reply, next)) :
    (engine.EvaluatesRelease op ∧
      handsOut CoordinatorState.internalRequestGenerator ⟨engine, op, reply, next⟩ = true ∧
      handsOut CoordinatorState.internalAttemptGenerator ⟨engine, op, reply, next⟩ = true) ∨
    (¬engine.EvaluatesRelease op ∧
      next.state.internalRequestGenerator = engine.state.internalRequestGenerator ∧
      next.state.internalAttemptGenerator = engine.state.internalAttemptGenerator) ∨
    ∃ advance, op = .reload advance ∧ reply = .reloaded (.ok ()) := by
  cases reloads : op.reloads with
  | false =>
      have running := running_iff.mp reloads
      rcases (perform_private (step_eq_some moved).1 running).2 with
        ⟨releases, request, attempt⟩ | kept
      · refine .inl ⟨releases, ?_, ?_⟩
        · simp [handsOut, reloads, request]
        · simp [handsOut, reloads, attempt]
      · exact .inr (.inl kept)
  | true =>
      obtain ⟨advance, rfl⟩ := reloads_iff.mp reloads
      rcases reload_cases moved with ⟨rfl, _⟩ | ⟨answered, _⟩
      · refine .inr (.inl ⟨?_, rfl, rfl⟩)
        rintro ⟨_, _, _, _, _, op_eq, _⟩
        cases op_eq
      · exact .inr (.inr ⟨advance, rfl, answered⟩)

theorem run_accounted {start final : Engine} {trace : List EngineStep}
    (constructed : Constructed start) (run : EngineRun start trace final)
    (revisions : Few CoordinatorState.revisionGenerator trace)
    (transitions : Few CoordinatorState.transitionGenerator trace) : final.Accounted := by
  have kept := run.byHistory (fun past engine => Few CoordinatorState.revisionGenerator past →
    Few CoordinatorState.transitionGenerator past → engine.Accounted ∧
      engine.state.revisionGenerator.counter.toNat =
        past.countP (handsOut CoordinatorState.revisionGenerator) ∧
      engine.state.transitionGenerator.counter.toNat =
        past.countP (handsOut CoordinatorState.transitionGenerator)) ?_ ?_ revisions transitions
  · exact kept.1
  · intro _ _
    obtain ⟨config, epoch, salting, naming, rfl⟩ := constructed
    refine ⟨⟨?_, ?_, seeded_salt _ _, seeded_salt _ _, seeded_salt _ _⟩, rfl, rfl⟩
    · intro id record inside
      have empty : (create config epoch salting naming).control.chain id = [] :=
        create_chain config epoch salting naming id
      simp [empty] at inside
    · intro id record present
      exact (no_entry rfl present).elim
  · intro past before input output after reached earlier moved revisions transitions
    obtain ⟨accounted, revisionsCounted, transitionsCounted⟩ :=
      earlier revisions.take transitions.take
    have sound := EngineRun.sound reached constructed.sound
    have draws := step_persistedDraw sound accounted moved
    obtain ⟨revisionRoom, revisionCounter⟩ :=
      drawn_counter revisions revisionsCounted draws.revisions
    obtain ⟨transitionRoom, transitionCounter⟩ :=
      drawn_counter transitions transitionsCounted draws.transitions
    exact ⟨step_accounted sound moved accounted revisionRoom transitionRoom, revisionCounter,
      transitionCounter⟩

theorem run_persistedDraw {start final : Engine} {trace : List EngineStep}
    (constructed : Constructed start) (run : EngineRun start trace final)
    (few : FewAllocations trace) {step : EngineStep} (executed : step ∈ trace) :
    PersistedDraw step := by
  obtain ⟨past, future, rfl⟩ := List.append_of_mem executed
  obtain ⟨before, moved, _⟩ := run.cut
  exact step_persistedDraw (EngineRun.sound before constructed.sound)
    (run_accounted constructed before few.revisions.take few.transitions.take) moved

theorem run_distinct {tag : IdentityTag} {generator : CoordinatorState → IdentityGenerator tag}
    {start final : Engine} {trace : List EngineStep} (run : EngineRun start trace final)
    (few : Few generator trace)
    (draws : ∀ past first between second future,
      trace = past ++ first :: (between ++ second :: future) → handsOut generator first = true →
      handsOut generator second = true → ∀ step ∈ between, Draws generator step) :
    Distinct generator trace := by
  refine pairwise_of_splits ?_
  intro past first between second future split id earlier later
  subst split
  exact drawn_apart run few (draws past first between second future rfl earlier.1 later.1) earlier
    later

theorem internal_draws {start final : Engine} {past between future : List EngineStep}
    {first second : EngineStep}
    (run : EngineRun start (past ++ first :: (between ++ second :: future)) final)
    (apart : ¬ReleasesAcrossReload (past ++ first :: (between ++ second :: future)))
    (earlier : first.before.EvaluatesRelease first.input)
    (later : second.before.EvaluatesRelease second.input) {step : EngineStep}
    (inside : step ∈ between) :
    Draws CoordinatorState.internalRequestGenerator step ∧
      Draws CoordinatorState.internalAttemptGenerator step := by
  have moved : step.before.step step.input = some (step.output, step.after) :=
    run.moved (by simp [inside])
  rcases step_internalDraw moved with ⟨_, request, attempt⟩ | ⟨_, request, attempt⟩ | reloads
  · exact ⟨.inr request, .inr attempt⟩
  · exact ⟨.inl request, .inl attempt⟩
  · obtain ⟨left, right, rfl⟩ := List.append_of_mem inside
    exact absurd ⟨past, first, left, step, right, second, future, by simp, earlier, reloads, later⟩
      apart

theorem releases_of_handsOut {step : EngineStep}
    (moved : step.before.step step.input = some (step.output, step.after)) :
    (handsOut CoordinatorState.internalRequestGenerator step = true →
      step.before.EvaluatesRelease step.input) ∧
    (handsOut CoordinatorState.internalAttemptGenerator step = true →
      step.before.EvaluatesRelease step.input) := by
  rcases step_internalDraw moved with ⟨releases, _⟩ | ⟨_, request, attempt⟩ | ⟨advance, input, _⟩
  · exact ⟨fun _ => releases, fun _ => releases⟩
  · constructor
    · intro taken
      have untouched : handsOut CoordinatorState.internalRequestGenerator step = false :=
        not_handsOut_of_same request
      simp [untouched] at taken
    · intro taken
      have untouched : handsOut CoordinatorState.internalAttemptGenerator step = false :=
        not_handsOut_of_same attempt
      simp [untouched] at taken
  · constructor
    · intro taken
      simp [handsOut, input, Op.reloads] at taken
    · intro taken
      simp [handsOut, input, Op.reloads] at taken

theorem first_release {start final : Engine} {trace : List EngineStep} (sound : start.Sound)
    (fresh : start.state.internalAttemptGenerator = {}) (run : EngineRun start trace final)
    (releases : ∃ step ∈ trace, step.before.EvaluatesRelease step.input) :
    ∃ step ∈ trace, HandsOut CoordinatorState.internalAttemptGenerator step
      ({} : IdentityGenerator .promotionAttemptId).next := by
  induction run with
  | nil => simp at releases
  | @cons before input output after rest final moved _ ih =>
      have later (fresh : after.state.internalAttemptGenerator = {})
          (quiet : ¬before.EvaluatesRelease input) :
          ∃ step ∈ (⟨before, input, output, after⟩ : EngineStep) :: rest,
            HandsOut CoordinatorState.internalAttemptGenerator step
              ({} : IdentityGenerator .promotionAttemptId).next := by
        obtain ⟨step, inside, evaluates⟩ := releases
        rcases List.mem_cons.mp inside with rfl | inside
        · exact absurd evaluates quiet
        · obtain ⟨found, member, taken⟩ := ih (sound_step sound moved) fresh ⟨step, inside, evaluates⟩
          exact ⟨found, List.mem_cons_of_mem _ member, taken⟩
      rcases step_internalDraw moved with ⟨_, _, attempt⟩ | ⟨quiet, _, same⟩ | ⟨advance, rfl, rfl⟩
      · exact ⟨_, List.mem_cons_self, attempt, by rw [fresh]⟩
      · exact later (same.trans fresh) quiet
      · refine later (reload_internal sound moved) ?_
        rintro ⟨_, _, _, _, _, op_eq, _⟩
        cases op_eq

theorem released_twice {start final : Engine} {trace : List EngineStep}
    (constructed : Constructed start) (run : EngineRun start trace final)
    (across : ReleasesAcrossReload trace) :
    ¬Distinct CoordinatorState.internalAttemptGenerator trace := by
  intro distinct
  obtain ⟨past, first, between, reload, since, second, future, rfl, earlier, ⟨advance, input,
    output⟩, later⟩ := across
  have split : past ++ first :: (between ++ reload :: (since ++ second :: future)) =
      (past ++ first :: between) ++ reload :: (since ++ second :: future) := by simp
  rw [split] at run distinct
  obtain ⟨front, moved, back⟩ := run.cut
  have fresh : start.state.internalAttemptGenerator = {} := by
    obtain ⟨config, epoch, salting, naming, rfl⟩ := constructed
    rfl
  have sound := EngineRun.sound front constructed.sound
  have reloaded : reload.after.state.internalAttemptGenerator = {} := by
    rw [input, output] at moved
    exact reload_internal sound moved
  obtain ⟨left, leftInside, leftTaken⟩ :=
    first_release constructed.sound fresh front ⟨first, by simp, earlier⟩
  obtain ⟨right, rightInside, rightTaken⟩ :=
    first_release (sound_step sound moved) reloaded back ⟨second, by simp, later⟩
  exact (List.pairwise_append.mp distinct).2.2 left leftInside right
    (List.mem_cons_of_mem _ rightInside) _ leftTaken rightTaken

/-- With fewer than `2 ^ 64` allocations from each generator, no identity is handed out twice
exactly if the run does not evaluate quarantine releases on both sides of a reload. -/
theorem run_fresh_iff {start final : Engine} {trace : List EngineStep}
    (constructed : Constructed start) (run : EngineRun start trace final)
    (few : FewAllocations trace) : FreshIdentities trace ↔ ¬ReleasesAcrossReload trace := by
  constructor
  · intro fresh across
    exact released_twice constructed run across fresh.internalAttempts
  · intro apart
    have persisted {step : EngineStep} (executed : step ∈ trace) :=
      run_persistedDraw constructed run few executed
    have inside {past first between second future} {step : EngineStep}
        (split : trace = past ++ first :: (between ++ second :: future))
        (member : step ∈ between) : step ∈ trace := by
      rw [split]
      simp [member]
    constructor
    case revisions =>
      exact run_distinct run few.revisions fun _ _ _ _ _ split _ _ step member =>
        (persisted (inside split member)).revisions
    case evidence =>
      exact run_distinct run few.evidence fun _ _ _ _ _ split _ _ step member =>
        (persisted (inside split member)).evidence
    case plans =>
      exact run_distinct run few.plans fun _ _ _ _ _ split _ _ step member =>
        (persisted (inside split member)).plans
    case decisions =>
      exact run_distinct run few.decisions fun _ _ _ _ _ split _ _ step member =>
        (persisted (inside split member)).decisions
    case transitions =>
      exact run_distinct run few.transitions fun _ _ _ _ _ split _ _ step member =>
        (persisted (inside split member)).transitions
    case reservations =>
      exact run_distinct run few.reservations fun _ _ _ _ _ split _ _ step member =>
        (persisted (inside split member)).reservations
    case internalRequests =>
      refine run_distinct run few.internalRequests ?_
      intro past first between second future split earlier later step member
      subst split
      exact (internal_draws run apart ((releases_of_handsOut (run.moved (by simp))).1 earlier)
        ((releases_of_handsOut (run.moved (by simp))).1 later) member).1
    case internalAttempts =>
      refine run_distinct run few.internalAttempts ?_
      intro past first between second future split earlier later step member
      subst split
      exact (internal_draws run apart ((releases_of_handsOut (run.moved (by simp))).2 earlier)
        ((releases_of_handsOut (run.moved (by simp))).2 later) member).2

theorem few_of_length {trace : List EngineStep} (short : trace.length < 2 ^ 64) :
    FewAllocations trace := by
  have few {tag : IdentityTag} (generator : CoordinatorState → IdentityGenerator tag) :
      Few generator trace := lt_of_le_of_lt List.countP_le_length short
  exact ⟨few _, few _, few _, few _, few _, few _, few _, few _⟩

def releasingPolicy : PromotionPolicy :=
  { id := ⟨7, 3⟩, generation := ⟨1⟩, name := text "releasing",
    graph := { edges := [⟨.candidate, .quarantined⟩, ⟨.candidate, .retired⟩,
      ⟨.quarantined, .candidate⟩] }
    rules := [{ source := .quarantined, target := .candidate }] }

def releaseChoices : List (Engine → Op) :=
  [fun engine => .quarantine ⟨0, 5⟩ (text "audit") [] engine.state.authority,
    fun engine => .releaseQuarantine ⟨0, 5⟩ engine.state.authority 0 0]

def releasedChoices : List (Engine → Op) :=
  [fun _ => .publishPolicy releasingPolicy, fun _ => .registerArtifact (sampleRegistration 1) 0] ++
    releaseChoices

def evaluatesRelease (step : EngineStep) : Bool :=
  match step.input with
  | .releaseQuarantine id authority _ _ =>
      step.before.admissionOpen && !foreignAuthority step.before.state authority &&
        (step.before.state.findCurrent id).any fun artifact => artifact.quarantine.active
  | _ => false

theorem releases_of_evaluated {step : EngineStep} (evaluated : evaluatesRelease step = true) :
    step.before.EvaluatesRelease step.input := by
  unfold evaluatesRelease at evaluated
  split at evaluated
  · rename_i id authority now later input
    simp only [Bool.and_eq_true, Option.any_eq_true, Bool.not_eq_true'] at evaluated
    obtain ⟨⟨admitted, native⟩, artifact, found, active⟩ := evaluated
    exact ⟨id, authority, now, later, artifact, input, admitted, found, active, native⟩
  · simp at evaluated

theorem evaluated_of_releases {step : EngineStep}
    (releases : step.before.EvaluatesRelease step.input) : evaluatesRelease step = true := by
  obtain ⟨id, authority, now, later, artifact, input, admitted, found, active, native⟩ := releases
  simp [evaluatesRelease, input, admitted, found, active, native]

def enrollNext : List (Engine → Op) :=
  [fun _ => .registerArtifact { sampleRegistration 2 with id := ⟨0, 6⟩ } 0]

def takesRevision (step : EngineStep) : Bool :=
  !step.input.reloads && handsOut CoordinatorState.revisionGenerator step

/-- A release is evaluated, then the state is reloaded, and after that an artifact is registered. -/
def releasesBeforeReload (played : List EngineStep × Engine) : Bool :=
  played.1.length == 4 && (played.1.all fun step => !step.input.reloads) &&
    played.1.any takesRevision && played.1.any evaluatesRelease && played.2.reloadable &&
    (play step (played.2.dirty played.2.reloadedState) enrollNext).any fun later =>
      later.1.length == 1 && later.1.all fun step => takesRevision step && !evaluatesRelease step

theorem run_fresh_released :
    ∃ (past since : List EngineStep) (reload : EngineStep) (final : Engine),
      EngineRun sampleEngine (past ++ reload :: since) final ∧
        FewAllocations (past ++ reload :: since) ∧ reload.input = .reload false ∧
        (∃ step ∈ past, step.before.EvaluatesRelease step.input) ∧
        past.any takesRevision = true ∧ since.any takesRevision = true ∧
        FreshIdentities (past ++ reload :: since) := by
  have evaluated : (play step sampleEngine releasedChoices).any releasesBeforeReload = true := by
    decide +kernel
  obtain ⟨past, middle, run, checked⟩ := run_of_checked evaluated
  simp only [releasesBeforeReload, Bool.and_eq_true, beq_iff_eq, List.all_eq_true,
    Bool.not_eq_true'] at checked
  obtain ⟨⟨⟨⟨⟨length, running⟩, takes⟩, releases⟩, reloadable⟩, again⟩ := checked
  obtain ⟨first, executed, releases⟩ := List.any_eq_true.mp releases
  obtain ⟨since, final, continued, checked⟩ := run_of_checked again
  simp only [Bool.and_eq_true, beq_iff_eq, List.all_eq_true, Bool.not_eq_true'] at checked
  obtain ⟨sinceLength, later⟩ := checked
  have sound := EngineRun.sound run sampleEngine_constructed.sound
  have whole := run.append (.cons (reload_reloadable sound reloadable) continued)
  have few : FewAllocations (past ++ ⟨middle, .reload false, .reloaded (.ok ()),
      middle.dirty middle.reloadedState⟩ :: since) := by
    refine few_of_length ?_
    simp only [List.length_append, List.length_cons, length, sinceLength]
    omega
  refine ⟨past, since, _, final, whole, few, rfl, ⟨first, executed, releases_of_evaluated releases⟩,
    takes, ?_, (run_fresh_iff sampleEngine_constructed whole few).mpr ?_⟩
  · obtain ⟨only, rfl⟩ := List.length_eq_one_iff.mp sinceLength
    simpa using (later only (by simp)).1
  · rintro ⟨front, earlier, between, reload, rest, second, future, split, _, ⟨advance, input, _⟩,
      again⟩
    obtain ⟨_, rfl⟩ := @eq_of_only _ (·.input.reloads = true) (front ++ earlier :: between)
      (rest ++ second :: future) past since reload _ (by simpa using split)
      (reloads_iff.mpr ⟨advance, input⟩) (by
        intro step executed
        rcases List.mem_append.mp executed with before | after
        · simp [running step before]
        · have takes := (later step after).1
          simp only [takesRevision, Bool.and_eq_true, Bool.not_eq_true'] at takes
          simp [takes.1])
    have never := (later second (by simp)).2
    rw [evaluated_of_releases again] at never
    cases never

def releasesAgain (played : List EngineStep × Engine) : Bool :=
  played.1.length == 4 && played.1.any evaluatesRelease && played.2.reloadable &&
    (play step (played.2.dirty played.2.reloadedState) releaseChoices).any fun later =>
      later.1.length == 2 && later.1.any evaluatesRelease

/-- The release after the reload takes the internal identities the first one took. -/
theorem reloaded_release_repeats :
    ∃ (trace : List EngineStep) (final : Engine), EngineRun sampleEngine trace final ∧
      FewAllocations trace ∧ ¬FreshIdentities trace := by
  have evaluated : (play step sampleEngine releasedChoices).any releasesAgain = true := by
    decide +kernel
  obtain ⟨trace, middle, run, checked⟩ := run_of_checked evaluated
  simp only [releasesAgain, Bool.and_eq_true, beq_iff_eq, List.any_eq_true] at checked
  obtain ⟨⟨⟨length, first, executed, releases⟩, reloadable⟩, again⟩ := checked
  obtain ⟨rest, final, continued, checked⟩ := run_of_checked again
  simp only [Bool.and_eq_true, beq_iff_eq, List.any_eq_true] at checked
  obtain ⟨restLength, second, restExecuted, restReleases⟩ := checked
  have sound := EngineRun.sound run sampleEngine_constructed.sound
  have whole := run.append (.cons (reload_reloadable sound reloadable) continued)
  refine ⟨_, final, whole, few_of_length ?_, fun fresh => ?_⟩
  · simp only [List.length_append, List.length_cons, length, restLength]
    omega
  · obtain ⟨past, between, trace_eq⟩ := List.append_of_mem executed
    obtain ⟨since, future, rest_eq⟩ := List.append_of_mem restExecuted
    refine released_twice sampleEngine_constructed whole ⟨past, first, between,
      ⟨middle, .reload false, .reloaded (.ok ()), middle.dirty middle.reloadedState⟩, since, second,
      future, ?_, releases_of_evaluated releases, ⟨false, rfl, rfl⟩,
      releases_of_evaluated restReleases⟩ fresh.internalAttempts
    rw [trace_eq, rest_eq]
    simp

end Engine

end ArtifactPromotion
