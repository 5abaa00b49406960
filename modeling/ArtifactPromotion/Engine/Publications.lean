import ArtifactPromotion.Engine.LiveEvidence

/-! What a policy publication does to the plans issued before it, and how the generations of one
policy identity follow each other. -/

namespace ArtifactPromotion

open Runs

def Publishes (step : EngineStep) (policy : PromotionPolicy) : Prop :=
  step.input = .publishPolicy policy ∧ ∃ generation, step.output = .published (.ok generation)

namespace Engine

variable {engine next : Engine}

structure Admits (engine : Engine) (policy : PromotionPolicy) : Prop where
  validated : policy.validate = some (.ok ())
  advances : policy.id = engine.state.activePolicy →
    engine.state.activePolicyGeneration.value < policy.generation.value

structure Installs (policy : PromotionPolicy) (next : Engine) : Prop where
  active : next.control.activePolicy = policy.id
  generation : next.control.policyGeneration = policy.generation
  body : next.control.policy = { policy with policyDigest := policy.computeDigest }

/-- The policy in force changes by a publication; a reload keeps its identity and generation and
drops every reservation. -/
theorem step_policy (sound : engine.Sound) {op : Op} {reply : Reply}
    (moved : engine.step op = some (reply, next)) :
    (next.control.activePolicy = engine.control.activePolicy ∧
      next.control.policyGeneration = engine.control.policyGeneration ∧
      (next.control.policy = engine.control.policy ∨ next.control.pending = ∅)) ∨
    ∃ policy generation, op = .publishPolicy policy ∧ reply = .published (.ok generation) ∧
      engine.Admits policy ∧ Installs policy next := by
  cases step_effect moved with
  | published validated advances changed =>
      exact .inr ⟨_, _, rfl, rfl, ⟨validated, advances⟩, by rw [changed]; rfl, by rw [changed]; rfl,
        by rw [changed]; rfl⟩
  | closed released _ _ _ _ changed =>
      rw [changed]
      cases released <;> exact .inl ⟨rfl, rfl, .inl rfl⟩
  | reloaded decoded changed =>
      have image := image_reloaded sound decoded changed
      refine .inl ⟨?_, ?_, .inr image.pending⟩
      · rw [image.activePolicy, sound.coherent.policyId]
      · rw [image.policyGeneration, sound.coherent.policyGeneration]
  | idle _ changed | restarted _ changed | recovered changed | compatibilityMoved _ changed
  | registrationRefused _ _ changed | registered _ _ _ _ _ _ _ changed | submitted _ _ _ _ changed
  | undecided _ _ _ changed | decided _ _ _ _ _ _ changed | issued _ _ _ _ _ _ changed
  | committed _ _ _ _ _ changed | quarantined _ _ _ _ changed | releaseRefused _ _ changed
  | released _ _ _ _ _ _ _ _ changed | revoked _ _ _ _ _ _ changed
  | superseded _ _ _ _ _ _ changed | retired _ _ _ changed | evidenceRevoked _ _ changed =>
      rw [changed]
      exact .inl ⟨rfl, rfl, .inl rfl⟩

theorem publishes_installs {step : EngineStep} {policy : PromotionPolicy}
    (publishes : Publishes step policy)
    (moved : step.before.step step.input = some (step.output, step.after)) :
    step.before.Admits policy ∧ Installs policy step.after := by
  obtain ⟨input, generation, output⟩ := publishes
  rw [input, output] at moved
  cases step_effect moved with
  | idle quiet _ => simp [Reply.confirmsChange] at quiet
  | published validated advances changed =>
      exact ⟨⟨validated, advances⟩, by rw [changed]; rfl, by rw [changed]; rfl, by rw [changed]; rfl⟩

theorem admits_publishes {policy : PromotionPolicy} {reply : Reply}
    (moved : engine.step (.publishPolicy policy) = some (reply, next))
    (admits : engine.Admits policy) : reply = .published (.ok policy.generation) := by
  have performed := (step_eq_some moved).1
  have accepted : ¬(policy.id = engine.state.activePolicy ∧
      ¬engine.state.activePolicyGeneration.value < policy.generation.value) := by
    rintro ⟨same, stays⟩
    exact stays (admits.advances same)
  simp only [perform, publishPolicy, admits.validated, Option.map_some, Option.bind_some, gt_iff_lt,
    Bool.and_eq_true, decide_eq_true_eq, Bool.not_eq_true', decide_eq_false_iff_not, answerWith,
    if_neg accepted, Option.some.injEq, Prod.mk.injEq] at performed
  exact performed.1.symm

/-- The plan is stored and holds its reservation. -/
def Live (engine : Engine) (plan : PromotionPlan) : Prop :=
  engine.state.plans[plan.id]? = some plan ∧ holdsReservation engine.state plan = true

theorem step_live (sound : engine.Sound) {op : Op} {reply : Reply}
    (moved : engine.step op = some (reply, next)) {plan : PromotionPlan}
    (issued : engine.control.planGenerator.Issued plan.id) (live : next.Live plan) :
    engine.Live plan := by
  have older := issued.ne_next (sound.coherent.planRoom sound.roomy)
  obtain ⟨stored, reserved⟩ := live
  unfold holdsReservation at reserved
  split at reserved
  · simp at reserved
  · rename_i reservation held
    rw [beq_iff_eq] at reserved
    rcases step_pending moved held with old | ⟨fresh, _, named, allocated, _⟩
    · refine ⟨?_, by simp [holdsReservation, old, reserved]⟩
      rcases step_plans moved stored with kept | allocated | dropped
      · exact kept
      · exact absurd allocated older
      · simp [dropped] at held
    · exact absurd (reserved.symm.trans (named.trans allocated)) older

/-- The operation publishes the very policy, generation and lifecycle graph that a live plan was
derived under. -/
def Reinstates (engine : Engine) (op : Op) : Prop :=
  ∃ policy plan, op = .publishPolicy policy ∧ engine.Admits policy ∧ engine.Live plan ∧
    policy.computeDigest = plan.policyDigest ∧ policy.generation = plan.policyGeneration ∧
    policy.graph.graphDigest = plan.lifecycleDigest

/-- The plan was issued, and while it is live the policy in force is not its own. -/
def Outdated (engine : Engine) (plan : PromotionPlan) : Prop :=
  engine.control.planGenerator.Issued plan.id ∧
    (engine.Live plan → policyMoved engine.state plan = true)

theorem publishes_outdates (sound : engine.Sound) {policy : PromotionPolicy} {reply : Reply}
    (moved : engine.step (.publishPolicy policy) = some (reply, next))
    (admits : engine.Admits policy) (installs : Installs policy next)
    (apart : ¬engine.Reinstates (.publishPolicy policy)) {plan : PromotionPlan}
    (issued : engine.control.planGenerator.Issued plan.id) : next.Outdated plan := by
  refine ⟨step_plan_issued sound moved issued, fun live => ?_⟩
  have before := step_live sound moved issued live
  have body : next.state.policy = { policy with policyDigest := policy.computeDigest } :=
    installs.body
  have generation : next.state.activePolicyGeneration = policy.generation := installs.generation
  by_contra current
  simp only [policyMoved, body, generation, Bool.or_eq_true, bne_iff_ne, ne_eq, not_or, not_not]
    at current
  exact apart ⟨policy, plan, rfl, admits, before, current.1.1, current.1.2, current.2⟩

theorem step_outdated (sound : engine.Sound) {op : Op} {reply : Reply}
    (moved : engine.step op = some (reply, next)) (apart : ¬engine.Reinstates op)
    {plan : PromotionPlan} (outdated : engine.Outdated plan) : next.Outdated plan := by
  obtain ⟨issued, moves⟩ := outdated
  rcases step_policy sound moved with ⟨_, generation, body⟩ | ⟨policy, _, rfl, _, admits, installs⟩
  · refine ⟨step_plan_issued sound moved issued, fun live => ?_⟩
    have earlier := moves (step_live sound moved issued live)
    rcases body with body | dropped
    · have body : next.state.policy = engine.state.policy := body
      have generation : next.state.activePolicyGeneration = engine.state.activePolicyGeneration :=
        generation
      rw [policyMoved, body, generation]
      exact earlier
    · have reserved := live.2
      have dropped : next.state.pending = ∅ := dropped
      simp [holdsReservation, dropped] at reserved
  · exact publishes_outdates sound moved admits installs apart issued

/-- In every run without a publication that reinstates a live plan: once a policy is published, no
plan issued before is ever committed. -/
theorem publication_outdates_plans {start final : Engine} {past future : List EngineStep}
    {publication : EngineStep} {policy : PromotionPolicy} (constructed : Constructed start)
    (run : EngineRun start (past ++ publication :: future) final)
    (publishes : Publishes publication policy)
    (condition : ∀ step ∈ publication :: future, ¬step.before.Reinstates step.input)
    {issue : EngineStep} (earlier : issue ∈ past) {plan : PromotionPlan}
    (evaluates : Evaluates issue plan) : ∀ step ∈ future, ¬Commits step plan := by
  intro step executed commits
  obtain ⟨before, moved, after⟩ := run.cut
  have sound := EngineRun.sound before constructed.sound
  rw [List.forall_mem_cons] at condition
  -- The plan's identity stays handed out from its evaluation to the publication.
  have issued : publication.before.control.planGenerator.Issued plan.id := by
    obtain ⟨front, since, rfl⟩ := List.append_of_mem earlier
    obtain ⟨first, issuing, window⟩ := before.cut
    have firstSound := EngineRun.sound first constructed.sound
    have stored := (evaluates_issues issuing evaluates).2
    have kept := window.invariant
      (fun engine => engine.Sound ∧ engine.control.planGenerator.Issued plan.id)
      (fun _ _ _ _ holds moved => ⟨sound_step holds.1 moved, step_plan_issued holds.1 moved holds.2⟩)
      ⟨sound_step firstSound issuing,
        ((sound_step firstSound issuing).coherent.plans _ _ stored).2.1⟩
    exact kept.2
  obtain ⟨admits, installs⟩ := publishes_installs publishes moved
  have outdated : publication.after.Outdated plan := by
    rw [publishes.1] at moved condition
    exact publishes_outdates sound moved admits installs condition.1 issued
  obtain ⟨between, rest, rfl⟩ := List.append_of_mem executed
  obtain ⟨gap, committing, _⟩ := after.cut
  have kept := gap.guarded (fun engine => engine.Sound ∧ engine.Outdated plan)
    (fun step => ¬step.before.Reinstates step.input)
    (fun _ holds apart moved => ⟨sound_step holds.1 moved, step_outdated holds.1 moved apart holds.2⟩)
    ⟨sound_step sound moved, outdated⟩ (fun step inside => condition.2 step (by simp [inside]))
  obtain ⟨now, result, input, output, acknowledged⟩ := commits
  rw [input, output] at committing
  obtain ⟨artifact, accepts, _, _⟩ := acknowledged_accepts committing acknowledged
  have moves := kept.2.2 ⟨accepts.stored, accepts.reserved⟩
  rw [accepts.policyCurrent] at moves
  cases moves

def answeredPlan (step : EngineStep) : Option PromotionPlan :=
  match step.input, step.output with
  | .evaluate _ _, .evaluated (.ok result) => if result.hasPlan then some result.plan else none
  | _, _ => none

theorem evaluates_of_answered {step : EngineStep} {plan : PromotionPlan}
    (answered : answeredPlan step = some plan) : Evaluates step plan := by
  unfold answeredPlan at answered
  split at answered
  · rename_i request now result input output
    split at answered
    · rename_i hasPlan
      exact ⟨request, now, result, input, output, hasPlan, Option.some.inj answered⟩
    · simp at answered
  · simp at answered

def publishedPolicy (step : EngineStep) : Option PromotionPolicy :=
  match step.input, step.output with
  | .publishPolicy policy, .published (.ok _) => some policy
  | _, _ => none

theorem publishes_of_published {step : EngineStep} {policy : PromotionPolicy}
    (published : publishedPolicy step = some policy) : Publishes step policy := by
  unfold publishedPolicy at published
  split at published
  · rename_i other generation input output
    have same : other = policy := Option.some.inj published
    subst same
    exact ⟨input, generation, output⟩
  · simp at published

def outdatedPlanChoices : List (Engine → Op) :=
  [fun _ => .publishPolicy directPolicy,
    fun _ => .registerArtifact (sampleRegistration 1) 0,
    fun engine => .evaluate (engine.sampleRequest .promoted 1) 0,
    fun _ => .publishPolicy { retiringPolicy with generation := ⟨2⟩ },
    fun engine => .commit (engine.planFor 1) 0]

/-- The fourth step publishes a generation no stored plan was derived under, after the third one
issued a plan; the last step is no publication. -/
def outdatesPlan (played : List EngineStep × Engine) : Bool :=
  match played.1 with
  | [_, _, issue, publication, last] =>
      (answeredPlan issue).isSome &&
      ((publishedPolicy publication).any fun policy =>
        publication.before.state.plans.toList.all fun entry =>
          entry.2.policyGeneration != policy.generation) &&
      (match last.input with | .publishPolicy _ => false | _ => true)
  | _ => false

theorem publication_outdates_plans_direct :
    ∃ (past future : List EngineStep) (publication issue : EngineStep) (final : Engine)
      (policy : PromotionPolicy) (plan : PromotionPlan),
      EngineRun sampleEngine (past ++ publication :: future) final ∧ Publishes publication policy ∧
        (∀ step ∈ publication :: future, ¬step.before.Reinstates step.input) ∧ issue ∈ past ∧
        Evaluates issue plan ∧ future ≠ [] ∧ ∀ step ∈ future, ¬Commits step plan := by
  have evaluated : (play step sampleEngine outdatedPlanChoices).any outdatesPlan = true := by
    decide +kernel
  obtain ⟨trace, final, run, checked⟩ := run_of_checked evaluated
  unfold outdatesPlan at checked
  dsimp only at checked
  split at checked
  · rename_i first second issue publication last
    simp only [Bool.and_eq_true, Option.isSome_iff_exists, Option.any_eq_true, List.all_eq_true,
      bne_iff_ne] at checked
    obtain ⟨⟨⟨plan, answered⟩, policy, published, apart⟩, quiet⟩ := checked
    have publishes := publishes_of_published published
    have evaluates := evaluates_of_answered answered
    have condition : ∀ step ∈ [publication, last], ¬step.before.Reinstates step.input := by
      rintro step inside ⟨other, stored, input, _, live, _, generation, _⟩
      simp only [List.mem_cons, List.not_mem_nil, or_false] at inside
      rcases inside with rfl | rfl
      · rw [publishes.1] at input
        cases input
        exact apart (stored.id, stored)
          (Std.ExtTreeMap.mem_toList_iff_getElem?_eq_some.mpr live.1) generation.symm
      · simp [input] at quiet
    have run : EngineRun sampleEngine ([first, second, issue] ++ publication :: [last]) final := run
    exact ⟨[first, second, issue], [last], publication, issue, final, policy, plan, run, publishes,
      condition, by simp, evaluates, by simp, publication_outdates_plans sampleEngine_constructed
        run publishes condition (by simp) evaluates⟩
  · simp at checked

def reinstatedPlanChoices : List (Engine → Op) :=
  [fun _ => .publishPolicy directPolicy,
    fun _ => .registerArtifact (sampleRegistration 1) 0,
    fun engine => .evaluate (engine.sampleRequest .promoted 1) 0,
    fun _ => .publishPolicy retiringPolicy,
    fun _ => .publishPolicy directPolicy,
    fun engine => .commit (engine.planFor 1) 0]

def commitsReinstated (played : List EngineStep × Engine) : Bool :=
  match played.1 with
  | [_, _, issue, publication, _, last] =>
      (publishedPolicy publication).isSome && acknowledges last &&
      ((answeredPlan issue).any fun plan =>
        match last.input with | .commit committed _ => committed == plan | _ => false)
  | _ => false

/-- The plan outlives two publications and is committed under the reinstated policy. -/
theorem reinstated_plan_commits :
    ∃ (past future : List EngineStep) (publication issue step : EngineStep) (final : Engine)
      (policy : PromotionPolicy) (plan : PromotionPlan),
      EngineRun sampleEngine (past ++ publication :: future) final ∧ Publishes publication policy ∧
        issue ∈ past ∧ Evaluates issue plan ∧ step ∈ future ∧ Commits step plan := by
  have evaluated : (play step sampleEngine reinstatedPlanChoices).any commitsReinstated = true := by
    decide +kernel
  obtain ⟨trace, final, run, checked⟩ := run_of_checked evaluated
  unfold commitsReinstated at checked
  dsimp only at checked
  split at checked
  · rename_i first second issue publication again last
    simp only [Bool.and_eq_true, Option.isSome_iff_exists, Option.any_eq_true] at checked
    obtain ⟨⟨⟨policy, published⟩, acknowledged⟩, plan, answered, same⟩ := checked
    obtain ⟨committed, now, result, input, output, outcome⟩ := commits_of_acknowledges acknowledged
    simp only [input, beq_iff_eq] at same
    subst same
    have run : EngineRun sampleEngine
      ([first, second, issue] ++ publication :: [again, last]) final := run
    exact ⟨[first, second, issue], [again, last], publication, issue, last, final, policy, committed,
      run, publishes_of_published published, by simp, evaluates_of_answered answered, by simp, now,
      result, input, output, outcome⟩
  · simp at checked

/-- The operation publishes an identity that is not the active one under a generation that an
earlier publication of that identity already reached. -/
def Regresses (past : List EngineStep) (engine : Engine) (op : Op) : Prop :=
  ∃ policy, op = .publishPolicy policy ∧ policy.validate = some (.ok ()) ∧
    policy.id ≠ engine.state.activePolicy ∧ ∃ earlier ∈ past, ∃ older,
      Publishes earlier older ∧ older.id = policy.id ∧
        policy.generation.value ≤ older.generation.value

def Advancing (trace : List EngineStep) : Prop :=
  trace.Pairwise fun earlier later => ∀ older newer, Publishes earlier older →
    Publishes later newer → older.id = newer.id → older.generation.value < newer.generation.value

def Bounds (past : List EngineStep) (engine : Engine) : Prop :=
  ∀ earlier ∈ past, ∀ older, Publishes earlier older → older.id = engine.state.activePolicy →
    older.generation.value ≤ engine.state.activePolicyGeneration.value

theorem step_advancing {past : List EngineStep} (sound : engine.Sound) {op : Op} {reply : Reply}
    (moved : engine.step op = some (reply, next)) (regular : ¬Regresses past engine op)
    (advancing : Advancing past) (bounds : Bounds past engine) :
    Advancing (past ++ [⟨engine, op, reply, next⟩]) ∧
      Bounds (past ++ [⟨engine, op, reply, next⟩]) next := by
  have below {policy : PromotionPolicy} (input : op = .publishPolicy policy)
      (admits : engine.Admits policy) : ∀ earlier ∈ past, ∀ older, Publishes earlier older →
      older.id = policy.id → older.generation.value < policy.generation.value := by
    intro earlier inside older published same
    by_cases active : policy.id = engine.state.activePolicy
    · exact UInt64.lt_of_le_of_lt (bounds earlier inside older published (same.trans active))
        (admits.advances active)
    · by_contra stays
      exact regular ⟨policy, input, admits.validated, active, earlier, inside, older, published,
        same, UInt64.not_lt.mp stays⟩
  constructor
  · refine List.pairwise_append.mpr ⟨advancing, List.pairwise_singleton _ _, ?_⟩
    intro earlier inside later last older newer published publishes same
    rw [List.mem_singleton.mp last] at publishes
    obtain ⟨admits, _⟩ := publishes_installs publishes moved
    exact below publishes.1 admits earlier inside older published same
  · intro earlier inside older published active
    rcases List.mem_append.mp inside with old | last
    · rcases step_policy sound moved with ⟨identity, generation, _⟩ |
        ⟨policy, granted, input, output, admits, installs⟩
      · have identity : next.state.activePolicy = engine.state.activePolicy := identity
        have generation : next.state.activePolicyGeneration =
          engine.state.activePolicyGeneration := generation
        rw [generation]
        exact bounds earlier old older published (active.trans identity)
      · have identity : next.state.activePolicy = policy.id := installs.active
        have generation : next.state.activePolicyGeneration = policy.generation :=
          installs.generation
        rw [generation]
        exact UInt64.le_of_lt
          (below input admits earlier old older published (active.trans identity))
    · rw [List.mem_singleton.mp last] at published
      have generation : next.state.activePolicyGeneration = older.generation :=
        (publishes_installs published moved).2.generation
      rw [generation]
      exact UInt64.le_refl _

/-- The generations published under one identity increase along a run exactly if no step publishes
an inactive identity under a generation it already reached. -/
theorem publications_advance_iff {start final : Engine} {trace : List EngineStep}
    (constructed : Constructed start) (run : EngineRun start trace final) :
    Advancing trace ↔ ∀ past step future, trace = past ++ step :: future →
      ¬Regresses past step.before step.input := by
  constructor
  · rintro advancing past step future rfl ⟨policy, input, validated, inactive, earlier, inside, older,
      published, same, stays⟩
    obtain ⟨_, moved, _⟩ := run.cut
    rw [input] at moved
    have admits : step.before.Admits policy := ⟨validated, fun active => absurd active inactive⟩
    have publishes : Publishes step policy := ⟨input, policy.generation, admits_publishes moved admits⟩
    have related := (List.pairwise_append.mp advancing).2.2 earlier inside step (by simp)
    exact UInt64.not_lt.mpr stays (related older policy published publishes same)
  · intro regular
    have kept := run.byHistory (fun past engine =>
      (∀ front step future, past = front ++ step :: future →
        ¬Regresses front step.before step.input) → Advancing past ∧ Bounds past engine)
      (fun _ => ⟨List.Pairwise.nil, by simp [Bounds]⟩) ?_ regular
    · exact kept.1
    · intro past before input output after reached earlier moved regular
      have shorter := earlier fun front step future split =>
        regular front step (future ++ [⟨before, input, output, after⟩]) (by simp [split])
      exact step_advancing (EngineRun.sound reached constructed.sound) moved
        (regular past _ [] rfl) shorter.1 shorter.2

def republishesActive (played : List EngineStep × Engine) : Bool :=
  match played.1 with
  | [first, second] =>
      (publishedPolicy first).isSome &&
      ((publishedPolicy second).any fun policy => policy.id == second.before.state.activePolicy)
  | _ => false

theorem publications_advance_direct :
    ∃ (first second : EngineStep) (final : Engine) (older newer : PromotionPolicy),
      EngineRun sampleEngine [first, second] final ∧ Publishes first older ∧
        Publishes second newer ∧ Advancing [first, second] := by
  have evaluated : (play step sampleEngine [fun _ => .publishPolicy directPolicy,
      fun _ => .publishPolicy { directPolicy with generation := ⟨2⟩ }]).any republishesActive =
      true := by
    decide +kernel
  obtain ⟨trace, final, run, checked⟩ := run_of_checked evaluated
  unfold republishesActive at checked
  dsimp only at checked
  split at checked
  · rename_i first second
    simp only [Bool.and_eq_true, Option.isSome_iff_exists, Option.any_eq_true, beq_iff_eq] at checked
    obtain ⟨⟨older, published⟩, newer, republished, active⟩ := checked
    have publishes := publishes_of_published republished
    refine ⟨first, second, final, older, newer, run, publishes_of_published published, publishes,
      (publications_advance_iff sampleEngine_constructed run).mpr ?_⟩
    rintro past step future split ⟨policy, input, _, inactive, earlier, inside, _⟩
    cases past with
    | nil => simp at inside
    | cons head rest =>
        cases rest with
        | nil =>
            simp only [List.cons_append, List.nil_append, List.cons.injEq] at split
            obtain ⟨_, rfl, _⟩ := split
            rw [publishes.1] at input
            cases input
            exact inactive active
        | cons other rest =>
            have length := congrArg List.length split
            simp at length
  · simp at checked

def publishesAgain (played : List EngineStep × Engine) : Bool :=
  match played.1 with
  | [first, _, last] =>
      (publishedPolicy first).any fun older => (publishedPolicy last).any fun newer =>
        older.id == newer.id && older.generation == newer.generation
  | _ => false

/-- One identity and generation name two publications once another policy was active between. -/
theorem reinstated_generation_repeats :
    ∃ (trace : List EngineStep) (final : Engine), EngineRun sampleEngine trace final ∧
      ¬Advancing trace := by
  have evaluated : (play step sampleEngine [fun _ => .publishPolicy directPolicy,
      fun _ => .publishPolicy retiringPolicy,
      fun _ => .publishPolicy directPolicy]).any publishesAgain = true := by
    decide +kernel
  obtain ⟨trace, final, run, checked⟩ := run_of_checked evaluated
  unfold publishesAgain at checked
  dsimp only at checked
  split at checked
  · rename_i first middle last
    simp only [Option.any_eq_true, Bool.and_eq_true, beq_iff_eq] at checked
    obtain ⟨older, published, newer, republished, identity, generation⟩ := checked
    refine ⟨_, final, run, fun advancing => ?_⟩
    have related := (List.pairwise_cons.mp advancing).1 last (by simp) older newer
      (publishes_of_published published) (publishes_of_published republished) identity
    rw [generation] at related
    exact UInt64.lt_irrefl _ related
  · simp at checked

end Engine

end ArtifactPromotion
