import ArtifactPromotion.Engine.FreshDecisions

/-! What stays so of a stored plan: its revision is registered, its decision names it, and that
decision lists only the gates of one rule for as long as the reservation of the plan stands. -/

namespace ArtifactPromotion

open Runs

structure PromotionPlan.Placed (plan : PromotionPlan) : Prop where
  kind : isValidArtifactKind plan.artifactKind.toByte.toNat = true
  source : isValidStageValue plan.source.toByte.toNat = true
  target : isValidStageValue plan.target.toByte.toNat = true

theorem PromotionDecision.Pristine.restored {decision : PromotionDecision}
    (pristine : decision.Pristine) : decision.restored.Pristine := by
  obtain ⟨gatesFit, gates, findings, reasons⟩ := pristine
  constructor
  case gatesFit => simpa [PromotionDecision.restored] using gatesFit
  case gates =>
    intro gate inside
    obtain ⟨old, held, rfl⟩ := List.mem_map.mp inside
    exact gates old held
  all_goals simp [PromotionDecision.restored, findings, reasons]

namespace Engine

variable {engine next : Engine} {plan : PromotionPlan}

def PlanRegistered (engine : Engine) (plan : PromotionPlan) : Prop :=
  ∃ artifact, engine.state.findRevision plan.artifact plan.artifactRevision = some artifact

structure PlansDecided (engine : Engine) : Prop where
  registered : ∀ (id : PromotionPlanId) (plan : PromotionPlan),
    engine.state.plans[id]? = some plan → engine.PlanRegistered plan
  placed : ∀ (id : PromotionPlanId) (plan : PromotionPlan), engine.state.plans[id]? = some plan →
    plan.Placed
  named : ∀ (id : PromotionPlanId) (plan : PromotionPlan) (decision : PromotionDecision),
    engine.state.plans[id]? = some plan →
      engine.state.decisions[plan.decision]? = some decision → decision.plan = plan.id
  pristine : ∀ (id : PromotionPlanId) (plan : PromotionPlan) (decision : PromotionDecision),
    engine.state.plans[id]? = some plan →
      engine.state.decisions[plan.decision]? = some decision →
        holdsReservation engine.state plan = true → decision.Pristine

theorem decisionOf_held {decision : PromotionDecision}
    (held : engine.state.decisions[plan.decision]? = some decision) :
    engine.decisionOf plan = decision := by
  rw [decisionOf, Std.ExtTreeMap.getD_eq_getD_getElem?, held, Option.getD_some]

theorem plan_decision_held (sound : engine.Sound) {id : PromotionPlanId}
    (stored : engine.state.plans[id]? = some plan) :
    engine.state.decisions[plan.decision]? = some (engine.decisionOf plan) := by
  obtain ⟨decision, held⟩ := held_decision (sound.coherent.plans id plan stored).2.2.2
  rw [decisionOf_held held]
  exact held

theorem evaluated_answer {request : PromotionRequest} {now : UInt64} {result : EvaluationResult}
    (moved : engine.step (.evaluate request now) = some (.evaluated (.ok result), next)) :
    engine.evaluate request now = (.ok result, next) := by
  have performed := (step_eq_some moved).1
  simp only [perform, answerWith, Option.some.injEq, Prod.mk.injEq, Reply.evaluated.injEq]
    at performed
  exact Prod.ext performed.1 performed.2

theorem committed_answer {now : UInt64} {result : CommitResult}
    (moved : engine.step (.commit plan now) = some (.committed (.ok result), next)) :
    engine.commit plan now = (.ok result, next) := by
  have performed := (step_eq_some moved).1
  simp only [perform, answerWith, Option.some.injEq, Prod.mk.injEq, Reply.committed.injEq]
    at performed
  exact Prod.ext performed.1 performed.2

theorem evaluated_plan (vetted : engine.Vetted) {request : PromotionRequest} {now : UInt64}
    {reply : Reply} (moved : engine.step (.evaluate request now) = some (reply, next))
    {id : PromotionPlanId} (present : next.state.plans[id]? = some plan) :
    engine.state.plans[id]? = some plan ∨
      ∃ decision, next.state.decisions[plan.decision]? = some decision ∧ decision.plan = plan.id ∧
        decision.Pristine ∧ plan.Placed ∧ engine.PlanRegistered plan := by
  have present : next.control.plans[id]? = some plan := present
  cases step_effect moved with
  | idle _ same =>
      rw [same] at present
      exact .inl present
  | undecided _ _ _ changed =>
      rw [changed] at present
      exact .inl present
  | decided _ _ _ _ evicted _ changed =>
      rw [changed] at present
      exact .inl (Coherent.evicts_entry evicted.evicts present)
  | @issued _ _ artifact result decision _ _ issues hasPlan plan_eq named opens evicted changed =>
      have decisions := congrArg Control.decisions changed
      rw [changed] at present
      rcases OrderedMaps.insert_cases present with ⟨_, rfl⟩ | ⟨_, old⟩
      · refine .inr ⟨decision, ?_, ?_⟩
        · change next.control.decisions[_]? = _
          rw [decisions, planOf_decision, ← named]
          exact Std.ExtTreeMap.getElem?_insert_self
        · have answered := evaluated_answer moved
          have opened : engine.Opened request artifact now result := by
            rcases (evaluate_exits vetted.sound answered).2 with
              ⟨_, _, _, _, rfl, _⟩ | ⟨_, fresh⟩
            · cases hasPlan
            · exact evaluateFresh_opened vetted issues.wellFormed issues.found fresh
          obtain ⟨planned, pristine⟩ := opened.planned hasPlan
          rw [opens.answered] at planned pristine
          rw [plan_eq] at planned
          have known := vetted.artifacts _ _ (findRevision_mem issues.found).1
          have same := findRevision_id vetted.sound.coherent issues.found
          have registered : engine.PlanRegistered (engine.planOf request artifact now) :=
            ⟨artifact, by
              change engine.state.findRevision artifact.id artifact.revision = some artifact
              rw [same, (findRevision_mem issues.found).2]
              exact issues.found⟩
          exact ⟨planned, pristine,
            ⟨known.kind, known.stage, wellFormed_stage issues.wellFormed⟩, registered⟩
      · exact .inl (Coherent.evicts_entry evicted.evicts old)

theorem step_holds (sound : engine.Sound) {op : Op} {reply : Reply}
    (moved : engine.step op = some (reply, next)) {id : PromotionPlanId}
    (stored : engine.state.plans[id]? = some plan)
    (holds : holdsReservation next.state plan = true) :
    holdsReservation engine.state plan = true := by
  unfold holdsReservation at holds ⊢
  split at holds
  · cases holds
  · rename_i reservation held
    rcases step_pending moved held with before | ⟨issued, _, planned, fresh, _⟩
    · rw [before]
      exact holds
    · obtain ⟨named, allocated, _⟩ := sound.coherent.plans id plan stored
      have same : plan.id = engine.control.planGenerator.next := by
        rw [← fresh, ← planned]
        exact (beq_iff_eq.mp holds).symm
      rw [named] at same
      exact absurd same (allocated.ne_next (sound.coherent.planRoom sound.roomy))

/-- The decision of a plan keeps naming it, and stays as it is while the reservation stands. -/
theorem step_plan_decision (sound : engine.Sound) (decided : engine.PlansDecided) {op : Op}
    {reply : Reply} (moved : engine.step op = some (reply, next)) {id : PromotionPlanId}
    (stored : engine.state.plans[id]? = some plan) {decision : PromotionDecision}
    (present : next.state.decisions[plan.decision]? = some decision) :
    decision.plan = plan.id ∧
      (holdsReservation next.state plan = true → decision.Pristine) := by
  have held := plan_decision_held sound stored
  have named := decided.named id plan _ stored held
  have pristine (holds : holdsReservation next.state plan = true) :
      (engine.decisionOf plan).Pristine :=
    decided.pristine id plan _ stored held (step_holds sound moved stored holds)
  have committed {other : PromotionPlan} {now : UInt64} {result : CommitResult}
      (same : other.decision = plan.decision)
      (answered : engine.commit other now = (.ok result, next)) :
      decision.plan = plan.id ∧
        (holdsReservation next.state plan = true → decision.Pristine) := by
    obtain ⟨_, otherStored, exits⟩ := commit_exits answered
    have otherNamed := decided.named other.id other _ otherStored (same ▸ held)
    have ids : other.id = id :=
      (otherNamed.symm.trans named).trans (sound.coherent.plans id plan stored).1
    rw [ids, stored] at otherStored
    cases otherStored
    have redecides (made : PromotionDecision) (redecides : engine.Redecides plan made next) :
        decision.plan = plan.id ∧
          (holdsReservation next.state plan = true → decision.Pristine) := by
      rw [redecides.stored, Std.ExtTreeMap.getElem?_insert_self] at present
      cases present
      refine ⟨redecides.planned.trans named, fun holds => ?_⟩
      rw [redecides.standing holds]
      exact pristine holds
    cases exits with
    | stale _ stores _ => exact redecides _ stores
    | missing _ stores => exact redecides _ stores
    | dropped _ _ _ _ stores => exact redecides _ stores
    | changed _ _ stores _ => exact redecides _ stores
    | refused _ _ _ stores => exact redecides _ stores
    | applied _ _ stores => exact redecides _ stores
  obtain ⟨changed, found, redecided⟩ := step_decision sound moved held
  cases Option.some.inj (found.symm.trans present)
  cases redecided with
  | kept => exact ⟨named, pristine⟩
  | restored => exact ⟨named, fun holds => (pristine holds).restored⟩
  | refused same _ _ => exact committed same (committed_answer moved)
  | applied same _ _ _ => exact committed same (committed_answer moved)

theorem step_plans_decided (vetted : engine.Vetted) (decided : engine.PlansDecided) {op : Op}
    {reply : Reply} (moved : engine.step op = some (reply, next)) : next.PlansDecided := by
  have origin {id : PromotionPlanId} {plan : PromotionPlan}
      (present : next.state.plans[id]? = some plan) :
      (∃ old, engine.state.plans[id]? = some old ∧ (plan = old ∨ plan = old.restored)) ∨
        ∃ decision, next.state.decisions[plan.decision]? = some decision ∧
          decision.plan = plan.id ∧ decision.Pristine ∧ plan.Placed ∧
            engine.PlanRegistered plan := by
    rcases step_plan_stored vetted.sound moved present with old | ⟨_, _, _, rfl, _⟩
    · exact .inl old
    · exact (evaluated_plan vetted moved present).imp_left fun old => ⟨plan, old, .inl rfl⟩
  have registers {plan : PromotionPlan} (registered : engine.PlanRegistered plan) :
      next.PlanRegistered plan := by
    obtain ⟨artifact, found⟩ := registered
    obtain ⟨revised, found, _⟩ := step_findRevision vetted.sound moved found
    exact ⟨revised, found⟩
  constructor
  case registered =>
    intro id plan present
    rcases origin present with ⟨old, stored, same⟩ | ⟨_, _, _, _, _, registered⟩
    · have registered := decided.registered id old stored
      rcases same with rfl | rfl
      · exact registers registered
      · exact registers registered
    · exact registers registered
  case placed =>
    intro id plan present
    rcases origin present with ⟨old, stored, same⟩ | ⟨_, _, _, _, placed, _⟩
    · obtain ⟨kind, source, target⟩ := decided.placed id old stored
      rcases same with rfl | rfl
      · exact ⟨kind, source, target⟩
      · exact ⟨kind, source, target⟩
    · exact placed
  case named =>
    intro id plan decision present held
    rcases origin present with ⟨old, stored, same⟩ | ⟨fresh, found, planned, _⟩
    · rcases same with rfl | rfl
      · exact (step_plan_decision vetted.sound decided moved stored held).1
      · exact (step_plan_decision vetted.sound decided moved stored held).1
    · cases Option.some.inj (found.symm.trans held)
      exact planned
  case pristine =>
    intro id plan decision present held holds
    rcases origin present with ⟨old, stored, same⟩ | ⟨fresh, found, _, pristine, _⟩
    · rcases same with rfl | rfl
      · exact (step_plan_decision vetted.sound decided moved stored held).2 holds
      · exact (step_plan_decision vetted.sound decided moved stored held).2 holds
    · cases Option.some.inj (found.symm.trans held)
      exact pristine

theorem step_vetted (vetted : engine.Vetted) {op : Op} {reply : Reply}
    (moved : engine.step op = some (reply, next)) : next.Vetted := by
  obtain ⟨sound, policy, artifacts, evidence⟩ := vetted
  exact ⟨sound_step sound moved, step_policy_valid moved policy,
    step_artifacts_known sound policy artifacts moved, step_evidence_known sound evidence moved⟩

theorem reachable_decided (reachable : Reachable engine) :
    engine.Vetted ∧ engine.PlansDecided := by
  obtain ⟨start, trace, constructed, run⟩ := reachable
  have initial := constructed.sound
  refine run.invariant (fun engine => engine.Vetted ∧ engine.PlansDecided)
    (fun _ _ _ _ held moved =>
      ⟨step_vetted held.1 moved, step_plans_decided held.1 held.2 moved⟩) ?_
  obtain ⟨config, epoch, salting, naming, rfl⟩ := constructed
  refine ⟨⟨initial, create_policy_valid config epoch salting naming, ?_, ?_⟩, ?_, ?_, ?_, ?_⟩
  · intro id record inside
    rw [create_chain] at inside
    simp at inside
  · intro id record held
    exact (no_entry rfl held).elim
  · intro id plan present
    exact (no_entry rfl present).elim
  · intro id plan present
    exact (no_entry rfl present).elim
  · intro id plan decision present
    exact (no_entry rfl present).elim
  · intro id plan decision present
    exact (no_entry rfl present).elim

end Engine

end ArtifactPromotion
