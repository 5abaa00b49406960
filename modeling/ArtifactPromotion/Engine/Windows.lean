import ArtifactPromotion.Engine.Revisions

/-! The window of a plan: the steps from the evaluation that issued it, through which the
reservation it made stays in place. -/

namespace ArtifactPromotion

open Runs

structure IssuesPlan (step : EngineStep) (plan : PromotionPlan) (reservation : PendingTransition) :
    Prop where
  evaluated : ∃ request now artifact result, step.input = .evaluate request now ∧
    step.output = .evaluated (.ok result) ∧ result.hasPlan = true ∧ result.plan = plan ∧
    step.before.Issues request now artifact ∧ plan = step.before.planOf request artifact now ∧
    reservation = makeReservation step.before.state plan now
  stored : step.after.state.plans[plan.id]? = some plan
  reserved : step.after.state.pending[plan.artifact]? = some reservation

namespace Engine

variable {engine next : Engine}

theorem step_pending {op : Op} {reply : Reply}
    (moved : engine.step op = some (reply, next)) {id : ArtifactId}
    {reservation : PendingTransition} (held : next.state.pending[id]? = some reservation) :
    engine.state.pending[id]? = some reservation ∨
      ∃ plan, plan.artifact = id ∧ reservation.plan = plan.id ∧
        plan.id = engine.control.planGenerator.next ∧
        IssuesPlan ⟨engine, op, reply, next⟩ plan reservation := by
  have held : next.control.pending[id]? = some reservation := held
  cases step_effect moved with
  | idle _ same =>
      rw [same] at held
      exact .inl held
  | published _ _ changed =>
      rw [changed] at held
      exact .inl held
  | restarted _ changed =>
      rw [changed] at held
      simp at held
  | recovered changed =>
      rw [changed] at held
      simp at held
  | compatibilityMoved _ changed =>
      rw [changed] at held
      simp at held
  | registrationRefused _ _ changed =>
      rw [changed] at held
      exact .inl held
  | registered stamped _ _ _ _ _ _ changed =>
      rw [changed] at held
      exact .inl held
  | submitted _ _ _ _ changed =>
      rw [changed] at held
      exact .inl held
  | undecided _ _ _ changed =>
      rw [changed] at held
      exact .inl held
  | decided _ _ _ _ _ _ changed =>
      rw [changed] at held
      exact .inl held
  | @issued request now artifact result decision kept _ issues hasPlan plan_eq _ _ _ changed =>
      have plans : next.state.plans[(engine.planOf request artifact now).id]? =
          some (engine.planOf request artifact now) := by
        change next.control.plans[_]? = _
        rw [changed]
        exact Std.ExtTreeMap.getElem?_insert_self
      have pending := held
      rw [changed] at pending
      rcases OrderedMaps.insert_cases pending with ⟨same, made⟩ | ⟨_, old⟩
      · refine .inr ⟨engine.planOf request artifact now, same.symm, by rw [made]; rfl, rfl, ?_⟩
        refine ⟨⟨request, now, artifact, result, rfl, rfl, hasPlan, plan_eq, issues, rfl, made⟩,
          plans, ?_⟩
        rw [same] at held
        exact held
      · exact .inl old
  | closed released _ _ _ _ changed =>
      rw [changed] at held
      cases released with
      | true => exact .inl (OrderedMaps.erase_cases held).2
      | false => exact .inl held
  | committed _ _ _ _ _ changed =>
      rw [changed] at held
      exact .inl (OrderedMaps.erase_cases held).2
  | quarantined _ _ _ _ changed =>
      rw [changed] at held
      exact .inl (OrderedMaps.erase_cases held).2
  | releaseRefused _ _ changed =>
      rw [changed] at held
      exact .inl held
  | released request _ _ _ _ _ _ _ changed =>
      rw [changed] at held
      exact .inl held
  | revoked _ _ _ _ _ _ changed =>
      rw [changed] at held
      exact .inl (OrderedMaps.erase_cases held).2
  | superseded _ _ _ _ _ _ changed =>
      rw [changed] at held
      exact .inl (OrderedMaps.erase_cases held).2
  | retired _ _ _ changed =>
      rw [changed] at held
      exact .inl (OrderedMaps.erase_cases held).2
  | evidenceRevoked _ _ changed =>
      rw [changed] at held
      exact .inl (fencePending_cases held).1
  | reloaded _ changed =>
      rw [changed] at held
      simp at held

theorem step_plans {op : Op} {reply : Reply} (moved : engine.step op = some (reply, next))
    {id : PromotionPlanId} {plan : PromotionPlan} (stored : next.state.plans[id]? = some plan) :
    engine.state.plans[id]? = some plan ∨ id = engine.control.planGenerator.next ∨
      next.state.pending = ∅ := by
  have stored : next.control.plans[id]? = some plan := stored
  cases step_effect moved with
  | idle _ same =>
      rw [same] at stored
      exact .inl stored
  | decided _ _ _ _ evicted _ changed =>
      rw [changed] at stored
      exact .inl (Coherent.evicts_entry evicted.evicts stored)
  | issued _ _ _ _ _ evicted changed =>
      rw [changed] at stored
      rcases OrderedMaps.insert_cases stored with ⟨same, _⟩ | ⟨_, old⟩
      · exact .inr (.inl same)
      · exact .inl (Coherent.evicts_entry evicted.evicts old)
  | closed released _ _ _ _ changed =>
      rw [changed] at stored
      cases released <;> exact .inl stored
  | reloaded _ changed =>
      refine .inr (.inr ?_)
      change next.control.pending = ∅
      rw [changed]
  | published _ _ changed | restarted _ changed | recovered changed
  | compatibilityMoved _ changed | registrationRefused _ _ changed
  | registered _ _ _ _ _ _ _ changed | submitted _ _ _ _ changed | undecided _ _ _ changed
  | committed _ _ _ _ _ changed | quarantined _ _ _ _ changed | releaseRefused _ _ changed
  | released _ _ _ _ _ _ _ _ changed | revoked _ _ _ _ _ _ changed
  | superseded _ _ _ _ _ _ changed | retired _ _ _ changed | evidenceRevoked _ _ changed =>
      rw [changed] at stored
      exact .inl stored

def Held (id : ArtifactId) (reservation : PendingTransition) (steps : List EngineStep) : Prop :=
  ∀ step ∈ steps, step.before.state.pending[id]? = some reservation ∧
    step.after.state.pending[id]? = some reservation

/-- A reservation found at the end of a run was made by an evaluation of the run and has stood
since; the plan stored under its identity is the one that evaluation issued. -/
theorem reservation_window {start final : Engine} {trace : List EngineStep} (sound : start.Sound)
    (empty : start.state.pending = ∅) (run : EngineRun start trace final) {id : ArtifactId}
    {reservation : PendingTransition} (held : final.state.pending[id]? = some reservation) :
    ∃ past issue since plan, trace = past ++ issue :: since ∧
      IssuesPlan issue plan reservation ∧ plan.artifact = id ∧ reservation.plan = plan.id ∧
      Held id reservation since ∧
      ∀ stored, final.state.plans[reservation.plan]? = some stored → stored = plan := by
  -- Induction over the executed past: a step keeps the reservation or issues it.
  revert held
  refine run.byHistory (fun trace final => final.state.pending[id]? = some reservation →
    ∃ past issue since plan, trace = past ++ issue :: since ∧
      IssuesPlan issue plan reservation ∧ plan.artifact = id ∧ reservation.plan = plan.id ∧
      Held id reservation since ∧
      ∀ stored, final.state.plans[reservation.plan]? = some stored → stored = plan) ?_ ?_
  · intro held
    simp [empty] at held
  · intro past before input output after reached earlier moved held
    have beforeSound := EngineRun.sound reached sound
    rcases step_pending moved held with old | ⟨plan, named, planned, fresh, issues⟩
    · obtain ⟨front, issue, since, plan, rfl, issues, named, planned, stands, unique⟩ := earlier old
      refine ⟨front, issue, since ++ [⟨before, input, output, after⟩], plan, by simp, issues, named,
        planned, ?_, ?_⟩
      · intro step executed
        rcases List.mem_append.mp executed with inside | last
        · exact stands step inside
        · rw [List.mem_singleton.mp last]
          exact ⟨old, held⟩
      · intro stored found
        rcases step_plans moved found with kept | allocated | dropped
        · exact unique stored kept
        · have issued := (beforeSound.coherent.reservations id reservation old).2.1
          exact absurd allocated
            (issued.ne_next (beforeSound.coherent.planRoom beforeSound.roomy))
        · simp [dropped] at held
    · refine ⟨past, ⟨before, input, output, after⟩, [], plan, rfl, issues, named, planned, ?_, ?_⟩
      · simp [Held]
      · intro stored found
        rw [planned] at found
        exact Option.some.inj (found.symm.trans issues.stored)

theorem acknowledged_accepts {plan : PromotionPlan} {now : UInt64} {result : CommitResult}
    (moved : engine.step (.commit plan now) = some (.committed (.ok result), next))
    (acknowledged : result.outcome = .promotionCommitted) :
    ∃ artifact, engine.Accepts plan now artifact ∧
      result.record = commitRecord engine.state.advanceSequence plan artifact.stage now ∧
      next.state.pending = engine.state.pending.erase plan.artifact := by
  cases step_effect moved with
  | idle quiet _ => simp [Reply.confirmsChange] at quiet
  | closed _ quiet => exact absurd acknowledged quiet
  | committed accepts _ record_eq _ _ changed =>
      refine ⟨_, accepts, record_eq, ?_⟩
      change next.control.pending = _
      rw [changed]
      rfl

theorem commit_window {start final : Engine} {trace : List EngineStep} (sound : start.Sound)
    (empty : start.state.pending = ∅) (run : EngineRun start trace final) {plan : PromotionPlan}
    {now : UInt64} {artifact : ArtifactRecord} (accepts : final.Accepts plan now artifact) :
    ∃ past issue since reservation, trace = past ++ issue :: since ∧
      IssuesPlan issue plan reservation ∧ Held plan.artifact reservation since ∧
      final.state.pending[plan.artifact]? = some reservation ∧ reservation.plan = plan.id := by
  have reserved := accepts.reserved
  unfold holdsReservation at reserved
  split at reserved
  · simp at reserved
  · rename_i reservation held
    rw [beq_iff_eq] at reserved
    obtain ⟨past, issue, since, issued, rfl, issues, _, _, stands, unique⟩ :=
      reservation_window sound empty run held
    have same : plan = issued := unique plan (by rw [reserved]; exact accepts.stored)
    subst same
    exact ⟨past, issue, since, reservation, rfl, issues, stands, held, reserved⟩

end Engine

end ArtifactPromotion
