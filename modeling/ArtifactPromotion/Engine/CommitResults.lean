import ArtifactPromotion.Engine.PlanDecisions

/-! The answer of a commit against what the commit stores. -/

namespace ArtifactPromotion

/-- The result is settled, it carries the decision that is stored for the plan and the outcome of
that decision, and it has a record exactly if the promotion was committed. -/
structure CommitResult.Coherent (result : CommitResult) (plan : PromotionPlan) (next : Engine) :
    Prop where
  settled : result.outcome ≠ .invalid
  stored : next.state.decisions[plan.decision]? = some result.decision
  agrees : result.outcome = result.decision.outcome
  recorded : result.hasRecord = true ↔ result.outcome = .promotionCommitted

namespace Engine

open Runs

variable {engine next : Engine} {plan : PromotionPlan} {now : UInt64}

/-- The plan is of the current policy, and if it is timely and reserved, then its evidence is what
it was derived from. -/
structure KeepsGround (engine : Engine) (plan : PromotionPlan) (now : UInt64) : Prop where
  current : policyMoved engine.state plan = false
  evidence : expired plan now = false → holdsReservation engine.state plan = true →
    ∀ artifact, engine.state.findRevision plan.artifact plan.artifactRevision = some artifact →
      engine.KeepsEvidence plan now artifact

theorem Redecides.held {decision : PromotionDecision}
    (redecides : engine.Redecides plan decision next) :
    next.state.decisions[plan.decision]? = some decision := by
  rw [redecides.stored, Std.ExtTreeMap.getElem?_insert_self]

theorem Redecides.coherent {decision : PromotionDecision} {record : PromotionRecord}
    {hasRecord : Bool} (redecides : engine.Redecides plan decision next)
    (settled : decision.outcome ≠ .invalid)
    (recorded : hasRecord = true ↔ decision.outcome = .promotionCommitted) :
    CommitResult.Coherent { outcome := decision.outcome, decision, record, hasRecord } plan next :=
  ⟨settled, redecides.held, rfl, recorded⟩

theorem commitExit_coherent_iff {result : CommitResult} (registered : engine.PlanRegistered plan)
    (exits : CommitExit engine plan now result next) :
    result.Coherent plan next ↔ engine.KeepsGround plan now := by
  cases exits with
  | stale moved redecides _ =>
      constructor
      · intro coherent
        exact absurd coherent.agrees (by simp)
      · intro keeps
        exact absurd (moved.symm.trans keeps.current) (by simp)
  | missing unknown redecides =>
      obtain ⟨artifact, found⟩ := registered
      simp [unknown] at found
  | dropped current late settled plain redecides =>
      constructor
      · intro coherent
        refine ⟨current, fun timely reserved => ?_⟩
        rcases late with late | lost
        · simp [late] at timely
        · simp [lost] at reserved
      · intro keeps
        exact redecides.coherent settled.1 (iff_of_false Bool.false_ne_true settled.2)
  | @changed artifact _ _ revalidates differs redecides _ =>
      constructor
      · intro coherent
        exact absurd rfl coherent.settled
      · intro keeps
        have kept := keeps.evidence revalidates.timely revalidates.reserved artifact revalidates.found
        exact absurd kept differs
  | refused revalidates kept settled redecides =>
      constructor
      · intro coherent
        refine ⟨revalidates.current, fun _ _ other found => ?_⟩
        rw [revalidates.found] at found
        cases found
        exact kept
      · intro keeps
        exact redecides.coherent settled.1 (iff_of_false Bool.false_ne_true settled.2)
  | applied revalidates kept redecides =>
      constructor
      · intro coherent
        refine ⟨revalidates.current, fun _ _ other found => ?_⟩
        rw [revalidates.found] at found
        cases found
        exact kept
      · intro keeps
        exact redecides.coherent (by simp) (by simp)

theorem commit_coherent_iff {result : CommitResult} (reachable : Reachable engine)
    (answered : engine.commit plan now = (.ok result, next)) :
    result.Coherent plan next ↔ engine.KeepsGround plan now := by
  obtain ⟨_, stored, exits⟩ := commit_exits answered
  have registered := (reachable_decided reachable).2.registered plan.id plan stored
  exact commitExit_coherent_iff registered exits

theorem plannedEngine_reachable : Reachable plannedEngine :=
  ⟨sampleEngine, _, sampleEngine_constructed, run_of_play planned_played⟩

theorem commit_coherent_iff_promoted :
    ∃ (engine next : Engine) (plan : PromotionPlan) (now : UInt64) (result : CommitResult),
      Reachable engine ∧ engine.commit plan now = (.ok result, next) ∧
        result.Coherent plan next := by
  have answered := commit_of_accepts samplePlan_accepted
  refine ⟨_, _, _, _, _, plannedEngine_reachable, answered,
    (commit_coherent_iff plannedEngine_reachable answered).mpr ⟨?_, ?_⟩⟩
  · exact samplePlan_accepted.policyCurrent
  · intro _ _ artifact found
    rw [samplePlan_accepted.found] at found
    cases found
    exact samplePlan_accepted.sameEvidence

def renewedPolicy : PromotionPolicy := { directPolicy with generation := ⟨2⟩ }

def renewedEngine : Engine := (plannedEngine.publishPolicy renewedPolicy).elim plannedEngine Prod.snd

theorem renewedEngine_reachable : Reachable renewedEngine := by
  have renewed : step plannedEngine (.publishPolicy renewedPolicy) =
      some (.published (.ok ⟨2⟩), renewedEngine) := step_of_perform rfl rfl
  have run := (run_of_play planned_played).append (.cons renewed (.nil renewedEngine))
  exact ⟨sampleEngine, _, sampleEngine_constructed, run⟩

/-- The stored decision says that the plan conflicts, and the answer carries another decision. -/
theorem stale_commit_incoherent :
    ∃ (engine next : Engine) (plan : PromotionPlan) (now : UInt64) (result : CommitResult),
      Reachable engine ∧ engine.commit plan now = (.ok result, next) ∧
        result.outcome ≠ result.decision.outcome := by
  have moved : policyMoved renewedEngine.state samplePlan = true := by
    have generation : (renewedEngine.state.activePolicyGeneration != samplePlan.policyGeneration) =
        true := rfl
    simp only [policyMoved, generation, Bool.or_true, Bool.true_or]
  have stored : renewedEngine.state.plans[samplePlan.id]? = some samplePlan := rfl
  have admitted : renewedEngine.admissionOpen = true := rfl
  refine ⟨renewedEngine, (renewedEngine.closeStale samplePlan).2, samplePlan, 0,
    { outcome := .conflict }, renewedEngine_reachable, ?_, by simp⟩
  simp only [commit, admitted, samplePlan_valid, stored, moved, ne_eq, not_true_eq_false,
    Bool.not_true, Bool.false_eq_true, if_false, if_true]
  rfl

end Engine

end ArtifactPromotion
