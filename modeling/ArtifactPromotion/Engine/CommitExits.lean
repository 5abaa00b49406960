import ArtifactPromotion.Engine.DecisionShapes

/-! How a commit of a stored plan ends: what it answers, and what becomes of the plan's decision. -/

namespace ArtifactPromotion

namespace Engine

def decisionOf (engine : Engine) (plan : PromotionPlan) : PromotionDecision :=
  engine.state.decisions.getD plan.decision {}

/-- The second evaluation of the gates, which appends to the decision of the plan. -/
def revalidation (engine : Engine) (plan : PromotionPlan) (now : UInt64) : GateEvaluation :=
  evaluateGates engine.config engine.state (requestOfPlan plan) now (engine.decisionOf plan)

/-- What becomes of the decision: it keeps naming its plan, and it is as it was for as long as the
reservation of the plan stands. -/
structure Redecides (engine : Engine) (plan : PromotionPlan) (decision : PromotionDecision)
    (next : Engine) : Prop where
  stored : next.state.decisions = engine.state.decisions.insert plan.decision decision
  planned : decision.plan = (engine.decisionOf plan).plan
  standing : holdsReservation next.state plan = true → decision = engine.decisionOf plan

structure Revalidates (engine : Engine) (plan : PromotionPlan) (now : UInt64)
    (artifact : ArtifactRecord) : Prop where
  current : policyMoved engine.state plan = false
  found : engine.state.findRevision plan.artifact plan.artifactRevision = some artifact
  timely : expired plan now = false
  reserved : holdsReservation engine.state plan = true

def KeepsEvidence (engine : Engine) (plan : PromotionPlan) (now : UInt64)
    (artifact : ArtifactRecord) : Prop :=
  computeSnapshotDigest artifact.id artifact.revision artifact.digest
    (engine.revalidation plan now).entries = plan.evidenceSnapshotDigest

inductive CommitExit (engine : Engine) (plan : PromotionPlan) (now : UInt64) :
    CommitResult → Engine → Prop
  | stale {decision next} (moved : policyMoved engine.state plan = true)
      (redecides : engine.Redecides plan decision next)
      (gates : decision.gates = (engine.decisionOf plan).gates) :
      CommitExit engine plan now { outcome := .conflict } next
  | missing {next}
      (unknown : engine.state.findRevision plan.artifact plan.artifactRevision = none)
      (redecides : engine.Redecides plan (engine.decisionOf plan) next) :
      CommitExit engine plan now
        { outcome := .artifactNotFound, decision := engine.decisionOf plan } next
  /-- The plan expired or lost its reservation. -/
  | dropped {outcome reason next} (current : policyMoved engine.state plan = false)
      (late : expired plan now = true ∨ holdsReservation engine.state plan = false)
      (settled : outcome.Reported) (plain : 0 ∉ reason.text.view)
      (redecides : engine.Redecides plan
        ({ engine.decisionOf plan with outcome }.addReason reason) next) :
      CommitExit engine plan now
        { outcome, decision := { engine.decisionOf plan with outcome }.addReason reason } next
  | changed {artifact decision next} (revalidates : engine.Revalidates plan now artifact)
      (differs : ¬engine.KeepsEvidence plan now artifact)
      (redecides : engine.Redecides plan decision next)
      (gates : decision.gates = (engine.revalidation plan now).decision.gates) :
      CommitExit engine plan now { outcome := .invalid, decision } next
  /-- A gate failed, or the artifact is in the target stage already. -/
  | refused {artifact outcome authoritative decided next}
      (revalidates : engine.Revalidates plan now artifact)
      (kept : engine.KeepsEvidence plan now artifact) (settled : outcome.Reported)
      (redecides : engine.Redecides plan { (engine.revalidation plan now).decision with
        outcome, authoritative, decidedUnixMillis := decided } next) :
      CommitExit engine plan now
        { outcome, decision := { (engine.revalidation plan now).decision with
            outcome, authoritative, decidedUnixMillis := decided } } next
  | applied {artifact authoritative decided next}
      (revalidates : engine.Revalidates plan now artifact)
      (kept : engine.KeepsEvidence plan now artifact)
      (redecides : engine.Redecides plan { (engine.revalidation plan now).decision with
        outcome := .promotionCommitted, authoritative, decidedUnixMillis := decided } next) :
      CommitExit engine plan now
        { outcome := .promotionCommitted
          decision := { (engine.revalidation plan now).decision with
            outcome := .promotionCommitted, authoritative, decidedUnixMillis := decided }
          record := commitRecord engine.state.advanceSequence plan artifact.stage now
          hasRecord := true } next

variable {engine next : Engine} {plan : PromotionPlan} {now : UInt64}

theorem dropped_free {state : CoordinatorState}
    {pending : OrderedMap ArtifactId PendingTransition}
    (dropped : state.pending = pending.erase plan.artifact) :
    holdsReservation state plan = false := by
  have absent : state.pending[plan.artifact]? = none := by
    rw [dropped, Std.ExtTreeMap.getElem?_erase_self]
  simp [holdsReservation, absent]

theorem closeCommit_exits {outcome : PromotionOutcome} {decision : PromotionDecision}
    {released : Bool} {result : CommitResult}
    (answered : (engine.touch plan).closeCommit plan outcome decision released =
      (.ok result, next))
    (planned : decision.plan = (engine.decisionOf plan).plan)
    (free : released = false → holdsReservation engine.state plan = false) :
    result = { outcome, decision } ∧ engine.Redecides plan decision next := by
  have merged : (engine.state.touchDecision plan.decision).decisions.insert plan.decision decision =
      engine.state.decisions.insert plan.decision decision := OrderedMaps.insert_insert _ _ _ _
  cases released with
  | true =>
      cases answered
      refine ⟨rfl, merged, planned, fun holds => ?_⟩
      exact absurd ((dropped_free rfl).symm.trans holds) Bool.false_ne_true
  | false =>
      cases answered
      refine ⟨rfl, merged, planned, fun holds => ?_⟩
      exact absurd ((free rfl).symm.trans holds) Bool.false_ne_true

theorem revalidation_plan : (engine.revalidation plan now).decision.plan =
    (engine.decisionOf plan).plan := evaluateGates_plan

theorem revalidate_exits {artifact : ArtifactRecord} {result : CommitResult}
    (revalidates : engine.Revalidates plan now artifact)
    (answered : (engine.touch plan).revalidate plan artifact (engine.decisionOf plan) now =
      (.ok result, next)) : CommitExit engine plan now result next := by
  have same : evaluateGates (engine.touch plan).config (engine.touch plan).state
      (requestOfPlan plan) now (engine.decisionOf plan) = engine.revalidation plan now :=
    evaluateGates_touched _ _ _ _ _ _
  have reported : (engine.revalidation plan now).result.outcome.Reported :=
    evaluateGates_reported _ _ _ _ _
  have planned := @revalidation_plan engine plan now
  unfold revalidate at answered
  rw [same] at answered
  dsimp only at answered
  split at answered
  · rename_i differs
    obtain ⟨rfl, redecides⟩ := closeCommit_exits answered planned nofun
    exact .changed revalidates differs redecides rfl
  rename_i kept
  have kept : engine.KeepsEvidence plan now artifact := not_not.mp kept
  split at answered
  · obtain ⟨rfl, redecides⟩ := closeCommit_exits answered planned nofun
    exact .refused revalidates kept reported redecides
  split at answered
  · obtain ⟨rfl, redecides⟩ := closeCommit_exits answered planned nofun
    exact .refused revalidates kept ⟨by decide, by decide⟩ redecides
  · have control := applyCommit_control engine plan artifact
      (engine.revalidation plan now).decision now
    rw [answered] at control
    have decisions := congrArg Control.decisions control
    have free := dropped_free (congrArg Control.pending control)
    cases answered
    refine .applied revalidates kept ⟨decisions, planned, fun holds => ?_⟩
    exact absurd (free.symm.trans holds) Bool.false_ne_true

theorem commit_exits {result : CommitResult}
    (answered : engine.commit plan now = (.ok result, next)) :
    plan.valid = true ∧ engine.state.plans[plan.id]? = some plan ∧
      CommitExit engine plan now result next := by
  unfold commit at answered
  split at answered
  · cases answered
  split at answered
  · cases answered
  rename_i wellFormed
  have wellFormed : plan.valid = true := by simpa using wellFormed
  split at answered
  · cases answered
  rename_i stored held
  split at answered
  · cases answered
  rename_i same
  have stored_eq : stored = plan := not_not.mp same
  subst stored_eq
  refine ⟨wellFormed, held, ?_⟩
  split at answered
  · rename_i moved
    cases answered
    refine .stale moved ⟨rfl, rfl, fun holds => ?_⟩ rfl
    exact absurd ((dropped_free rfl).symm.trans holds) Bool.false_ne_true
  rename_i current
  have current : policyMoved engine.state stored = false := by simpa using current
  have found : (engine.touch stored).state.findRevision stored.artifact stored.artifactRevision =
      engine.state.findRevision stored.artifact stored.artifactRevision := rfl
  unfold commitStored at answered
  dsimp only at answered
  split at answered
  · rename_i unknown
    cases answered
    exact .missing (found.symm.trans unknown) ⟨rfl, rfl, fun _ => rfl⟩
  rename_i artifact registered
  have registered := found.symm.trans registered
  split at answered
  · rename_i late
    obtain ⟨rfl, redecides⟩ := closeCommit_exits answered rfl nofun
    exact .dropped current (.inl late) ⟨by decide, by decide⟩
      (Reason.of_plain (by decide +kernel)) redecides
  rename_i timely
  split at answered
  · rename_i lost
    rw [Bool.not_eq_true'] at lost
    have lost : holdsReservation engine.state stored = false := lost
    obtain ⟨rfl, redecides⟩ := closeCommit_exits answered rfl fun _ => lost
    exact .dropped current (.inr lost) ⟨by decide, by decide⟩
      (Reason.of_plain (by decide +kernel)) redecides
  · rename_i reserved
    rw [Bool.not_eq_true', Bool.not_eq_false] at reserved
    have reserved : holdsReservation engine.state stored = true := reserved
    exact revalidate_exits ⟨current, registered, by simpa using timely, reserved⟩ answered

end Engine

end ArtifactPromotion
