import ArtifactPromotion.Engine.EvidenceAges
import ArtifactPromotion.Engine.EvidenceSelection
import ArtifactPromotion.Engine.GateReports

/-! What a satisfied gate says about the evidence it rests on: approval and environment gates do not
look at the validity window. -/

namespace ArtifactPromotion

open Runs

def Gate.ResolvesEvidence (gate : Gate) : Prop :=
  gate.kind = .evidenceRequired ∨ gate.kind = .evidenceFreshness ∨
    gate.kind = .approvalRequired ∨ gate.kind = .environmentBinding

namespace GateContext

variable {context : GateContext} {gate : Gate} {record : EvidenceRecord}

/-- The record that was selected is of the exact revision, not withdrawn, passing and in its
window. -/
structure RestsOnCurrent (context : GateContext) (gate : Gate) (record : EvidenceRecord) :
    Prop where
  selected : (selectEvidenceForGate context.evidence gate context.artifact.digest
    context.artifact.revision).referenced = some record
  revision : record.subjectRevision = context.artifact.revision
  digest : record.subjectDigest = context.artifact.digest
  standing : record.revoked = false ∧ record.superseded = false
  passed : record.result = .pass
  timely : context.InWindow record

/-- The record would satisfy the gate, had its window not ended or not begun. -/
structure OverlooksWindow (context : GateContext) (gate : Gate) (record : EvidenceRecord) :
    Prop where
  kind : gate.kind = .approvalRequired ∨
    gate.kind = .environmentBinding ∧ record.environment = gate.requiredEnvironment
  selects : context.Selects gate record
  outside : ¬context.InWindow record

theorem selection_live {evidence : List EvidenceRecord} {digest : Digest}
    {revision : ArtifactRevision}
    (accepted : (selectEvidenceForGate evidence gate digest revision).code = .ok) :
    ∃ record, selectEvidenceForGate evidence gate digest revision = { referenced := some record } ∧
      EvidenceClass.Holds gate digest revision record .live := by
  have selects := @selectEvidenceForGate_selects gate digest revision evidence
  have whole : selectEvidenceForGate evidence gate digest revision =
      { referenced := (selectEvidenceForGate evidence gate digest revision).referenced } := by
    unfold selectEvidenceForGate at accepted ⊢
    dsimp only at accepted ⊢
    split
    · rfl
    rename_i absent
    rw [if_neg absent] at accepted
    split at accepted
    · cases accepted
    split at accepted
    · cases accepted
    split at accepted
    · cases accepted
    split at accepted
    · cases accepted
    · cases accepted
  rw [accepted] at selects
  generalize (selectEvidenceForGate evidence gate digest revision).referenced = referenced
    at selects whole
  generalize code_eq : ErrorCode.ok = code at selects
  cases selects with
  | missing => cases code_eq
  | @newest cls _ _ record _ _ newest =>
      cases cls with
      | live => exact ⟨record, whole, (EvidenceClass.mem_members.mp newest.held).2⟩
      | _ => cases code_eq

theorem resolveGateEvidence_ok :
    (context.resolveGateEvidence gate).code = .ok ↔ ∃ record, context.Selects gate record := by
  constructor
  · intro resolved
    unfold resolveGateEvidence at resolved
    split at resolved
    · cases resolved
    rename_i named
    rw [Bool.or_eq_true, Bool.not_eq_true', beq_iff_eq, not_or, Bool.not_eq_false] at named
    dsimp only at resolved
    have accepted : (selectEvidenceForGate context.evidence gate context.artifact.digest
        context.artifact.revision).code = .ok := by
      split at resolved
      · exact resolved
      split at resolved
      · exact resolved
      split at resolved
      · cases resolved
      · exact resolved
    obtain ⟨record, selected, live⟩ := selection_live accepted
    refine ⟨record, named, selected, ?_, ?_⟩
    · simp [EvidenceRecord.live, live.2.2.2.1, live.2.2.2.2]
    · rw [selected] at resolved
      by_contra failed
      simp [failed] at resolved
  · rintro ⟨record, selects⟩
    rw [selects.resolved]

theorem Selects.holds (selects : context.Selects gate record) : EvidenceClass.Holds gate
    context.artifact.digest context.artifact.revision record .live := by
  obtain ⟨other, selected, live⟩ := selection_live (congrArg GateFinding.code selects.selected)
  rw [selects.selected, GateFinding.mk.injEq, Option.some.injEq] at selected
  rw [selected.2.2]
  exact live

theorem Selects.rests (selects : context.Selects gate record) (timely : context.InWindow record) :
    context.RestsOnCurrent gate record := by
  obtain ⟨_, digest, revision, standing, current⟩ := selects.holds
  exact ⟨congrArg GateFinding.referenced selects.selected, revision, digest, ⟨standing, current⟩,
    selects.passed, timely⟩

theorem satisfied_evidence (kind : gate.kind = .evidenceRequired) :
    context.satisfied gate = true ↔
      ∃ record, context.Selects gate record ∧ context.InWindow record := by
  unfold satisfied checkGate checkEvidenceGate
  simp only [kind]
  constructor
  · intro satisfied
    split at satisfied
    · rename_i failed
      exact absurd (beq_iff_eq.mp satisfied) failed
    rename_i resolved
    obtain ⟨record, selects⟩ := resolveGateEvidence_ok.mp (not_not.mp resolved)
    rw [selects.resolved] at satisfied
    exact ⟨record, selects, checkValidityWindow_ok.mp (by simpa using satisfied)⟩
  · rintro ⟨record, selects, timely⟩
    simp [selects.resolved, checkValidityWindow_ok.mpr timely]

theorem freshness_selects (kind : gate.kind = .evidenceFreshness)
    (satisfied : context.satisfied gate = true) : ∃ record, context.Selects gate record := by
  refine resolveGateEvidence_ok.mp ?_
  by_contra failed
  simp [GateContext.satisfied, checkGate, checkEvidenceGate, kind, failed] at satisfied

theorem satisfied_approval (kind : gate.kind = .approvalRequired) :
    context.satisfied gate = true ↔ ∃ record, context.Selects gate record := by
  rw [← resolveGateEvidence_ok]
  unfold satisfied checkGate checkApproval
  simp only [kind]
  by_cases resolved : (context.resolveGateEvidence gate).code = .ok
  · simp [resolved]
  · by_cases refused : (context.resolveGateEvidence gate).code = .policyViolation
    · simp [refused]
    · simp [resolved, refused]

theorem satisfied_environment (kind : gate.kind = .environmentBinding) :
    context.satisfied gate = true ↔
      ∃ record, context.Selects gate record ∧ record.environment = gate.requiredEnvironment := by
  unfold satisfied checkGate checkEnvironment
  simp only [kind]
  constructor
  · intro satisfied
    split at satisfied
    · rename_i failed
      exact absurd (beq_iff_eq.mp satisfied) failed
    rename_i resolved
    obtain ⟨record, selects⟩ := resolveGateEvidence_ok.mp (not_not.mp resolved)
    rw [selects.resolved] at satisfied
    refine ⟨record, selects, ?_⟩
    by_contra elsewhere
    simp [elsewhere] at satisfied
  · rintro ⟨record, selects, bound⟩
    simp [selects.resolved, bound]

theorem RestsOnCurrent.unique {other : EvidenceRecord}
    (rests : context.RestsOnCurrent gate record) (selects : context.Selects gate other) :
    record = other := by
  have selected := rests.selected
  rw [selects.selected] at selected
  exact (Option.some.inj selected).symm

/-- A satisfied gate rests on current evidence unless its kind overlooks the window. -/
theorem satisfied_rests_iff (resolves : gate.ResolvesEvidence) :
    (context.satisfied gate = true → ∃ record, context.RestsOnCurrent gate record) ↔
      ∀ record, ¬context.OverlooksWindow gate record := by
  constructor
  · rintro rests record ⟨overlooking, selects, outside⟩
    have satisfied : context.satisfied gate = true := by
      rcases overlooking with approval | ⟨environment, bound⟩
      · exact (satisfied_approval approval).mpr ⟨record, selects⟩
      · exact (satisfied_environment environment).mpr ⟨record, selects, bound⟩
    obtain ⟨other, current⟩ := rests satisfied
    rw [current.unique selects] at current
    exact outside current.timely
  · intro none satisfied
    rcases resolves with required | freshness | approval | environment
    · obtain ⟨record, selects, timely⟩ := (satisfied_evidence required).mp satisfied
      exact ⟨record, selects.rests timely⟩
    · obtain ⟨record, selects⟩ := freshness_selects freshness satisfied
      exact ⟨record, selects.rests ((satisfied_freshness freshness selects).mp satisfied).2⟩
    · obtain ⟨record, selects⟩ := (satisfied_approval approval).mp satisfied
      have timely : context.InWindow record := by
        by_contra outside
        exact none record ⟨.inl approval, selects, outside⟩
      exact ⟨record, selects.rests timely⟩
    · obtain ⟨record, selects, bound⟩ := (satisfied_environment environment).mp satisfied
      have timely : context.InWindow record := by
        by_contra outside
        exact none record ⟨.inr ⟨environment, bound⟩, selects, outside⟩
      exact ⟨record, selects.rests timely⟩

end GateContext

theorem reported_rests_iff {config : EngineConfig} {state : CoordinatorState}
    {request : PromotionRequest} {now : UInt64} {decision : PromotionDecision}
    {artifact : ArtifactRecord} {rule : PolicyRule}
    (found : state.findRevision request.artifact request.expectedRevision = some artifact)
    (governed : state.policy.findRule artifact.kind artifact.stage request.requestedStage =
      some rule) :
    let context : GateContext := ⟨config, state, request, now, artifact, decision.policyGeneration⟩
    (evaluateGates config state request now decision).decision.gates =
        decision.gates ++ (context.lookedAt rule.requirements).map context.explanationOf ∧
      ∀ gate ∈ context.lookedAt rule.requirements, gate.ResolvesEvidence →
        (((context.explanationOf gate).status = .satisfied →
            ∃ record, context.RestsOnCurrent gate record) ↔
          ∀ record, ¬context.OverlooksWindow gate record) := by
  intro context
  refine ⟨evaluateGates_explanations found governed, fun gate _ resolves => ?_⟩
  rw [GateContext.explanationOf_satisfied]
  exact GateContext.satisfied_rests_iff resolves

namespace Engine

open GateContext

def asksOfGate (gate : Gate) (engine : Engine) : Bool :=
  (engine.state.findRevision ⟨0, 5⟩ (engine.sampleRequest .promoted 1).expectedRevision ==
    some (engine.gateContext 0).artifact) &&
  (engine.state.policy.findRule (engine.gateContext 0).artifact.kind
    (engine.gateContext 0).artifact.stage .promoted).any fun rule => rule.requirements == [gate]

def consentGate : Gate := makeApprovalGate .humanApproval "approval"

def consentPolicy : PromotionPolicy :=
  { directPolicy with
    rules := [{ source := .candidate, target := .promoted, requirements := [consentGate] }] }

def consentChoices : List (Engine → Op) :=
  [fun _ => .publishPolicy consentPolicy,
    fun _ => .registerArtifact (sampleRegistration 1) 0,
    fun engine => .submitEvidence { engine.sampleEvidence with
      type := .humanApproval, hasValidityWindow := true, validFromUnixMillis := 1000,
      validUntilUnixMillis := 2000 }]

/-- The approval that the gate is decided on is restricted to the instants from 1000 to 2000. -/
def consentsTimely (engine : Engine) : Bool :=
  asksOfGate consentGate engine && (engine.gateContext 1500).satisfied consentGate &&
    (selectEvidenceForGate (engine.gateContext 1500).evidence consentGate
      (engine.gateContext 1500).artifact.digest
      (engine.gateContext 1500).artifact.revision).referenced.any fun record =>
        record.hasValidityWindow && record.validFromUnixMillis == 1000 &&
          record.validUntilUnixMillis == 2000

theorem reported_rests_iff_dated :
    ∃ (engine : Engine) (record : EvidenceRecord), Reachable engine ∧
      record.hasValidityWindow = true ∧
      (engine.gateContext 1500).RestsOnCurrent consentGate record := by
  have evaluated : ((play step sampleEngine consentChoices).any fun played =>
      consentsTimely played.2) = true := by
    decide +kernel
  obtain ⟨engine, reachable, checked⟩ :=
    Reachable.of_play consentsTimely sampleEngine_constructed evaluated
  simp only [consentsTimely, asksOfGate, Bool.and_eq_true, beq_iff_eq, Option.any_eq_true]
    at checked
  obtain ⟨⟨⟨found, rule, governed, only⟩, satisfied⟩, dated, selected, ⟨windowed, begins⟩, ends⟩ :=
    checked
  have reported := (@reported_rests_iff engine.config engine.state (engine.sampleRequest .promoted 1)
    1500 { policyGeneration := engine.state.activePolicyGeneration } _ rule found governed).2
  have looked : consentGate ∈ (engine.gateContext 1500).lookedAt rule.requirements := by
    rw [only]
    simp [lookedAt, checkGate, consentGate, makeApprovalGate]
  have timely : (engine.gateContext 1500).InWindow dated := by
    intro _
    rw [begins, ends, show (engine.gateContext 1500).now = 1500 from rfl]
    decide
  have heeds (record : EvidenceRecord) :
      ¬(engine.gateContext 1500).OverlooksWindow consentGate record := by
    rintro ⟨_, selects, outside⟩
    have same := congrArg (·.referenced) selects.selected
    rw [selected] at same
    obtain rfl := Option.some.inj same
    exact outside timely
  obtain ⟨record, rests⟩ := (reported consentGate looked (.inr (.inr (.inl rfl)))).mpr heeds
    (explanationOf_satisfied.mpr satisfied)
  have same : dated = record := Option.some.inj (selected.symm.trans rests.selected)
  exact ⟨engine, record, reachable, same ▸ windowed, rests⟩

def consentsLate (engine : Engine) : Bool :=
  asksOfGate consentGate engine &&
  ((evaluateGates engine.config engine.state (engine.sampleRequest .promoted 1) 3000
    {}).decision.gates.map GateExplanation.status == [.satisfied]) &&
  ((selectEvidenceForGate (engine.gateContext 3000).evidence consentGate
    (engine.gateContext 3000).artifact.digest
    (engine.gateContext 3000).artifact.revision).referenced.any fun record =>
      record.hasValidityWindow && record.validUntilUnixMillis == 2000)

theorem ended_approval_satisfies :
    ∃ (engine : Engine) (rule : PolicyRule) (record : EvidenceRecord), Reachable engine ∧
      engine.state.policy.findRule (engine.gateContext 0).artifact.kind
        (engine.gateContext 0).artifact.stage .promoted = some rule ∧
      rule.requirements = [consentGate] ∧
      (evaluateGates engine.config engine.state (engine.sampleRequest .promoted 1) 3000
        {}).decision.gates.map GateExplanation.status = [.satisfied] ∧
      (selectEvidenceForGate (engine.gateContext 3000).evidence consentGate
        (engine.gateContext 3000).artifact.digest
        (engine.gateContext 3000).artifact.revision).referenced = some record ∧
      ¬(engine.gateContext 3000).InWindow record := by
  have evaluated : ((play step sampleEngine consentChoices).any fun played =>
      consentsLate played.2) = true := by
    decide +kernel
  obtain ⟨engine, reachable, checked⟩ :=
    Reachable.of_play consentsLate sampleEngine_constructed evaluated
  simp only [consentsLate, asksOfGate, Bool.and_eq_true, beq_iff_eq, Option.any_eq_true] at checked
  obtain ⟨⟨⟨_, rule, governed, only⟩, reported⟩, record, selected, windowed, ended⟩ := checked
  refine ⟨engine, rule, record, reachable, governed, only, reported, selected, fun timely => ?_⟩
  have inside : (3000 : UInt64).toNat ≤ record.validUntilUnixMillis.toNat := (timely windowed).2
  rw [ended] at inside
  exact absurd inside (by decide)

end Engine

end ArtifactPromotion
