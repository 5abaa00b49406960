import ArtifactPromotion.Engine.ExpiredEvidence

/-! Rollback eligibility against the gates of the rule that grants it: the query checks the flags of
the revision, its record and the policy, and none of the gates. -/

namespace ArtifactPromotion

open Runs

/-- The gate is about vetoes, evidence, integrity or compatibility. -/
def Gate.AboutTrust (gate : Gate) : Prop :=
  gate.kind = .securityVetoClear ∨ gate.kind = .dependencyVetoClear ∨ gate.ResolvesEvidence ∨
    gate.kind = .evidenceIntegrity ∨ gate.kind = .compatibilityGenerationCurrent

namespace GateContext

variable {context : GateContext} {gate : Gate}

/-- What a gate about trust asks of the state: no open veto, live evidence of the exact revision
that passes, intact evidence, or the required compatibility generation. -/
def TrustHolds (context : GateContext) (gate : Gate) : Prop :=
  match gate.kind with
  | .securityVetoClear => context.vetoes.securityVeto = false
  | .dependencyVetoClear => context.vetoes.dependencyVeto = false
  | .evidenceIntegrity => ∀ record ∈ context.evidence, record.live = true →
      computeEvidenceIntegrity record = record.integrityDigest
  | .compatibilityGenerationCurrent =>
      context.state.compatibilityGeneration = gate.requiredCompatibilityGeneration
  | .evidenceRequired => ∃ record, context.Selects gate record ∧ context.InWindow record
  | .evidenceFreshness => ∃ record, context.Selects gate record ∧ context.InWindow record ∧
      record.producedUnixMillis ≤ context.now + context.config.futureSkewToleranceMillis ∧
      context.now - record.producedUnixMillis ≤ gate.maxAgeMillis
  | .approvalRequired => ∃ record, context.Selects gate record
  | .environmentBinding => ∃ record, context.Selects gate record ∧
      record.environment = gate.requiredEnvironment
  | _ => True

theorem satisfied_integrity (kind : gate.kind = .evidenceIntegrity) :
    context.satisfied gate = true ↔ ∀ record ∈ context.evidence, record.live = true →
      computeEvidenceIntegrity record = record.integrityDigest := by
  unfold satisfied checkGate checkEvidenceIntegrity
  simp only [kind]
  cases tampered : context.evidence.find? fun record =>
      record.live && computeEvidenceIntegrity record != record.integrityDigest with
  | none =>
      rw [List.find?_eq_none] at tampered
      simpa using tampered
  | some record =>
      have inside := List.mem_of_find?_eq_some tampered
      have broken := List.find?_some tampered
      rw [Bool.and_eq_true, bne_iff_ne] at broken
      simp only [beq_iff_eq, reduceCtorEq, false_iff]
      exact fun intact => broken.2 (intact record inside broken.1)

theorem satisfied_fresh (kind : gate.kind = .evidenceFreshness) :
    context.satisfied gate = true ↔
      ∃ record, context.Selects gate record ∧ context.InWindow record ∧
        record.producedUnixMillis ≤ context.now + context.config.futureSkewToleranceMillis ∧
        context.now - record.producedUnixMillis ≤ gate.maxAgeMillis := by
  constructor
  · intro satisfied
    obtain ⟨record, selects⟩ := freshness_selects kind satisfied
    obtain ⟨aged, timely⟩ := (satisfied_freshness kind selects).mp satisfied
    exact ⟨record, selects, timely, aged⟩
  · rintro ⟨record, selects, timely, aged⟩
    exact (satisfied_freshness kind selects).mpr ⟨aged, timely⟩

theorem satisfied_trust (about : gate.AboutTrust) :
    context.satisfied gate = true ↔ context.TrustHolds gate := by
  rcases about with security | dependency | (required | freshness | approval | environment) |
    integrity | compatibility
  · by_cases vetoed : context.vetoes.securityVeto = true
    · simp [TrustHolds, satisfied, checkGate, security, vetoed]
    · simp [TrustHolds, satisfied, checkGate, security, vetoed]
  · by_cases vetoed : context.vetoes.dependencyVeto = true
    · simp [TrustHolds, satisfied, checkGate, dependency, vetoed]
    · simp [TrustHolds, satisfied, checkGate, dependency, vetoed]
  · rw [satisfied_evidence required, TrustHolds, required]
  · rw [satisfied_fresh freshness, TrustHolds, freshness]
  · rw [satisfied_approval approval, TrustHolds, approval]
  · rw [satisfied_environment environment, TrustHolds, environment]
  · rw [satisfied_integrity integrity, TrustHolds, integrity]
  · by_cases current :
        context.state.compatibilityGeneration = gate.requiredCompatibilityGeneration
    · simp [TrustHolds, satisfied, checkGate, checkCompatibility, compatibility, current]
    · simp [TrustHolds, satisfied, checkGate, checkCompatibility, compatibility, current]

end GateContext

namespace Engine

variable {engine : Engine} {id : ArtifactId} {artifact : ArtifactRecord} {rule : PolicyRule}

structure RollbackCandidate (engine : Engine) (id : ArtifactId) (artifact : ArtifactRecord)
    (rule : PolicyRule) : Prop where
  current : engine.state.findCurrent id = some artifact
  governed : engine.state.policy.findRule artifact.kind .approved .promoted = some rule
  allowed : rule.allowRollbackEligibility = true
  recorded : ∃ (transition : TransitionId) (record : PromotionRecord),
    engine.state.records[transition]? = some record ∧ record.artifact = id ∧
      record.artifactRevision = artifact.revision ∧ record.target = .promoted
  unrevoked : artifact.revocation.active = false
  released : artifact.quarantine.active = false
  kept : artifact.stage ≠ .retired

def rollbackContext (engine : Engine) (artifact : ArtifactRecord) (now : UInt64) : GateContext :=
  ⟨engine.config, engine.state,
    { artifact := artifact.id, expectedRevision := artifact.revision,
      expectedDigest := artifact.digest, requestedStage := .promoted },
    now, artifact, engine.state.activePolicyGeneration⟩

/-- An eligible revision passes the checks of the query and the gates about trust. -/
def RollbackSafe (engine : Engine) (id : ArtifactId) (now : UInt64) : Prop :=
  (engine.evaluateRollbackEligibility id).eligible = true →
    ∃ artifact rule, engine.RollbackCandidate id artifact rule ∧
      ∀ gate ∈ rule.requirements, gate.AboutTrust →
        (engine.rollbackContext artifact now).satisfied gate = true

theorem hasPromotionRecord_iff {state : CoordinatorState} {revision : ArtifactRevision} :
    hasPromotionRecord state id revision = true ↔
      ∃ (transition : TransitionId) (record : PromotionRecord),
        state.records[transition]? = some record ∧ record.artifact = id ∧
          record.artifactRevision = revision ∧ record.target = .promoted := by
  unfold hasPromotionRecord
  simp only [List.any_eq_true, Bool.and_eq_true, beq_iff_eq]
  constructor
  · rintro ⟨⟨transition, record⟩, inside, ⟨artifact, revision⟩, target⟩
    exact ⟨transition, record, Std.ExtTreeMap.mem_toList_iff_getElem?_eq_some.mp inside, artifact,
      revision, target⟩
  · rintro ⟨transition, record, held, artifact, revision, target⟩
    exact ⟨(transition, record), Std.ExtTreeMap.mem_toList_iff_getElem?_eq_some.mpr held,
      ⟨artifact, revision⟩, target⟩

theorem eligible_iff : (engine.evaluateRollbackEligibility id).eligible = true ↔
    ∃ artifact rule, engine.RollbackCandidate id artifact rule := by
  unfold evaluateRollbackEligibility
  cases current : engine.state.findCurrent id with
  | none =>
      simp only [Bool.false_eq_true, false_iff]
      rintro ⟨artifact, rule, candidate⟩
      simp [candidate.current] at current
  | some artifact =>
      have nothing {condition : Prop} [Decidable condition] {message : Text} :
          (if condition then [] else [message]) = [] ↔ condition := by
        by_cases holds : condition <;> simp [holds]
      have nothingElse {condition : Prop} [Decidable condition] {message : Text} :
          (if condition then [message] else []) = [] ↔ ¬condition := by
        by_cases holds : condition <;> simp [holds]
      simp only [List.isEmpty_iff, blockingGates, List.append_eq_nil_iff, nothing, nothingElse,
        Option.any_eq_true, hasPromotionRecord_iff, Bool.not_eq_true]
      constructor
      · rintro ⟨⟨⟨⟨⟨rule, governed, allowed⟩, recorded⟩, unrevoked⟩, released⟩, kept⟩
        exact ⟨artifact, rule, current, governed, allowed, recorded, unrevoked, released, kept⟩
      · rintro ⟨other, rule, candidate⟩
        obtain ⟨found, governed, allowed, recorded, unrevoked, released, kept⟩ := candidate
        cases current.symm.trans found
        exact ⟨⟨⟨⟨⟨rule, governed, allowed⟩, recorded⟩, unrevoked⟩, released⟩, kept⟩

theorem rollback_safe_iff (engine : Engine) (id : ArtifactId) (now : UInt64) :
    engine.RollbackSafe id now ↔
      ∀ artifact rule, engine.RollbackCandidate id artifact rule →
        ∀ gate ∈ rule.requirements, gate.AboutTrust →
          (engine.rollbackContext artifact now).TrustHolds gate := by
  constructor
  · intro safe artifact rule candidate gate inside about
    obtain ⟨other, otherRule, otherCandidate, satisfied⟩ :=
      safe (eligible_iff.mpr ⟨artifact, rule, candidate⟩)
    cases candidate.current.symm.trans otherCandidate.current
    cases candidate.governed.symm.trans otherCandidate.governed
    exact (GateContext.satisfied_trust about).mp (satisfied gate inside about)
  · intro holds eligible
    obtain ⟨artifact, rule, candidate⟩ := eligible_iff.mp eligible
    refine ⟨artifact, rule, candidate, fun gate inside about => ?_⟩
    exact (GateContext.satisfied_trust about).mpr (holds artifact rule candidate gate inside about)

def vetoGate : Gate := makeSimpleGate .securityVetoClear "no security veto"

def rollbackPolicy : PromotionPolicy :=
  { directPolicy with
    graph := { edges := [⟨.candidate, .approved⟩, ⟨.candidate, .promoted⟩, ⟨.approved, .promoted⟩,
      ⟨.promoted, .retired⟩] }
    rules := [{ source := .candidate, target := .promoted },
      { source := .approved, target := .promoted, requirements := [vetoGate],
        allowRollbackEligibility := true }] }

def vetoedChoices : List (Engine → Op) :=
  [fun _ => .publishPolicy rollbackPolicy,
    fun _ => .registerArtifact (sampleRegistration 1) 0,
    fun engine => .evaluate (engine.sampleRequest .promoted 1) 0,
    fun engine => .commit (engine.planFor 1) 0,
    fun _ => .setSecurityVeto ⟨0, 5⟩ true (text "advisory")]

def eligibleUnderVeto (engine : Engine) : Bool :=
  (engine.evaluateRollbackEligibility ⟨0, 5⟩).eligible &&
  (engine.state.findCurrent ⟨0, 5⟩).any fun artifact =>
    ((engine.state.policy.findRule artifact.kind .approved .promoted).any fun rule =>
      rule.requirements == [vetoGate]) && !(engine.rollbackContext artifact 0).satisfied vetoGate

theorem vetoed_revision_eligible :
    ∃ (engine : Engine) (id : ArtifactId) (now : UInt64),
      Reachable engine ∧ ¬engine.RollbackSafe id now := by
  have evaluated : ((play step sampleEngine vetoedChoices).any fun played =>
      eligibleUnderVeto played.2) = true := by
    decide +kernel
  obtain ⟨engine, reachable, checked⟩ :=
    Reachable.of_play eligibleUnderVeto sampleEngine_constructed evaluated
  simp only [eligibleUnderVeto, Bool.and_eq_true, beq_iff_eq, Option.any_eq_true,
    Bool.not_eq_true'] at checked
  obtain ⟨eligible, artifact, found, ⟨rule, governed, only⟩, vetoed⟩ := checked
  refine ⟨engine, ⟨0, 5⟩, 0, reachable, fun safe => ?_⟩
  obtain ⟨other, otherRule, candidate, satisfied⟩ := safe eligible
  cases found.symm.trans candidate.current
  cases governed.symm.trans candidate.governed
  have cleared := satisfied vetoGate (by simp [only]) (.inl rfl)
  rw [vetoed] at cleared
  cases cleared

end Engine

end ArtifactPromotion
