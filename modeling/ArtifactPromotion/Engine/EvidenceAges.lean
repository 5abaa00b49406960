import ArtifactPromotion.Engine.LiveEvidence

/-! The age test of a freshness gate against the same test over the natural numbers. -/

namespace ArtifactPromotion

namespace GateContext

variable {context : GateContext} {gate : Gate} {record : EvidenceRecord}

/-- The record the gate is decided on: the newest live one of its class, with a passing result. -/
structure Selects (context : GateContext) (gate : Gate) (record : EvidenceRecord) : Prop where
  named : isValidEvidenceType gate.evidenceType.toByte.toNat = true ∧ gate.evidenceType ≠ .invalid
  selected : selectEvidenceForGate context.evidence gate context.artifact.digest
    context.artifact.revision = { referenced := some record }
  live : record.live = true
  passed : record.result = .pass

/-- The record is not from further ahead than the tolerated skew, and not too old. -/
def AgeAccepted (context : GateContext) (gate : Gate) (record : EvidenceRecord) : Prop :=
  record.producedUnixMillis.toNat ≤
      context.now.toNat + context.config.futureSkewToleranceMillis.toNat ∧
    context.now.toNat - record.producedUnixMillis.toNat ≤ gate.maxAgeMillis.toNat

def InWindow (context : GateContext) (record : EvidenceRecord) : Prop :=
  record.hasValidityWindow = true →
    record.validFromUnixMillis.toNat ≤ context.now.toNat ∧
      context.now.toNat ≤ record.validUntilUnixMillis.toNat

/-- Where wrapping around changes nothing. As long as the instant and the skew add up within 64
bits, the record must not be from the tolerated future, unless the limit admits even the age that
wraps around; beyond that, the wrapped sum must not reject what is young enough. -/
def WrapsHarmlessly (context : GateContext) (gate : Gate) (record : EvidenceRecord) : Prop :=
  let now := context.now.toNat
  let produced := record.producedUnixMillis.toNat
  let horizon := now + context.config.futureSkewToleranceMillis.toNat
  if horizon < 2 ^ 64 then
    produced ≤ now ∨ horizon < produced ∨ 2 ^ 64 - (produced - now) ≤ gate.maxAgeMillis.toNat
  else produced ≤ now ∧ (produced + 2 ^ 64 ≤ horizon ∨ gate.maxAgeMillis.toNat < now - produced)

theorem Selects.resolved (selects : context.Selects gate record) :
    context.resolveGateEvidence gate = { referenced := some record } := by
  obtain ⟨⟨valid, given⟩, selected, _, passed⟩ := selects
  unfold resolveGateEvidence
  rw [valid, selected]
  simp [given, passed]

theorem checkValidityWindow_ok :
    (context.checkValidityWindow record).code = .ok ↔ context.InWindow record := by
  unfold checkValidityWindow InWindow
  by_cases windowed : record.hasValidityWindow = true
  · simp only [windowed, Bool.true_and, Bool.or_eq_true, decide_eq_true_eq, UInt64.lt_iff_toNat_lt,
      gt_iff_lt, forall_const]
    split
    · rename_i outside
      simp only [reduceCtorEq, false_iff]
      omega
    · rename_i inside
      simp only [true_iff]
      omega
  · simp [windowed]

/-- A freshness gate is satisfied when both wrapping tests and the window test pass. -/
theorem satisfied_freshness (kind : gate.kind = .evidenceFreshness)
    (selects : context.Selects gate record) :
    context.satisfied gate = true ↔
      (record.producedUnixMillis ≤ context.now + context.config.futureSkewToleranceMillis ∧
        context.now - record.producedUnixMillis ≤ gate.maxAgeMillis) ∧
      context.InWindow record := by
  rw [← checkValidityWindow_ok]
  unfold satisfied checkGate checkEvidenceGate
  simp only [kind, selects.resolved, ne_eq, not_true_eq_false, if_false, if_true]
  unfold checkFreshness
  dsimp only
  split
  · rename_i ahead
    simp only [Option.getD_some, beq_iff_eq, reduceCtorEq, false_iff, not_and]
    exact fun within => absurd within.1 (UInt64.not_le.mpr ahead)
  · rename_i within
    split
    · rename_i old
      simp only [Option.getD_some, beq_iff_eq, reduceCtorEq, false_iff, not_and]
      exact fun young => absurd young.2 (UInt64.not_le.mpr old)
    · rename_i young
      simp only [Option.getD_none, beq_iff_eq]
      exact (and_iff_right ⟨UInt64.not_lt.mp within, UInt64.not_lt.mp young⟩).symm

/-- The gate says what the natural numbers say exactly when its window test already fails or the
wrap-around is harmless. -/
theorem freshness_exact_iff (kind : gate.kind = .evidenceFreshness)
    (selects : context.Selects gate record) :
    (context.satisfied gate = true ↔
        context.AgeAccepted gate record ∧ context.InWindow record) ↔
      context.WrapsHarmlessly gate record ∨ ¬context.InWindow record := by
  rw [satisfied_freshness kind selects]
  by_cases window : context.InWindow record
  · simp only [window, and_true, not_true_eq_false, or_false]
    unfold AgeAccepted WrapsHarmlessly
    have nowBound := context.now.toNat_lt
    have producedBound := record.producedUnixMillis.toNat_lt
    have skewBound := context.config.futureSkewToleranceMillis.toNat_lt
    have limitBound := gate.maxAgeMillis.toNat_lt
    simp only [UInt64.le_iff_toNat_le, UInt64.toNat_add, UInt64.toNat_sub]
    split <;> omega
  · simp [window]

end GateContext

namespace Engine

open Runs GateContext

def ageGate : Gate :=
  { kind := .evidenceFreshness, evidenceType := .buildPass, maxAgeMillis := 60000,
    label := text "recent build" }

def agePolicy : PromotionPolicy :=
  { directPolicy with
    rules := [{ source := .candidate, target := .promoted, requirements := [ageGate] }] }

def datedChoices : List (Engine → Op) :=
  [fun _ => .publishPolicy agePolicy,
    fun _ => .registerArtifact (sampleRegistration 1) 0,
    fun engine => .submitEvidence { engine.sampleEvidence with producedUnixMillis := 1001 }]

def gateContext (engine : Engine) (now : UInt64) : GateContext :=
  ⟨engine.config, engine.state, engine.sampleRequest .promoted 1, now,
    (engine.state.findCurrent ⟨0, 5⟩).getD {}, engine.state.activePolicyGeneration⟩

def datedRecord (engine : Engine) : EvidenceRecord :=
  (engine.state.evidence.toList.map Prod.snd).headD {}

def answersAt (now : UInt64) (answer : Bool) (engine : Engine) : Bool :=
  selectEvidenceForGate (engine.gateContext now).evidence ageGate
      (engine.gateContext now).artifact.digest (engine.gateContext now).artifact.revision ==
    { referenced := some engine.datedRecord } &&
  engine.datedRecord.live && engine.datedRecord.result == .pass &&
  engine.datedRecord.producedUnixMillis == 1001 && !engine.datedRecord.hasValidityWindow &&
  engine.config.futureSkewToleranceMillis == 5000 &&
  (engine.gateContext now).satisfied ageGate == answer

structure Dated (engine : Engine) (now : UInt64) (answer : Bool) : Prop where
  selects : (engine.gateContext now).Selects ageGate engine.datedRecord
  produced : engine.datedRecord.producedUnixMillis = 1001
  window : (engine.gateContext now).InWindow engine.datedRecord
  skew : (engine.gateContext now).config.futureSkewToleranceMillis = 5000
  answered : (engine.gateContext now).satisfied ageGate = answer

theorem answersAt_dated {now : UInt64} {answer : Bool} {engine : Engine}
    (answers : answersAt now answer engine = true) : engine.Dated now answer := by
  simp only [answersAt, Bool.and_eq_true, beq_iff_eq, Bool.not_eq_true'] at answers
  obtain ⟨⟨⟨⟨⟨⟨selected, live⟩, passed⟩, produced⟩, unbounded⟩, skew⟩, answered⟩ := answers
  constructor
  case selects => exact ⟨⟨by decide, by decide⟩, selected, live, passed⟩
  case produced => exact produced
  case window => simp [InWindow, unbounded]
  case skew => exact skew
  case answered => exact answered

theorem freshness_exact_iff_dated :
    ∃ engine : Engine, Reachable engine ∧ engine.datedRecord.producedUnixMillis = 1001 ∧
      ((engine.gateContext 2000).satisfied ageGate = true ↔
        (engine.gateContext 2000).AgeAccepted ageGate engine.datedRecord ∧
          (engine.gateContext 2000).InWindow engine.datedRecord) := by
  have evaluated : ((play step sampleEngine datedChoices).any fun played =>
      answersAt 2000 true played.2) = true := by
    decide +kernel
  obtain ⟨engine, reachable, checked⟩ :=
    Reachable.of_play (answersAt 2000 true) sampleEngine_constructed evaluated
  have dated := answersAt_dated checked
  have harmless : (engine.gateContext 2000).WrapsHarmlessly ageGate engine.datedRecord := by
    have instant : (engine.gateContext 2000).now = 2000 := rfl
    simp only [WrapsHarmlessly, dated.produced, dated.skew, instant]
    decide
  exact ⟨engine, reachable, dated.produced,
    (freshness_exact_iff rfl dated.selects).mpr (.inl harmless)⟩

/-- Evidence that is one millisecond ahead of the coordinator, well within the tolerated skew, is
too old for a gate that admits a minute: its age wraps around. -/
theorem near_future_evidence_stale :
    ∃ (engine : Engine) (now : UInt64) (gate : Gate) (record : EvidenceRecord), Reachable engine ∧
      gate.kind = .evidenceFreshness ∧ (engine.gateContext now).Selects gate record ∧
      (engine.gateContext now).AgeAccepted gate record ∧
      (engine.gateContext now).InWindow record ∧
      (engine.gateContext now).satisfied gate = false := by
  have evaluated : ((play step sampleEngine datedChoices).any fun played =>
      answersAt 1000 false played.2) = true := by
    decide +kernel
  obtain ⟨engine, reachable, checked⟩ :=
    Reachable.of_play (answersAt 1000 false) sampleEngine_constructed evaluated
  have dated := answersAt_dated checked
  have young : (engine.gateContext 1000).AgeAccepted ageGate engine.datedRecord := by
    have instant : (engine.gateContext 1000).now = 1000 := rfl
    simp only [AgeAccepted, dated.produced, dated.skew, instant]
    decide
  exact ⟨engine, 1000, ageGate, engine.datedRecord, reachable, rfl, dated.selects, young,
    dated.window, dated.answered⟩

end Engine

end ArtifactPromotion
