import Mathlib.Data.List.TakeDrop
import Mathlib.Data.List.TakeWhile
import ArtifactPromotion.Persist.Acceptance

/-! When a record comes back from the file as it was: none of its texts is longer than the file's
limit for it. -/

namespace ArtifactPromotion

theorem map_eq_self_iff {α : Type} {change : α → α} {items : List α} :
    items.map change = items ↔ ∀ item ∈ items, change item = item := by
  induction items with
  | nil => simp
  | cons first rest ih => simp [ih]

namespace ProvenanceRecord

def Unabridged (value : ProvenanceRecord) : Prop :=
  value.source.length ≤ kMaxReferenceLength ∧ value.subject.length ≤ kMaxReferenceLength

theorem restored_eq_iff (value : ProvenanceRecord) : value.restored = value ↔ value.Unabridged := by
  cases value
  simp [restored, Unabridged, List.take_eq_self_iff]

instance (value : ProvenanceRecord) : Decidable value.Unabridged :=
  inferInstanceAs (Decidable (_ ∧ _))

end ProvenanceRecord

namespace ArtifactRecord

@[mk_iff]
structure Unabridged (value : ArtifactRecord) : Prop where
  name : value.name.length ≤ kMaxNameLength
  provenance : ∀ record ∈ value.provenance, record.Unabridged
  dependencies : ∀ name ∈ value.dependencies, name.length ≤ kMaxNameLength
  quarantine : value.quarantine.reasonClass.length ≤ kMaxNameLength ∧
    value.quarantine.detail.length ≤ kMaxTextLength
  revocation : value.revocation.reasonClass.length ≤ kMaxNameLength ∧
    value.revocation.detail.length ≤ kMaxTextLength
  supersession : value.supersession.reason.length ≤ kMaxTextLength

theorem restored_eq_iff (value : ArtifactRecord) : value.restored = value ↔ value.Unabridged := by
  obtain ⟨⟩ := value
  rename_i quarantine revocation supersession
  cases quarantine
  cases revocation
  cases supersession
  simp [restored, unabridged_iff, QuarantineRecord.restored, RevocationRecord.restored,
    SupersessionRecord.restored, map_eq_self_iff, ProvenanceRecord.restored_eq_iff, List.take_eq_self_iff]

instance (value : ArtifactRecord) : Decidable value.Unabridged :=
  decidable_of_iff _ (unabridged_iff value).symm

end ArtifactRecord

namespace EvidenceRecord

@[mk_iff]
structure Unabridged (value : EvidenceRecord) : Prop where
  customType : value.customType.length ≤ kMaxNameLength
  measurement : value.measurement.length ≤ kMaxTextLength
  detail : value.detail.length ≤ kMaxTextLength
  environment : value.environment.length ≤ kMaxTextLength
  revocationReason : value.revocationReason.length ≤ kMaxTextLength

theorem restored_eq_iff (value : EvidenceRecord) : value.restored = value ↔ value.Unabridged := by
  cases value
  simp [restored, unabridged_iff, List.take_eq_self_iff]

instance (value : EvidenceRecord) : Decidable value.Unabridged :=
  decidable_of_iff _ (unabridged_iff value).symm

end EvidenceRecord

namespace PromotionPlan

/-- The entry count fits the four bytes it is written in. -/
def Unabridged (value : PromotionPlan) : Prop := value.evidenceEntryCount.toNat < 2 ^ 32

theorem restored_eq_iff (value : PromotionPlan) : value.restored = value ↔ value.Unabridged := by
  cases value
  simp only [restored, Unabridged, PromotionPlan.mk.injEq, true_and, and_true]
  rw [← UInt64.toNat_inj]
  simp only [UInt32.toNat_toUInt64, UInt64.toNat_toUInt32]
  omega

instance (value : PromotionPlan) : Decidable value.Unabridged :=
  inferInstanceAs (Decidable (_ < _))

end PromotionPlan

namespace PromotionDecision

/-- The reason's text holds no zero byte: it comes back through a C string. -/
def ReasonUnabridged (value : Reason) : Prop :=
  0 ∉ value.text.view ∧ value.subject.length ≤ kMaxReferenceLength

@[mk_iff]
structure Unabridged (value : PromotionDecision) : Prop where
  gates : ∀ gate ∈ value.gates,
    gate.label.length ≤ kMaxNameLength ∧ gate.detail.length ≤ kMaxTextLength
  findings : ∀ finding ∈ value.findings,
    finding.customType.length ≤ kMaxNameLength ∧ finding.detail.length ≤ kMaxTextLength
  reasons : ∀ reason ∈ value.reasons, ReasonUnabridged reason

theorem gate_restored_eq_iff (value : GateExplanation) : value.restored = value ↔
    value.label.length ≤ kMaxNameLength ∧ value.detail.length ≤ kMaxTextLength := by
  cases value
  simp [GateExplanation.restored, List.take_eq_self_iff]

theorem finding_restored_eq_iff (value : EvidenceFinding) : value.restored = value ↔
    value.customType.length ≤ kMaxNameLength ∧ value.detail.length ≤ kMaxTextLength := by
  cases value
  simp [EvidenceFinding.restored, List.take_eq_self_iff]

theorem ofCString_eq_iff (value : StaticString) :
    StaticString.ofCString value.view = value ↔ 0 ∉ value.view := by
  constructor
  · intro same inside
    have bytes : (StaticString.ofCString value.view).bytes = value.bytes :=
      congrArg StaticString.bytes same
    have clean : 0 ∉ (StaticString.ofCString value.view).bytes := by
      intro found
      have kept := List.mem_of_mem_take (show 0 ∈ (value.view.takeWhile (· != 0)).take _ from found)
      have nonzero := List.mem_takeWhile_imp kept
      simp at nonzero
    rw [bytes] at clean
    exact clean inside
  · intro clean
    have whole : value.view.takeWhile (· != 0) = value.view := by
      rw [List.takeWhile_eq_self_iff]
      intro byte inside
      have apart : byte ≠ 0 := fun zero => clean (zero ▸ inside)
      simpa using apart
    rw [StaticString.ofCString, whole]
    exact StaticString.ofView_bytes value

theorem reason_restored_eq_iff (value : Reason) :
    value.restored = value ↔ ReasonUnabridged value := by
  cases value
  simp [Reason.restored, ReasonUnabridged, ofCString_eq_iff, List.take_eq_self_iff]

theorem restored_eq_iff (value : PromotionDecision) : value.restored = value ↔ value.Unabridged := by
  cases value
  simp [restored, unabridged_iff, map_eq_self_iff, gate_restored_eq_iff, finding_restored_eq_iff,
    reason_restored_eq_iff]

instance (value : Reason) : Decidable (ReasonUnabridged value) :=
  inferInstanceAs (Decidable (_ ∧ _))

instance (value : PromotionDecision) : Decidable value.Unabridged :=
  decidable_of_iff _ (unabridged_iff value).symm

end PromotionDecision

theorem PromotionRecord.restored_eq_iff (value : PromotionRecord) :
    value.restored = value ↔ value.note.length ≤ kMaxTextLength := by
  cases value
  simp [PromotionRecord.restored, List.take_eq_self_iff]

theorem HistoryEvent.restored_eq_iff (value : HistoryEvent) :
    value.restored = value ↔ value.note.length ≤ kMaxTextLength := by
  cases value
  simp [HistoryEvent.restored, List.take_eq_self_iff]

namespace VetoState

def Unabridged (value : VetoState) : Prop :=
  value.securityReason.length ≤ kMaxTextLength ∧ value.dependencyReason.length ≤ kMaxTextLength

theorem restored_eq_iff (value : VetoState) : value.restored = value ↔ value.Unabridged := by
  cases value
  simp [restored, Unabridged, List.take_eq_self_iff]

instance (value : VetoState) : Decidable value.Unabridged :=
  inferInstanceAs (Decidable (_ ∧ _))

end VetoState

namespace PromotionPolicy

def GateUnabridged (gate : Gate) : Prop :=
  gate.customEvidenceType.length ≤ kMaxNameLength ∧
    gate.requiredEnvironment.length ≤ kMaxTextLength ∧ gate.label.length ≤ kMaxNameLength

/-- A rule without a scope carries no kind either. -/
def RuleUnabridged (rule : PolicyRule) : Prop :=
  (rule.hasKindScope = false → rule.kindScope = .invalid) ∧
    ∀ gate ∈ rule.requirements, GateUnabridged gate

/-- The graph is written edge by edge and read back in canonical order. -/
@[mk_iff]
structure Unabridged (policy : PromotionPolicy) : Prop where
  name : policy.name.length ≤ kMaxNameLength
  description : policy.description.length ≤ kMaxTextLength
  graph : policy.graph.canonicalize = policy.graph
  rules : ∀ rule ∈ policy.rules, RuleUnabridged rule

theorem gate_restored_eq_iff (gate : Gate) : gate.restored = gate ↔ GateUnabridged gate := by
  cases gate
  simp [Gate.restored, GateUnabridged, List.take_eq_self_iff]

theorem rule_restored_eq_iff (rule : PolicyRule) : rule.restored = rule ↔ RuleUnabridged rule := by
  obtain ⟨limited, kind⟩ := rule
  have scope : (if limited then kind else .invalid) = kind ↔
      (limited = false → kind = .invalid) := by
    cases limited <;> simp [eq_comm]
  simp [PolicyRule.restored, RuleUnabridged, map_eq_self_iff, gate_restored_eq_iff, scope]

theorem restored_eq_iff (policy : PromotionPolicy) :
    policy.restored = policy ↔ policy.Unabridged := by
  cases policy
  simp [restored, unabridged_iff, map_eq_self_iff, rule_restored_eq_iff, List.take_eq_self_iff]

instance (gate : Gate) : Decidable (GateUnabridged gate) :=
  inferInstanceAs (Decidable (_ ∧ _))

instance (rule : PolicyRule) : Decidable (RuleUnabridged rule) :=
  inferInstanceAs (Decidable (_ ∧ _))

instance (policy : PromotionPolicy) : Decidable policy.Unabridged :=
  decidable_of_iff _ (unabridged_iff policy).symm

end PromotionPolicy

end ArtifactPromotion
