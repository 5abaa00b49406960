import ArtifactPromotion.Persist.Reading
import ArtifactPromotion.Domain.CanonicalGraphs

/-! What a stored record comes back as. `restored` is the value the reader makes of the written
bytes: texts are cut at their limits and everything else returns as it was. `Readable` is when the
reader accepts them. -/

namespace ArtifactPromotion

open Decoding

namespace ProvenanceRecord

def restored (value : ProvenanceRecord) : ProvenanceRecord :=
  { value with
    source := value.source.take kMaxReferenceLength
    subject := value.subject.take kMaxReferenceLength }

def Readable (value : ProvenanceRecord) : Prop := value.resolution.toByte.toNat ≤ 3

end ProvenanceRecord

def QuarantineRecord.restored (value : QuarantineRecord) : QuarantineRecord :=
  { value with
    reasonClass := value.reasonClass.take kMaxNameLength
    detail := value.detail.take kMaxTextLength }

def RevocationRecord.restored (value : RevocationRecord) : RevocationRecord :=
  { value with
    reasonClass := value.reasonClass.take kMaxNameLength
    detail := value.detail.take kMaxTextLength }

def SupersessionRecord.restored (value : SupersessionRecord) : SupersessionRecord :=
  { value with reason := value.reason.take kMaxTextLength }

namespace ArtifactRecord

def restored (value : ArtifactRecord) : ArtifactRecord :=
  { value with
    name := value.name.take kMaxNameLength
    provenance := value.provenance.map ProvenanceRecord.restored
    dependencies := value.dependencies.map (List.take kMaxNameLength)
    quarantine := value.quarantine.restored
    revocation := value.revocation.restored
    supersession := value.supersession.restored }

theorem restored_valid (value : ArtifactRecord) : value.restored.valid = value.valid := by
  simp [restored, valid, QuarantineRecord.restored, QuarantineRecord.valid,
    RevocationRecord.restored, RevocationRecord.valid, SupersessionRecord.restored,
    SupersessionRecord.valid]

@[mk_iff]
structure Readable (value : ArtifactRecord) : Prop where
  kind : isValidArtifactKind value.kind.toByte.toNat = true
  stage : isValidStageValue value.stage.toByte.toNat = true
  provenance : ∀ record ∈ value.provenance, record.Readable
  valid : value.valid = true

end ArtifactRecord

namespace EvidenceRecord

def restored (value : EvidenceRecord) : EvidenceRecord :=
  { value with
    customType := value.customType.take kMaxNameLength
    measurement := value.measurement.take kMaxTextLength
    detail := value.detail.take kMaxTextLength
    environment := value.environment.take kMaxTextLength
    revocationReason := value.revocationReason.take kMaxTextLength }

theorem restored_valid (value : EvidenceRecord) : value.restored.valid = value.valid := by
  have emptiness : (value.customType.take kMaxNameLength).isEmpty = value.customType.isEmpty := by
    cases value.customType <;> rfl
  simp only [restored, valid, emptiness]
  rfl

theorem restored_integrity (value : EvidenceRecord) :
    computeEvidenceIntegrity value.restored = computeEvidenceIntegrity value := by
  have same : integrityPreimage value.restored = integrityPreimage value := by
    unfold integrityPreimage restored
    dsimp only
    rw [Writer.text_take, Writer.text_take, Writer.text_take, Writer.text_take]
  rw [computeEvidenceIntegrity, same, computeEvidenceIntegrity]

@[mk_iff]
structure Readable (value : EvidenceRecord) : Prop where
  valid : value.valid = true
  integrity : computeEvidenceIntegrity value = value.integrityDigest

end EvidenceRecord

namespace PromotionPlan

/-- Only the low half of the entry count is written. -/
def restored (value : PromotionPlan) : PromotionPlan :=
  { value with evidenceEntryCount := value.evidenceEntryCount.toUInt32.toUInt64 }

@[mk_iff]
structure Readable (value : PromotionPlan) : Prop where
  kind : isValidArtifactKind value.artifactKind.toByte.toNat = true
  source : isValidStageValue value.source.toByte.toNat = true
  target : isValidStageValue value.target.toByte.toNat = true
  valid : value.valid = true

end PromotionPlan

def GateExplanation.restored (value : GateExplanation) : GateExplanation :=
  { value with
    label := value.label.take kMaxNameLength, detail := value.detail.take kMaxTextLength }

def EvidenceFinding.restored (value : EvidenceFinding) : EvidenceFinding :=
  { value with
    customType := value.customType.take kMaxNameLength
    detail := value.detail.take kMaxTextLength }

def EvidenceFinding.Readable (value : EvidenceFinding) : Prop :=
  isValidEvidenceType value.type.toByte.toNat = true ∧
    isValidEvidenceResult value.result.toByte.toNat = true

def Reason.restored (value : Reason) : Reason :=
  { value with
    text := .ofCString value.text.view, subject := value.subject.take kMaxReferenceLength }

namespace PromotionDecision

def restored (value : PromotionDecision) : PromotionDecision :=
  { value with
    gates := value.gates.map GateExplanation.restored
    findings := value.findings.map EvidenceFinding.restored
    reasons := value.reasons.map Reason.restored }

@[mk_iff]
structure Readable (value : PromotionDecision) : Prop where
  kind : isValidArtifactKind value.artifactKind.toByte.toNat = true
  source : isValidStageValue value.source.toByte.toNat = true
  target : isValidStageValue value.target.toByte.toNat = true
  outcome : isValidPromotionOutcome value.outcome.toByte.toNat = true
  gatesFit : value.gates.length ≤ Codec.kMaxDecisionGates
  gates : ∀ gate ∈ value.gates, isValidGateKind gate.kind.toByte.toNat = true
  findingsFit : value.findings.length ≤ Codec.kMaxDecisionFindings
  findings : ∀ finding ∈ value.findings, finding.Readable
  reasonsFit : value.reasons.length ≤ Codec.kMaxDecisionReasons

end PromotionDecision

def PromotionRecord.restored (value : PromotionRecord) : PromotionRecord :=
  { value with note := value.note.take kMaxTextLength }

@[mk_iff]
structure PromotionRecord.Readable (value : PromotionRecord) : Prop where
  source : isValidStageValue value.source.toByte.toNat = true
  target : isValidStageValue value.target.toByte.toNat = true

def IdempotencyRecord.Readable (value : IdempotencyRecord) : Prop :=
  isValidPromotionOutcome value.outcome.toByte.toNat = true

def HistoryEvent.restored (value : HistoryEvent) : HistoryEvent :=
  { value with note := value.note.take kMaxTextLength }

@[mk_iff]
structure HistoryEvent.Readable (value : HistoryEvent) : Prop where
  source : value.source = .invalid ∨ isValidStageValue value.source.toByte.toNat = true
  target : value.target = .invalid ∨ isValidStageValue value.target.toByte.toNat = true

def VetoState.restored (value : VetoState) : VetoState :=
  { value with
    securityReason := value.securityReason.take kMaxTextLength
    dependencyReason := value.dependencyReason.take kMaxTextLength }

namespace LifecycleGraph

/-- The edges the reader accepts: known stages, no self edge, no repetition. -/
@[mk_iff]
structure Readable (graph : LifecycleGraph) : Prop where
  fits : graph.edges.length ≤ Codec.kMaxGraphEdges
  stages : ∀ edge ∈ graph.edges, isValidStageValue edge.source.toByte.toNat = true ∧
    isValidStageValue edge.target.toByte.toNat = true
  proper : ∀ edge ∈ graph.edges, edge.source ≠ edge.target
  distinct : graph.edges.Nodup

/-- The graph takes these edges one after the other. -/
def Takes : LifecycleGraph → List Edge → Prop
  | _, [] => True
  | graph, edge :: rest =>
      isValidStageValue edge.source.toByte.toNat = true ∧
        isValidStageValue edge.target.toByte.toNat = true ∧
        (graph.addEdge edge.source edge.target).1 = true ∧ Takes ⟨graph.edges ++ [edge]⟩ rest

theorem takes_iff (edges : List Edge) (graph : LifecycleGraph) :
    graph.Takes edges ↔
      (∀ edge ∈ edges, isValidStageValue edge.source.toByte.toNat = true ∧
        isValidStageValue edge.target.toByte.toNat = true) ∧
      (∀ edge ∈ edges, edge.source ≠ edge.target) ∧ edges.Nodup ∧
      (∀ edge ∈ edges, edge ∉ graph.edges) ∧
      (edges ≠ [] → graph.edges.length + edges.length ≤ kMaxEdges) := by
  have unknown (stage : Stage) (known : isValidStageValue stage.toByte.toNat = true) :
      stage ≠ .invalid := by
    rintro rfl
    exact absurd known (by decide)
  induction edges generalizing graph with
  | nil => simp [Takes]
  | cons edge rest ih =>
      simp only [Takes, addEdge_iff, ih, List.mem_cons, forall_eq_or_imp, List.nodup_cons, List.mem_append,
        List.not_mem_nil, or_false, not_or, List.length_append, List.length_cons, List.length_nil]
      constructor
      · rintro ⟨source, target, ⟨_, proper, fresh, room⟩, stages, propers, distinct, freshes, fits⟩
        refine ⟨⟨⟨source, target⟩, stages⟩, ⟨proper, propers⟩, ⟨fun inside => ?_, distinct⟩,
          ⟨fresh, fun other inside => (freshes other inside).1⟩, fun _ => ?_⟩
        · exact (freshes edge inside).2 rfl
        · cases rest with
          | nil => exact room
          | cons _ _ =>
              have := fits (by simp)
              simp only [List.length_cons] at this ⊢
              omega
      · rintro ⟨⟨⟨source, target⟩, stages⟩, ⟨proper, propers⟩, ⟨fresh, distinct⟩,
          ⟨unseen, freshes⟩, fits⟩
        have fits := fits (by simp)
        refine ⟨source, target, ⟨⟨unknown _ source, unknown _ target⟩, proper, unseen, by omega⟩,
          stages, propers, distinct, fun other inside => ⟨freshes other inside, ?_⟩,
          fun _ => by omega⟩
        rintro rfl
        exact fresh inside

end LifecycleGraph

namespace Gate

def restored (gate : Gate) : Gate :=
  { gate with
    customEvidenceType := gate.customEvidenceType.take kMaxNameLength
    requiredEnvironment := gate.requiredEnvironment.take kMaxTextLength
    label := gate.label.take kMaxNameLength }

@[mk_iff]
structure Readable (gate : Gate) : Prop where
  kind : isValidGateKind gate.kind.toByte.toNat = true
  evidenceType : gate.evidenceType = .invalid ∨
    isValidEvidenceType gate.evidenceType.toByte.toNat = true
  valid : gate.restored.validate = .ok ()

end Gate

namespace PolicyRule

/-- An unscoped rule loses whatever kind it carried. -/
def restored (rule : PolicyRule) : PolicyRule :=
  { rule with
    kindScope := if rule.hasKindScope then rule.kindScope else .invalid
    requirements := rule.requirements.map Gate.restored }

@[mk_iff]
structure Readable (rule : PolicyRule) : Prop where
  scope : rule.hasKindScope = true → isValidArtifactKind rule.kindScope.toByte.toNat = true
  source : isValidStageValue rule.source.toByte.toNat = true
  target : isValidStageValue rule.target.toByte.toNat = true
  ordering : isValidOrderingRule rule.ordering.toByte.toNat = true
  requirementsFit : rule.requirements.length ≤ Codec.kMaxRuleGates
  requirements : ∀ gate ∈ rule.requirements, gate.Readable
  preferencesFit : rule.preferences.length ≤ Codec.kMaxRulePreferences
  preferences : ∀ kind ∈ rule.preferences, isValidGateKind kind.toByte.toNat = true

end PolicyRule

namespace PromotionPolicy

def restored (policy : PromotionPolicy) : PromotionPolicy :=
  { policy with
    name := policy.name.take kMaxNameLength
    description := policy.description.take kMaxTextLength
    graph := policy.graph.canonicalize
    rules := policy.rules.map PolicyRule.restored }

@[mk_iff]
structure Readable (policy : PromotionPolicy) : Prop where
  entryStage : isValidStageValue policy.entryStage.toByte.toNat = true
  graph : policy.graph.Readable
  rulesFit : policy.rules.length ≤ Codec.kMaxPolicyRules
  rules : ∀ rule ∈ policy.rules, rule.Readable

end PromotionPolicy

namespace Codec

open Reader

-- The proofs compose the primitive steps; unfolding them into bytes only makes unification slow.
attribute [local irreducible] Writer.u8 Writer.u16 Writer.u32 Writer.u64 Writer.boolean Writer.text
  Writer.identity Writer.counter Writer.digest Writer.list Reader.u8 Reader.u16 Reader.u32
  Reader.u64 Reader.boolean Reader.text Reader.identity Reader.counter Reader.digest

theorem readStage_reads (value : Stage) :
    Reads view kLengthBound readStage (Writer.u8 value.toByte) (isValidStageValue value.toByte.toNat = true)
      value :=
  readEnum_reads value.ofByte_toByte

theorem readKind_reads (value : ArtifactKind) :
    Reads view kLengthBound readKind (Writer.u8 value.toByte) (isValidArtifactKind value.toByte.toNat = true)
      value :=
  readEnum_reads value.ofByte_toByte

theorem readProducer_reads (value : ProducerIncarnation) :
    Reads view kLengthBound readProducer (writeProducer value) (value.valid = true) value := by
  have whole : Reads view kLengthBound readProducer (writeProducer value) (¬(!value.valid) = true ∧ True) value :=
    .step (identity_yields _) (.last_step (identity_yields _)
      (.reject (fail_error _ _) fun _ => .pure _))
  exact whole.congr (by simp)

theorem readProvenance_reads (value : ProvenanceRecord) :
    Reads view kLengthBound (readProvenance kMaxReferenceLength) (writeProvenance value kMaxReferenceLength)
      value.Readable value.restored := by
  unfold readProvenance writeProvenance
  simp only [List.append_assoc]
  have resolution : Reads view kLengthBound readProvenanceResolution (Writer.u8 value.resolution.toByte)
      (decide (value.resolution.toByte.toNat ≤ 3) = true) value.resolution :=
    readEnum_reads value.resolution.ofByte_toByte
  refine Reads.congr (.step (identity_yields _) (.step (text_yields _ (by decide))
    (.step (text_yields _ (by decide)) (.last resolution fun _ => .pure _)))) ?_
  simp [ProvenanceRecord.Readable]

theorem readQuarantine_yields (value : QuarantineRecord) :
    Yields view readQuarantine (writeQuarantine value) value.restored := by
  unfold readQuarantine writeQuarantine
  simp only [List.append_assoc]
  exact yields_bind (boolean_yields _) (yields_bind (text_yields _ (by decide))
    (yields_bind (text_yields _ (by decide)) (yields_bind (identity_yields _)
    (yields_bind (counter_yields _) (yields_last (counter_yields _) (yields_pure _))))))

theorem readRevocation_yields (value : RevocationRecord) :
    Yields view readRevocation (writeRevocation value) value.restored := by
  unfold readRevocation writeRevocation
  simp only [List.append_assoc]
  exact yields_bind (boolean_yields _) (yields_bind (identity_yields _)
    (yields_bind (text_yields _ (by decide)) (yields_bind (text_yields _ (by decide))
    (yields_bind (identity_yields _) (yields_bind (counter_yields _)
    (yields_bind (counter_yields _) (yields_last (identity_yields _) (yields_pure _))))))))

theorem readSupersession_yields (value : SupersessionRecord) :
    Yields view readSupersession (writeSupersession value) value.restored := by
  unfold readSupersession writeSupersession
  simp only [List.append_assoc]
  exact yields_bind (boolean_yields _) (yields_bind (identity_yields _)
    (yields_bind (identity_yields _) (yields_bind (text_yields _ (by decide))
    (yields_bind (identity_yields _) (yields_last (counter_yields _) (yields_pure _))))))

attribute [local irreducible] writeProducer readProducer writeProvenance readProvenance
  writeQuarantine readQuarantine writeRevocation readRevocation writeSupersession readSupersession
  readStage readKind readList

theorem writeArtifact_ne_nil (value : ArtifactRecord) : writeArtifact value ≠ [] := by
  unfold writeArtifact writeSupersession
  apply List.append_ne_nil_of_right_ne_nil
  apply List.append_ne_nil_of_right_ne_nil
  unfold Writer.counter Writer.u64
  exact List.ne_nil_of_length_pos (by rw [storeU64_length]; decide)

theorem readArtifact_reads (value : ArtifactRecord) :
    Reads view kLengthBound readArtifact (writeArtifact value) value.Readable value.restored := by
  have provenance : Reads view kLengthBound
      (readList kMaxProvenance (readProvenance kMaxReferenceLength))
      (Writer.list value.provenance _) _ _ :=
    readList_reads
      (fun record => by simp [writeProvenance, Writer.u8]) readProvenance_reads
  have dependencies : Reads view kLengthBound
      (readList kMaxDependencies (Reader.text kMaxNameLength))
      (Writer.list value.dependencies _) _ _ :=
    readList_reads
      (fun name => by simp [Writer.text, Writer.u32, storeU32])
      fun name => .of_yields (text_yields name (by decide))
  unfold readArtifact writeArtifact
  simp only [List.append_assoc]
  apply Reads.congr
  · exact .step (identity_yields _) (.step (identity_yields _) (.step (counter_yields _)
      (.bind (readKind_reads _) fun _ => .step (digest_yields _) (.step (u64_yields _)
      (.step (text_yields _ (by decide)) (.bind (readProducer_reads _) fun _ =>
      .step (counter_yields _) (.step (u64_yields _) (.bind provenance fun _ =>
      .bind dependencies fun _ => .bind (readStage_reads _) fun _ => .step (counter_yields _)
      (.step (boolean_yields _) (.step (identity_yields _) (.step (identity_yields _)
      (.step (counter_yields _) (.step (counter_yields _) (.step (readQuarantine_yields _)
      (.step (readRevocation_yields _) (.last_step (readSupersession_yields _)
      (.reject (fail_error _ _) fun _ => .pure _)))))))))))))))))
  · constructor
    · rintro ⟨kind, _, ⟨_, provenance⟩, _, stage, valid, _⟩
      have valid : ¬(!value.restored.valid) = true := valid
      have valid : value.restored.valid = true := by simpa using valid
      exact ⟨kind, stage, provenance, by rwa [ArtifactRecord.restored_valid] at valid⟩
    · intro readable
      have valid := readable.valid
      have restored : value.restored.valid = true := by rwa [ArtifactRecord.restored_valid]
      simp only [ArtifactRecord.valid, Bool.and_eq_true, decide_eq_true_eq] at valid
      refine ⟨readable.kind, valid.1.1.1.1.1.2, ⟨valid.1.2, readable.provenance⟩,
        ⟨valid.2, fun _ _ => trivial⟩, readable.stage, ?_, trivial⟩
      change ¬(!value.restored.valid) = true
      simp [restored]

theorem readEvidenceType_reads (value : EvidenceType) :
    Reads view kLengthBound readEvidenceType (Writer.u8 value.toByte)
      (isValidEvidenceType value.toByte.toNat = true) value :=
  readEnum_reads value.ofByte_toByte

theorem readEvidenceResult_reads (value : EvidenceResult) :
    Reads view kLengthBound readEvidenceResult (Writer.u8 value.toByte)
      (isValidEvidenceResult value.toByte.toNat = true) value :=
  readEnum_reads value.ofByte_toByte

attribute [local irreducible] readEvidenceType readEvidenceResult

theorem readEvidence_reads (value : EvidenceRecord) :
    Reads view kLengthBound readEvidence (writeEvidence value) value.Readable value.restored := by
  unfold readEvidence writeEvidence
  simp only [List.append_assoc]
  apply Reads.congr
  · exact .step (identity_yields _) (.bind (readEvidenceType_reads _) fun _ =>
      .step (text_yields _ (by decide)) (.step (counter_yields _) (.step (identity_yields _)
      (.step (digest_yields _) (.step (identity_yields _) (.bind (readProducer_reads _) fun _ =>
      .bind (readEvidenceResult_reads _) fun _ => .step (u32_yields _)
      (.step (text_yields _ (by decide)) (.step (text_yields _ (by decide))
      (.step (digest_yields _) (.step (digest_yields _) (.step (identity_yields _)
      (.step (counter_yields _) (.step (u64_yields _) (.step (boolean_yields _)
      (.step (u64_yields _) (.step (u64_yields _) (.step (text_yields _ (by decide))
      (.step (boolean_yields _) (.step (text_yields _ (by decide)) (.step (identity_yields _)
      (.step (counter_yields _) (.step (boolean_yields _) (.last_step (identity_yields _)
      (.reject (fail_error _ _) fun _ => .reject (fail_error _ _) fun _ =>
        .pure _))))))))))))))))))))))))
  · constructor
    · rintro ⟨_, _, _, valid, integrity, _⟩
      have valid : ¬(!value.restored.valid) = true := valid
      have integrity : ¬computeEvidenceIntegrity value.restored ≠ value.integrityDigest := integrity
      rw [EvidenceRecord.restored_valid] at valid
      rw [EvidenceRecord.restored_integrity, not_not] at integrity
      exact ⟨by simpa using valid, integrity⟩
    · intro readable
      have valid := readable.valid
      have restored : ¬(!value.restored.valid) = true := by
        rw [EvidenceRecord.restored_valid, valid]
        decide
      have integrity : ¬computeEvidenceIntegrity value.restored ≠ value.integrityDigest := by
        rw [EvidenceRecord.restored_integrity, not_not]
        exact readable.integrity
      simp only [EvidenceRecord.valid, Bool.and_eq_true] at valid
      exact ⟨valid.1.1.1.1.1.1.1.1.1.1.1.1.1.2, valid.1.1.1.1.1.1.1.2, valid.1.1.1.1.1.1.2, restored,
        integrity, trivial⟩

theorem readAuthority_yields (value : CoordinatorAuthority) :
    Yields view readAuthority (writeAuthority value) value :=
  yields_bind (identity_yields _) (yields_last (counter_yields _) (yields_pure _))

attribute [local irreducible] writeAuthority readAuthority

theorem readPlan_reads (value : PromotionPlan) :
    Reads view kLengthBound readPlan (writePlan value) value.Readable value.restored := by
  unfold readPlan writePlan
  simp only [List.append_assoc]
  apply Reads.congr
  · exact .step (identity_yields _) (.step (identity_yields _) (.step (identity_yields _)
      (.step (identity_yields _) (.step (identity_yields _) (.step (identity_yields _)
      (.step (counter_yields _) (.step (digest_yields _) (.bind (readKind_reads _) fun _ =>
      .bind (readStage_reads _) fun _ => .bind (readStage_reads _) fun _ =>
      .step (counter_yields _) (.step (identity_yields _) (.step (counter_yields _)
      (.step (digest_yields _) (.step (digest_yields _) (.step (readAuthority_yields _)
      (.step (digest_yields _) (.step (u32_yields _) (.step (identity_yields _)
      (.step (counter_yields _) (.step (counter_yields _) (.step (counter_yields _)
      (.step (counter_yields _) (.step (boolean_yields _) (.last_step (u64_yields _)
      (.reject (fail_error _ _) fun _ => .pure _)))))))))))))))))))))))
  · constructor
    · rintro ⟨kind, source, target, valid, _⟩
      have valid : ¬(!value.valid) = true := valid
      exact ⟨kind, source, target, by simpa using valid⟩
    · intro readable
      have valid : ¬(!value.valid) = true := by simp [readable.valid]
      exact ⟨readable.kind, readable.source, readable.target, valid, trivial⟩

theorem readErrorCode_yields (code : ErrorCode) :
    Yields view readErrorCode (writeErrorCode code) code := by
  unfold readErrorCode writeErrorCode
  refine yields_last (u16_yields _) ?_
  cases code <;> exact yields_pure _

theorem readGateKind_reads (value : GateKind) :
    Reads view kLengthBound readGateKind (Writer.u8 value.toByte)
      (isValidGateKind value.toByte.toNat = true) value :=
  readEnum_reads value.ofByte_toByte

theorem readGateStatus_yields (value : GateStatus) :
    Yields view readGateStatus (Writer.u8 value.toByte) value := by
  unfold readGateStatus readEnum
  refine yields_last (u8_yields _) ?_
  cases value <;> exact yields_pure _

attribute [local irreducible] writeErrorCode readErrorCode readGateKind readGateStatus

theorem readGateExplanation_reads (value : GateExplanation) :
    Reads view kLengthBound readGateExplanation (writeGateExplanation value)
      (isValidGateKind value.kind.toByte.toNat = true) value.restored := by
  unfold readGateExplanation writeGateExplanation
  simp only [List.append_assoc]
  apply Reads.congr
  · exact .bind (readGateKind_reads _) fun _ => .step (text_yields _ (by decide))
      (.step (readGateStatus_yields _) (.step (readErrorCode_yields _)
      (.last_step (text_yields _ (by decide)) (.pure _))))
  · simp

theorem readFinding_reads (value : EvidenceFinding) :
    Reads view kLengthBound readFinding (writeFinding value) value.Readable value.restored := by
  unfold readFinding writeFinding
  simp only [List.append_assoc]
  apply Reads.congr
  · exact .step (identity_yields _) (.bind (readEvidenceType_reads _) fun _ =>
      .step (text_yields _ (by decide)) (.step (counter_yields _)
      (.bind (readEvidenceResult_reads _) fun _ => .step (digest_yields _)
      (.step (identity_yields _) (.step (readErrorCode_yields _)
      (.last_step (text_yields _ (by decide)) (.pure _)))))))
  · simp [EvidenceFinding.Readable]

theorem readReason_yields (value : Reason) :
    Yields view readReason (writeReason value) value.restored := by
  have bounded := value.text.bounded
  unfold readReason writeReason
  simp only [List.append_assoc]
  refine yields_bind (readErrorCode_yields _) (yields_bind (text_yields_whole ?_ ?_ ?_)
    (yields_last (text_yields _ (by decide)) (yields_pure _)))
  · exact Nat.le_trans bounded (by decide)
  · exact bounded
  · exact Nat.lt_of_le_of_lt bounded (by decide)

theorem readOutcome_reads (value : PromotionOutcome) :
    Reads view kLengthBound readOutcome (Writer.u8 value.toByte)
      (isValidPromotionOutcome value.toByte.toNat = true) value :=
  readEnum_reads value.ofByte_toByte

attribute [local irreducible] writeGateExplanation readGateExplanation writeFinding readFinding
  writeReason readReason readOutcome

theorem readDecision_reads (value : PromotionDecision) :
    Reads view kLengthBound readDecision (writeDecision value) value.Readable value.restored := by
  have gates : Reads view kLengthBound (readList kMaxDecisionGates readGateExplanation)
      (Writer.list value.gates writeGateExplanation) _ _ :=
    readList_reads (fun gate => by simp [writeGateExplanation, Writer.u8]) readGateExplanation_reads
  have findings : Reads view kLengthBound (readList kMaxDecisionFindings readFinding)
      (Writer.list value.findings writeFinding) _ _ :=
    readList_reads (fun finding => by simp [writeFinding, Writer.u8]) readFinding_reads
  have reasons : Reads view kLengthBound (readList kMaxDecisionReasons readReason)
      (Writer.list value.reasons writeReason) _ _ :=
    readList_reads (fun reason => by simp [writeReason, Writer.text, Writer.u32, storeU32])
      fun reason => .of_yields (readReason_yields reason)
  have decided : (if value.decidedUnixMillis.isSome then some (value.decidedUnixMillis.getD 0)
      else none) = value.decidedUnixMillis := by
    cases value.decidedUnixMillis <;> rfl
  unfold readDecision writeDecision
  simp only [List.append_assoc]
  apply Reads.congr
  · exact .step (identity_yields _) (.step (identity_yields _) (.step (identity_yields _)
      (.step (identity_yields _) (.step (identity_yields _) (.step (counter_yields _)
      (.step (digest_yields _) (.bind (readKind_reads _) fun _ =>
      .bind (readStage_reads _) fun _ => .bind (readStage_reads _) fun _ =>
      .bind (readOutcome_reads _) fun _ => .step (identity_yields _) (.step (counter_yields _)
      (.step (digest_yields _) (.step (readAuthority_yields _) (.step (counter_yields _)
      (.step (digest_yields _) (.step (identity_yields _) (.step (boolean_yields _)
      (.step (boolean_yields _) (.step (u64_yields _) (.bind gates fun _ =>
      .bind findings fun _ => .last reasons fun _ =>
      (show Reads view kLengthBound _ [] True value.restored by rw [decided]; exact .pure _))))))))))))))))))
  · constructor
    · rintro ⟨kind, source, target, outcome, ⟨gatesFit, gates⟩, ⟨findingsFit, findings⟩,
        ⟨reasonsFit, _⟩, _⟩
      exact ⟨kind, source, target, outcome, gatesFit, gates, findingsFit, findings, reasonsFit⟩
    · intro readable
      exact ⟨readable.kind, readable.source, readable.target, readable.outcome,
        ⟨readable.gatesFit, readable.gates⟩, ⟨readable.findingsFit, readable.findings⟩,
        ⟨readable.reasonsFit, fun _ _ => trivial⟩, trivial⟩

theorem readPromotionRecord_reads (value : PromotionRecord) :
    Reads view kLengthBound readPromotionRecord (writePromotionRecord value) value.Readable
      value.restored := by
  unfold readPromotionRecord writePromotionRecord
  simp only [List.append_assoc]
  apply Reads.congr
  · exact .step (identity_yields _) (.step (identity_yields _) (.step (identity_yields _)
      (.step (digest_yields _) (.bind (readStage_reads _) fun _ =>
      .bind (readStage_reads _) fun _ => .step (identity_yields _) (.step (identity_yields _)
      (.step (identity_yields _) (.step (identity_yields _) (.step (identity_yields _)
      (.step (counter_yields _) (.step (readAuthority_yields _) (.step (digest_yields _)
      (.step (counter_yields _) (.step (u64_yields _) (.last_step (text_yields _ (by decide))
      (.pure _)))))))))))))))
  · exact ⟨fun ⟨source, target, _⟩ => ⟨source, target⟩, fun readable =>
      ⟨readable.source, readable.target, trivial⟩⟩

theorem readIdempotency_reads (value : IdempotencyRecord) :
    Reads view kLengthBound readIdempotency (writeIdempotency value) value.Readable value := by
  unfold readIdempotency writeIdempotency
  simp only [List.append_assoc]
  apply Reads.congr
  · exact .step (identity_yields _) (.step (identity_yields _) (.step (identity_yields _)
      (.bind (readOutcome_reads _) fun _ => .step (identity_yields _) (.step (digest_yields _)
      (.last_step (counter_yields _) (.pure _))))))
  · simp [IdempotencyRecord.Readable]

theorem readHistoryKind_yields (value : HistoryEventKind) :
    Yields view readHistoryKind (Writer.u8 value.toByte) value := by
  unfold readHistoryKind readEnum
  refine yields_last (u8_yields _) ?_
  cases value <;> exact yields_pure _

theorem readOptionalOutcome_yields (value : PromotionOutcome) :
    Yields view readOptionalOutcome (Writer.u8 value.toByte) value := by
  unfold readOptionalOutcome readEnum
  refine yields_last (u8_yields _) ?_
  cases value <;> exact yields_pure _

theorem readOptionalStage_reads (value : Stage) :
    Reads view kLengthBound readOptionalStage (Writer.u8 value.toByte)
      (value = .invalid ∨ isValidStageValue value.toByte.toNat = true) value := by
  refine (readEnum_reads value.ofByte_toByte).congr ?_
  cases value with
  | unnamed raw outside =>
      have nonzero : raw.toNat ≠ 0 := by
        have := UInt8.lt_iff_toNat_lt.mp outside
        have ten : (10 : UInt8).toNat = 10 := rfl
        omega
      simp [Stage.toByte, nonzero]
  | _ => decide

attribute [local irreducible] readHistoryKind readOptionalOutcome readOptionalStage

theorem readHistoryEvent_reads (value : HistoryEvent) :
    Reads view kLengthBound readHistoryEvent (writeHistoryEvent value) value.Readable
      value.restored := by
  unfold readHistoryEvent writeHistoryEvent
  simp only [List.append_assoc]
  apply Reads.congr
  · exact .step (counter_yields _) (.step (readHistoryKind_yields _) (.step (identity_yields _)
      (.step (identity_yields _) (.step (identity_yields _) (.step (identity_yields _)
      (.step (readOptionalOutcome_yields _) (.bind (readOptionalStage_reads _) fun _ =>
      .bind (readOptionalStage_reads _) fun _ => .step (readAuthority_yields _)
      (.last_step (text_yields _ (by decide)) (.pure _)))))))))
  · exact ⟨fun ⟨source, target, _⟩ => ⟨source, target⟩, fun readable =>
      ⟨readable.source, readable.target, trivial⟩⟩

theorem readVeto_yields (value : VetoState) :
    Yields view readVeto (writeVeto value) value.restored := by
  unfold readVeto writeVeto
  simp only [List.append_assoc]
  exact yields_bind (boolean_yields _) (yields_bind (text_yields _ (by decide))
    (yields_bind (boolean_yields _) (yields_last (text_yields _ (by decide)) (yields_pure _))))

theorem readGateEvidenceType_reads (value : EvidenceType) :
    Reads view kLengthBound readGateEvidenceType (Writer.u8 value.toByte)
      (value = .invalid ∨ isValidEvidenceType value.toByte.toNat = true) value := by
  refine (readEnum_reads value.ofByte_toByte).congr ?_
  cases value with
  | unnamed raw outside =>
      have nonzero : raw.toNat ≠ 0 := by
        have above := UInt8.lt_iff_toNat_lt.mp outside.1
        have bound : (18 : UInt8).toNat = 18 := rfl
        omega
      simp [EvidenceType.toByte, nonzero]
  | _ => decide

attribute [local irreducible] readGateEvidenceType

theorem readGate_reads (gate : Gate) :
    Reads view kLengthBound readGate (writeGate gate) gate.Readable gate.restored := by
  have read : Reads view kLengthBound readGate (writeGate gate)
      (isValidGateKind gate.kind.toByte.toNat = true ∧ (gate.evidenceType = .invalid ∨
        isValidEvidenceType gate.evidenceType.toByte.toNat = true) ∧
        gate.restored.validate = .ok ()) gate.restored := by
    unfold readGate writeGate
    simp only [List.append_assoc]
    refine .bind (readGateKind_reads _) fun _ => .bind (readGateEvidenceType_reads _) fun _ =>
      .step (text_yields _ (by decide)) (.step (u64_yields _) (.step (counter_yields _)
      (.step (text_yields _ (by decide)) (.step (identity_yields _)
      (.last_step (text_yields _ (by decide)) ?_)))))
    unfold Gate.restored
    generalize Gate.validate _ = validated
    cases validated with
    | error status => exact (Reads.failed _ (fail_error _ _)).congr (by simp)
    | ok done => exact (Reads.pure _).congr (by simp)
  apply read.congr
  constructor
  · rintro ⟨kind, evidenceType, valid⟩
    exact ⟨kind, evidenceType, valid⟩
  · intro readable
    exact ⟨readable.kind, readable.evidenceType, readable.valid⟩

theorem readScope_reads (rule : PolicyRule) :
    Reads view kLengthBound (readScope rule.hasKindScope) (Writer.u8 (scopeByte rule))
      (rule.hasKindScope = true → isValidArtifactKind rule.kindScope.toByte.toNat = true)
      rule.restored.kindScope := by
  refine .last_step (u8_yields _) ?_
  cases limited : rule.hasKindScope with
  | false =>
      have written : scopeByte rule = 0 := by simp [scopeByte, limited]
      have kept : rule.restored.kindScope = .invalid := by simp [PolicyRule.restored, limited]
      rw [written, kept]
      exact (Reads.pure _).congr (by simp)
  | true =>
      have written : scopeByte rule = rule.kindScope.toByte := by simp [scopeByte, limited]
      have kept : rule.restored.kindScope = .ofByte rule.kindScope.toByte := by
        simp [PolicyRule.restored, limited]
      rw [written, kept]
      generalize rule.kindScope.toByte = raw
      by_cases zero : raw = 0
      · subst zero
        exact (Reads.failed _ (fail_error _ _)).congr (by decide)
      by_cases known : isValidArtifactKind raw.toNat = true
      · rw [if_neg zero, if_neg (by simp [known]), if_neg (by simp)]
        exact (Reads.pure _).congr (by simp [known])
      · rw [if_neg zero, if_pos (by simp [known])]
        exact (Reads.failed _ (fail_error _ _)).congr (by simp [known])

theorem readOrderingRule_reads (value : OrderingRule) :
    Reads view kLengthBound readOrderingRule (Writer.u8 value.toByte)
      (isValidOrderingRule value.toByte.toNat = true) value :=
  readEnum_reads value.ofByte_toByte

attribute [local irreducible] readScope readOrderingRule readGate writeGate Reader.count
  Reader.elements

theorem readRule_reads (rule : PolicyRule) :
    Reads view kLengthBound readRule (writeRule rule) rule.Readable rule.restored := by
  have whole (requirementsSmall : rule.requirements.length < kLengthBound)
      (preferencesSmall : rule.preferences.length < kLengthBound) :
      Reads view kLengthBound readRule (writeRule rule) rule.Readable rule.restored := by
    have requirements : Reads view kLengthBound
        (Reader.elements readGate rule.requirements.length) _ _ _ :=
      elements_reads rule.requirements readGate_reads
    have preferences : Reads view kLengthBound
        (Reader.elements readGateKind rule.preferences.length)
        (rule.preferences.flatMap fun kind => Writer.u8 kind.toByte) _ (rule.preferences.map id) :=
      elements_reads rule.preferences readGateKind_reads
    rw [List.map_id] at preferences
    unfold readRule writeRule
    simp only [List.append_assoc]
    apply Reads.congr
    · exact .step (boolean_yields _) (.bind (readScope_reads _) fun _ =>
        .bind (readStage_reads _) fun _ => .bind (readStage_reads _) fun _ =>
        .bind (readOrderingRule_reads _) fun _ => .step (boolean_yields _)
        (.step (boolean_yields _) (.step (boolean_yields _)
        (.bind (count_reads requirementsSmall) fun _ =>
        .bind (count_reads preferencesSmall) fun _ => .bind requirements fun _ =>
        .last preferences fun _ => .pure _))))
    · constructor
      · rintro ⟨scope, source, target, ordering, requirementsFit, preferencesFit, requirements,
          preferences, _⟩
        exact ⟨scope, source, target, ordering, requirementsFit, requirements, preferencesFit,
          preferences⟩
      · intro readable
        exact ⟨readable.scope, readable.source, readable.target, readable.ordering,
          readable.requirementsFit, readable.preferencesFit, readable.requirements,
          readable.preferences, trivial⟩
  have requirementsCounted := length_le_flatMap rule.requirements
    (fun gate => show writeGate gate ≠ [] by simp [writeGate, Writer.u8])
  have preferencesCounted := length_le_flatMap rule.preferences
    (fun kind => show Writer.u8 (GateKind.toByte kind) ≠ [] by simp [Writer.u8])
  have fits (small : (writeRule rule).length < kLengthBound) :
      rule.requirements.length < kLengthBound ∧ rule.preferences.length < kLengthBound := by
    unfold writeRule at small
    rw [List.length_append, List.length_append] at small
    omega
  exact ⟨fun small => (whole (fits small).1 (fits small).2).yields small,
    fun small => (whole (fits small).1 (fits small).2).refuses small⟩

theorem readEdges_reads (edges : List Edge) (graph : LifecycleGraph) :
    Reads view kLengthBound (readEdges edges.length graph) (edges.flatMap writeEdge)
      (graph.Takes edges) ⟨graph.edges ++ edges⟩ := by
  induction edges generalizing graph with
  | nil =>
      rw [List.append_nil]
      exact (Reads.pure _).congr (by simp [LifecycleGraph.Takes])
  | cons edge rest ih =>
      have continued := ih ⟨graph.edges ++ [edge]⟩
      rw [List.append_assoc] at continued
      have tested : Reads view kLengthBound
          (if edge.source = .invalid || edge.target = .invalid then
            Reader.fail .invalidStage (text "encoded lifecycle graph contains the INVALID stage")
          else if !(graph.addEdge edge.source edge.target).1 then
            Reader.fail .invalidTransition
              (text "encoded lifecycle graph contains a duplicate or self-referential edge")
          else readEdges rest.length (graph.addEdge edge.source edge.target).2)
          (rest.flatMap writeEdge) _ ⟨graph.edges ++ edge :: rest⟩ :=
        .reject (fail_error _ _) fun known => .reject (fail_error _ _) fun added => by
          rw [LifecycleGraph.addEdge_taken (by simpa using added)]
          exact continued
      rw [List.flatMap_cons, writeEdge, List.append_assoc]
      refine Reads.congr (.bind (readStage_reads _) fun _ => .bind (readStage_reads _) fun _ =>
        tested) ?_
      simp only [LifecycleGraph.Takes, Bool.not_eq_true', Bool.not_eq_false, Bool.or_eq_true,
        decide_eq_true_eq, not_or]
      constructor
      · rintro ⟨source, target, _, added, taken⟩
        exact ⟨source, target, added, taken⟩
      · rintro ⟨source, target, added, taken⟩
        exact ⟨source, target, LifecycleGraph.addEdge_known added, added, taken⟩

attribute [local irreducible] readEdges

theorem readLifecycleGraph_reads (graph : LifecycleGraph) :
    Reads view kLengthBound readLifecycleGraph (writeLifecycleGraph graph) graph.Readable
      graph.canonicalize := by
  have whole (small : graph.edges.length < kLengthBound) : Reads view kLengthBound
      readLifecycleGraph (writeLifecycleGraph graph) graph.Readable graph.canonicalize := by
    unfold readLifecycleGraph writeLifecycleGraph Writer.list
    refine Reads.congr (.bind (count_reads small) fun _ =>
      .last (readEdges_reads graph.edges {}) fun _ => .pure _) ?_
    rw [LifecycleGraph.takes_iff]
    simp only [List.not_mem_nil, not_false_eq_true, implies_true, true_and, and_true,
      List.length_nil, Nat.zero_add]
    constructor
    · rintro ⟨fits, stages, proper, distinct, _⟩
      exact ⟨fits, stages, proper, distinct⟩
    · rintro ⟨fits, stages, proper, distinct⟩
      exact ⟨fits, stages, proper, distinct, fun _ => fits⟩
  have counted := length_le_flatMap graph.edges
    (fun edge => show writeEdge edge ≠ [] by simp [writeEdge, Writer.u8])
  have fits (small : (writeLifecycleGraph graph).length < kLengthBound) :
      graph.edges.length < kLengthBound := by
    rw [writeLifecycleGraph, Writer.list, List.length_append] at small
    omega
  exact ⟨fun small => (whole (fits small)).yields small,
    fun small => (whole (fits small)).refuses small⟩

attribute [local irreducible] readLifecycleGraph writeLifecycleGraph readRule writeRule

theorem readPolicy_reads (policy : PromotionPolicy) :
    Reads view kLengthBound readPolicy (writePolicy policy) policy.Readable policy.restored := by
  have rules : Reads view kLengthBound (readList kMaxPolicyRules readRule)
      (Writer.list policy.rules writeRule) _ _ :=
    readList_reads (fun rule => by simp [writeRule, Writer.u8]) readRule_reads
  unfold readPolicy writePolicy
  simp only [List.append_assoc]
  apply Reads.congr
  · exact .step (identity_yields _) (.step (counter_yields _) (.step (text_yields _ (by decide))
      (.step (text_yields _ (by decide)) (.bind (readStage_reads _) fun _ =>
      .bind (readLifecycleGraph_reads _) fun _ => .step (digest_yields _)
      (.last rules fun _ => .pure _)))))
  · constructor
    · rintro ⟨entryStage, graph, ⟨rulesFit, rules⟩, _⟩
      exact ⟨entryStage, graph, rulesFit, rules⟩
    · intro readable
      exact ⟨readable.entryStage, readable.graph, ⟨readable.rulesFit, readable.rules⟩, trivial⟩

end Codec

end ArtifactPromotion
