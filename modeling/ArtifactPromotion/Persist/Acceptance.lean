import ArtifactPromotion.Persist.RoundTrip

/-! Whether a saved state can be read back is decided by looking at the state alone. -/

namespace ArtifactPromotion

instance (value : ProvenanceRecord) : Decidable value.Readable :=
  inferInstanceAs (Decidable (_ ≤ _))

instance (value : ArtifactRecord) : Decidable value.Readable :=
  decidable_of_iff _ (ArtifactRecord.readable_iff value).symm

instance (value : EvidenceRecord) : Decidable value.Readable :=
  decidable_of_iff _ (EvidenceRecord.readable_iff value).symm

instance (value : PromotionPlan) : Decidable value.Readable :=
  decidable_of_iff _ (PromotionPlan.readable_iff value).symm

instance (value : EvidenceFinding) : Decidable value.Readable :=
  inferInstanceAs (Decidable (_ ∧ _))

instance (value : PromotionDecision) : Decidable value.Readable :=
  decidable_of_iff _ (PromotionDecision.readable_iff value).symm

instance (value : PromotionRecord) : Decidable value.Readable :=
  decidable_of_iff _ (PromotionRecord.readable_iff value).symm

instance (value : IdempotencyRecord) : Decidable value.Readable :=
  inferInstanceAs (Decidable (_ = _))

instance (value : HistoryEvent) : Decidable value.Readable :=
  decidable_of_iff _ (HistoryEvent.readable_iff value).symm

instance (graph : LifecycleGraph) : Decidable graph.Readable :=
  decidable_of_iff _ (LifecycleGraph.readable_iff graph).symm

instance (gate : Gate) : Decidable gate.Readable :=
  decidable_of_iff _ (Gate.readable_iff gate).symm

instance (rule : PolicyRule) : Decidable rule.Readable :=
  decidable_of_iff _ (PolicyRule.readable_iff rule).symm

instance (policy : PromotionPolicy) : Decidable policy.Readable :=
  decidable_of_iff _ (PromotionPolicy.readable_iff policy).symm

namespace StatePersistence

instance (entry : ArtifactId × List ArtifactRecord) : Decidable (ChainReadable entry) :=
  decidable_of_iff _ (chainReadable_iff entry).symm

instance (state : CoordinatorState) : (part : Section) → Decidable (SectionReadable state part)
  | .header => inferInstanceAs (Decidable True)
  | .policy => inferInstanceAs (Decidable (PromotionPolicy.Readable _))
  | .artifacts => inferInstanceAs (Decidable (_ ∧ _))
  | .evidence => inferInstanceAs (Decidable (_ ∧ _))
  | .plans => inferInstanceAs (Decidable (_ ∧ _))
  | .decisions => inferInstanceAs (Decidable (_ ∧ _))
  | .records => inferInstanceAs (Decidable (_ ∧ _))
  | .idempotency => inferInstanceAs (Decidable (_ ∧ _))
  | .history => inferInstanceAs (Decidable (_ ∧ _))
  | .vetoes => inferInstanceAs (Decidable (_ ≤ _))
  | .generators => inferInstanceAs (Decidable True)

/-- Whether `decode` accepts what `encode` writes for the state. -/
def accepts (state : CoordinatorState) : Bool :=
  (encodePayload state).length ≤ kMaxSnapshotBytes &&
    sectionOrder.all fun part => SectionReadable state part

theorem decode_encode_of_accepts {state : CoordinatorState} (keyed : Keyed state)
    (accepted : accepts state = true) :
    decode (encode state) = .ok (observeState (restoredState state)) := by
  simp only [accepts, Bool.and_eq_true, decide_eq_true_eq, List.all_eq_true] at accepted
  refine (decode_encode_eq_ok keyed).mpr ⟨accepted.1, fun part => accepted.2 part ?_, rfl⟩
  cases part <;> decide

end StatePersistence

end ArtifactPromotion
