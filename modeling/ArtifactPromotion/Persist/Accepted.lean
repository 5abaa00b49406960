import ArtifactPromotion.Core.HexText
import ArtifactPromotion.Persist.RecordCodecs

/-! Whatever the record decoders accept satisfies the conditions they test. -/

namespace ArtifactPromotion

open Decoding

namespace Codec

open Reader

theorem readEnum_delivers {α : Type} {known : Nat → Bool} {ofByte : UInt8 → α} {code : ErrorCode}
    {message : String} {holds : α → Prop}
    (restores : ∀ raw : UInt8, known raw.toNat = true → holds (ofByte raw)) :
    Delivers (readEnum known ofByte code message) holds := by
  refine .skip fun raw => ?_
  by_cases isKnown : known raw.toNat = true
  · rw [if_pos isKnown]
    exact .pure (restores raw isKnown)
  · rw [if_neg isKnown]
    exact .fails _ (fail_error _ _)

theorem elements_delivers {α : Type} {read : Decode α} {holds : α → Prop}
    (each : Delivers read holds) (count : Nat) :
    Delivers (elements read count) fun values =>
      values.length = count ∧ ∀ value ∈ values, holds value := by
  induction count with
  | zero => exact .pure ⟨rfl, List.forall_mem_nil _⟩
  | succ count ih =>
      refine .bind each fun first valid => .bind ih fun rest ⟨counted, others⟩ => .pure ?_
      rw [List.length_cons, counted, List.forall_mem_cons]
      exact ⟨rfl, valid, others⟩

theorem readList_delivers {α : Type} {read : Decode α} {holds : α → Prop} {limit : Nat}
    (each : Delivers read holds) :
    Delivers (readList limit read) fun values =>
      values.length ≤ limit ∧ ∀ value ∈ values, holds value := by
  have counted : Delivers (count limit) fun size => size ≤ limit :=
    .skip fun declared => .reject (fail_error _ _) fun small => .pure (not_lt.mp small)
  refine .bind counted fun size small => ?_
  intro position values next answer
  obtain ⟨sized, each⟩ := elements_delivers each size _ _ _ answer
  exact ⟨sized ▸ small, each⟩

theorem readStage_delivers :
    Delivers readStage fun stage => isValidStageValue stage.toByte.toNat = true :=
  readEnum_delivers (forall_byte (by decide +kernel))

theorem readKind_delivers :
    Delivers readKind fun kind => isValidArtifactKind kind.toByte.toNat = true :=
  readEnum_delivers (forall_byte (by decide +kernel))

theorem readOutcome_delivers :
    Delivers readOutcome fun outcome => isValidPromotionOutcome outcome.toByte.toNat = true :=
  readEnum_delivers (forall_byte (by decide +kernel))

theorem readGateExplanation_delivers : Delivers readGateExplanation fun gate =>
    isValidGateKind gate.kind.toByte.toNat = true := by
  have kinds : Delivers readGateKind fun kind => isValidGateKind kind.toByte.toNat = true :=
    readEnum_delivers (forall_byte (by decide +kernel))
  exact .bind kinds fun kind known => .skip fun _ => .skip fun _ => .skip fun _ => .skip fun _ =>
    .pure known

theorem readFinding_delivers : Delivers readFinding EvidenceFinding.Readable := by
  have types : Delivers readEvidenceType fun type => isValidEvidenceType type.toByte.toNat = true :=
    readEnum_delivers (forall_byte (by decide +kernel))
  have results : Delivers readEvidenceResult fun result =>
      isValidEvidenceResult result.toByte.toNat = true :=
    readEnum_delivers (forall_byte (by decide +kernel))
  exact .skip fun _ => .bind types fun type known => .skip fun _ => .skip fun _ =>
    .bind results fun result answered => .skip fun _ => .skip fun _ => .skip fun _ => .skip fun _ =>
    .pure ⟨known, answered⟩

theorem readPlan_delivers : Delivers readPlan PromotionPlan.Readable := by
  unfold readPlan
  refine .skip fun _ => .skip fun _ => .skip fun _ => .skip fun _ => .skip fun _ => .skip fun _ =>
    .skip fun _ => .skip fun _ => ?_
  refine .bind readKind_delivers fun kind known => ?_
  refine .bind readStage_delivers fun source left => .bind readStage_delivers fun target right => ?_
  refine .skip fun _ => .skip fun _ => .skip fun _ => .skip fun _ => .skip fun _ => .skip fun _ =>
    .skip fun _ => .skip fun _ => .skip fun _ => .skip fun _ => .skip fun _ => .skip fun _ =>
    .skip fun _ => .skip fun _ => .skip fun _ => ?_
  exact .reject (fail_error _ _) fun valid => .pure ⟨known, left, right, by simpa using valid⟩

theorem readDecision_delivers : Delivers readDecision PromotionDecision.Readable := by
  unfold readDecision
  refine .skip fun _ => .skip fun _ => .skip fun _ => .skip fun _ => .skip fun _ => .skip fun _ =>
    .skip fun _ => ?_
  refine .bind readKind_delivers fun kind known => ?_
  refine .bind readStage_delivers fun source left => .bind readStage_delivers fun target right => ?_
  refine .bind readOutcome_delivers fun outcome settled => ?_
  refine .skip fun _ => .skip fun _ => .skip fun _ => .skip fun _ => .skip fun _ => .skip fun _ =>
    .skip fun _ => .skip fun _ => .skip fun _ => .skip fun _ => ?_
  refine .bind (readList_delivers readGateExplanation_delivers) fun gates ⟨gatesFit, gatesKnown⟩ =>
    ?_
  refine .bind (readList_delivers readFinding_delivers) fun findings ⟨findingsFit, found⟩ => ?_
  have reasons : Delivers readReason fun _ => True := fun _ _ _ _ => trivial
  exact .bind (readList_delivers reasons) fun reasons ⟨reasonsFit, _⟩ =>
    .pure ⟨known, left, right, settled, gatesFit, gatesKnown, findingsFit, found, reasonsFit⟩

theorem readPromotionRecord_delivers : Delivers readPromotionRecord PromotionRecord.Readable := by
  unfold readPromotionRecord
  refine .skip fun _ => .skip fun _ => .skip fun _ => .skip fun _ => ?_
  refine .bind readStage_delivers fun source left => .bind readStage_delivers fun target right => ?_
  exact .skip fun _ => .skip fun _ => .skip fun _ => .skip fun _ => .skip fun _ => .skip fun _ =>
    .skip fun _ => .skip fun _ => .skip fun _ => .skip fun _ => .skip fun _ => .pure ⟨left, right⟩

end Codec

end ArtifactPromotion
