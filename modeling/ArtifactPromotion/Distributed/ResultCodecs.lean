import ArtifactPromotion.Distributed.PayloadCodecs
import ArtifactPromotion.Persist.Accepted

/-! Which results of an evaluation, a promotion or an explanation the client can read. -/

namespace ArtifactPromotion

open Decoding

namespace Protocol

open Reader (view kLengthBound)
open Reader Codec

attribute [local irreducible] Writer.u8 Writer.boolean Reader.u8 Reader.boolean readDecision
  writeDecision readPlan writePlan readPromotionRecord writePromotionRecord

namespace PromotionResultPayload

/-- What the client gets; a plan or a record that is not announced is not sent. -/
def restored (payload : PromotionResultPayload) : PromotionResultPayload :=
  { payload with
    decision := payload.decision.restored
    plan := if payload.hasPlan then payload.plan.restored else {}
    record := if payload.hasRecord then payload.record.restored else {} }

structure Readable (payload : PromotionResultPayload) : Prop where
  outcome : isValidPromotionOutcome payload.outcome.toByte.toNat = true
  decision : payload.decision.Readable
  plan : payload.hasPlan = true → payload.plan.Readable
  record : payload.hasRecord = true → payload.record.Readable

end PromotionResultPayload

variable {payload : PromotionResultPayload}

theorem readPromotionResult_eq : readPromotionResult =
    (readEnum isValidPromotionOutcome PromotionOutcome.ofByte .invalidEnum
        "promotion response carries an unknown outcome" >>= fun outcome =>
      readDecision >>= fun decision => boolean >>= fun hasPlan =>
      (if hasPlan then readPlan else pure {}) >>= fun plan => boolean >>= fun hasRecord =>
      (if hasRecord then readPromotionRecord else pure {}) >>= fun record =>
      pure { outcome, decision, plan, hasPlan, record, hasRecord }) := by
  unfold readPromotionResult
  refine bind_congr fun outcome => bind_congr fun decision => bind_congr fun hasPlan => ?_
  cases hasPlan <;>
  · refine bind_congr fun plan => bind_congr fun hasRecord => ?_
    cases hasRecord <;> rfl

theorem readPromotionResult_yields (readable : payload.Readable) :
    Yields view readPromotionResult (encodePromotionResult payload) payload.restored := by
  have decision : Yields view readDecision (writeDecision payload.decision)
      payload.decision.restored :=
    (readDecision_reads _).yields (writeDecision_length readable.decision.gatesFit
      readable.decision.findingsFit readable.decision.reasonsFit) readable.decision
  have plan : Yields view (if payload.hasPlan then readPlan else pure {})
      (if payload.hasPlan then writePlan payload.plan else []) payload.restored.plan := by
    unfold PromotionResultPayload.restored
    by_cases announced : payload.hasPlan = true
    · simp only [announced, if_true]
      exact (readPlan_reads _).yields (writePlan_length _) (readable.plan announced)
    · simp only [announced]
      exact yields_pure _
  have record : Yields view (if payload.hasRecord then readPromotionRecord else pure {})
      (if payload.hasRecord then writePromotionRecord payload.record else [])
      payload.restored.record := by
    unfold PromotionResultPayload.restored
    by_cases announced : payload.hasRecord = true
    · simp only [announced, if_true]
      exact (readPromotionRecord_reads _).yields (writePromotionRecord_length _)
        (readable.record announced)
    · simp only [announced]
      exact yields_pure _
  rw [readPromotionResult_eq]
  unfold encodePromotionResult
  refine yields_bind (readEnum_yields payload.outcome.ofByte_toByte readable.outcome) ?_
  refine yields_bind decision (yields_bind (boolean_yields _) ?_)
  exact yields_bind plan (yields_bind (boolean_yields _) (yields_last record (yields_pure _)))

theorem readPromotionResult_delivers :
    Delivers readPromotionResult PromotionResultPayload.Readable := by
  have outcomes : Delivers (readEnum isValidPromotionOutcome PromotionOutcome.ofByte .invalidEnum
      "promotion response carries an unknown outcome") fun outcome =>
        isValidPromotionOutcome outcome.toByte.toNat = true :=
    readEnum_delivers (forall_byte (by decide +kernel))
  have plans (announced : Bool) : Delivers (if announced then readPlan else pure {}) fun plan =>
      announced = true → plan.Readable := by
    cases announced with
    | true => exact fun position plan next answer _ => readPlan_delivers _ _ _ answer
    | false => exact .pure nofun
  have records (announced : Bool) : Delivers (if announced then readPromotionRecord else pure {})
      fun record => announced = true → record.Readable := by
    cases announced with
    | true => exact fun position record next answer _ => readPromotionRecord_delivers _ _ _ answer
    | false => exact .pure nofun
  rw [readPromotionResult_eq]
  refine .bind outcomes fun outcome settled => ?_
  refine .bind readDecision_delivers fun decision readable => ?_
  refine .skip fun hasPlan => .bind (plans hasPlan) fun plan planned => ?_
  exact .skip fun hasRecord => .bind (records hasRecord) fun record recorded =>
    .pure ⟨settled, readable, planned, recorded⟩

theorem decodePromotionResult_eq_ok :
    decodePromotionResult (encodePromotionResult payload) = .ok payload ↔
      payload.Readable ∧ payload.restored = payload := by
  have decodes (readable : payload.Readable) :
      decodePromotionResult (encodePromotionResult payload) = .ok payload.restored :=
    decodeWhole_of_yields (readPromotionResult_yields readable)
  constructor
  · intro decoded
    have readable : payload.Readable := by
      obtain ⟨⟨value, next⟩, answer, finished⟩ := (bind_eq_ok _ _ _).mp decoded
      obtain ⟨_, _, made⟩ := (bind_eq_ok _ _ _).mp finished
      cases made
      exact readPromotionResult_delivers _ _ _ answer
    have same := decodes readable
    rw [decoded, Except.ok.injEq] at same
    exact ⟨readable, same.symm⟩
  · rintro ⟨readable, whole⟩
    rw [decodes readable, whole]

end Protocol

end ArtifactPromotion
