import ArtifactPromotion.Engine.TrustFlags
import ArtifactPromotion.Engine.Consistency

/-! The classes and stages of what the engine stores are known ones, and so are the gates of its
policy. -/

namespace ArtifactPromotion

open Runs

structure ArtifactRecord.Known (record : ArtifactRecord) : Prop where
  kind : isValidArtifactKind record.kind.toByte.toNat = true
  stage : isValidStageValue record.stage.index = true

namespace Engine

variable {engine next : Engine}

def ArtifactsKnown (engine : Engine) : Prop :=
  ∀ id, ∀ record ∈ engine.state.chain id, record.Known

theorem registered_known (policy : engine.PolicyValid) {registration : ArtifactRegistration}
    {now : UInt64} {added : ArtifactRecord}
    (moved : engine.step (.registerArtifact registration now) =
      some (.registered (.ok added), next)) : added.Known := by
  obtain ⟨stamped, policyKept, _, _, made, _⟩ := registered_chain moved
  have validated := (registered_enrolls moved).validated
  simp only [ArtifactRegistration.validate, bind_eq_ok, rejectWhen_eq_ok,
    Bool.not_eq_false'] at validated
  obtain ⟨_, _, _, kind, _⟩ := validated
  rw [made]
  refine ⟨kind, ?_⟩
  change isValidStageValue stamped.policy.entryStage.index = true
  rw [policyKept]
  exact PromotionPolicy.entryStage_known policy

theorem step_artifacts_known (sound : engine.Sound) (policy : engine.PolicyValid)
    (known : engine.ArtifactsKnown) {op : Op} {reply : Reply}
    (moved : engine.step op = some (reply, next)) : next.ArtifactsKnown := by
  intro id record inside
  obtain ⟨index, held⟩ := List.mem_iff_getElem?.mp inside
  rcases step_position sound moved held with ⟨old, before, change⟩ |
    ⟨registration, now, rfl, rfl, rfl, _⟩
  · obtain ⟨kind, stage⟩ := known id old (List.mem_of_getElem? before)
    cases change with
    | kept => exact ⟨kind, stage⟩
    | restored => exact ⟨kind, stage⟩
    | overtaken state revision named current fresh =>
        unfold supersedeByRegistration
        dsimp only
        split
        · exact ⟨kind, rfl⟩
        · exact ⟨kind, stage⟩
    | applied named first accepts =>
        obtain ⟨_, _, _, _, same⟩ := promotedArtifact_eq engine.state.advanceSequence _ old
        rw [same]
        exact ⟨kind, (PromotionPolicy.edge_known policy (commit_edge policy accepts)).2⟩
    | quarantined => exact ⟨kind, rfl⟩
    | released => exact ⟨kind, rfl⟩
    | revoked => exact ⟨kind, rfl⟩
    | superseded => exact ⟨kind, rfl⟩
    | retired => exact ⟨kind, rfl⟩
  · exact registered_known policy moved

def EvidenceKnown (engine : Engine) : Prop :=
  ∀ (id : EvidenceId) (record : EvidenceRecord), engine.control.evidence[id]? = some record →
    isValidEvidenceType record.type.toByte.toNat = true ∧
      isValidEvidenceResult record.result.toByte.toNat = true

theorem step_evidence_known (sound : engine.Sound) (known : engine.EvidenceKnown) {op : Op}
    {reply : Reply} (moved : engine.step op = some (reply, next)) : next.EvidenceKnown := by
  intro id record held
  cases step_storeChange sound moved with
  | kept same => exact known id record (same ▸ held)
  | reloaded changed =>
      rw [changed, Std.ExtTreeMap.getElem?_map, Option.map_eq_some_iff] at held
      obtain ⟨old, before, rfl⟩ := held
      exact known id old before
  | @revoked revokedId reason _ old found unrevoked changed =>
      rw [changed] at held
      rcases OrderedMaps.insert_cases held with ⟨_, rfl⟩ | ⟨_, before⟩
      · exact known revokedId old found
      · exact known id record before
  | @submitted submission artifact added validated found digest made changed =>
      rw [changed] at held
      rcases submitted_entry held with ⟨_, rfl⟩ | before | ⟨old, before, rfl⟩
      · obtain ⟨_, _, type, _, _, _, _, _, _, result, _⟩ :=
          EvidenceSubmission.validate_content validated
            (IdentityGenerator.next_valid engine.control.evidenceGenerator)
            (rfl : (⟨1⟩ : EvidenceGeneration).valid = true)
            (rfl : (⟨1⟩ : CommitSequence).valid = true)
        rw [made]
        exact ⟨type, result⟩
      · exact known id record before
      · exact known id old before

end Engine

end ArtifactPromotion
