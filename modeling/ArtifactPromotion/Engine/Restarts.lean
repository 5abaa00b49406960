import ArtifactPromotion.Engine.Reloads
import ArtifactPromotion.Engine.Reservations
import ArtifactPromotion.Persist.Exactness

/-! Which reachable states survive a save and a restart. -/

namespace ArtifactPromotion

open Runs

open StatePersistence in
/-- The state read back has the durable fields of the saved one; its generators resume where they
stopped and then pass the identities that are present. -/
structure Agrees (saved image : CoordinatorState) : Prop where
  coordinator : image.coordinator = saved.coordinator
  epoch : image.epoch = saved.epoch
  commitSequence : image.commitSequence = saved.commitSequence
  decisionSequence : image.decisionSequence = saved.decisionSequence
  artifactGeneration : image.artifactGeneration = saved.artifactGeneration
  compatibilityGeneration : image.compatibilityGeneration = saved.compatibilityGeneration
  compatibilityProfile : image.compatibilityProfile = saved.compatibilityProfile
  activePolicy : image.activePolicy = saved.activePolicy
  activePolicyGeneration : image.activePolicyGeneration = saved.activePolicyGeneration
  activePolicyDigest : image.activePolicyDigest = saved.activePolicyDigest
  policy : image.policy = saved.policy
  artifacts : image.artifacts = saved.artifacts
  evidence : image.evidence = saved.evidence
  plans : image.plans = saved.plans
  decisions : image.decisions = saved.decisions
  records : image.records = saved.records
  idempotency : image.idempotency = saved.idempotency
  history : image.history = saved.history
  vetoes : image.vetoes = saved.vetoes
  revisionGenerator : image.revisionGenerator = observeAll (resumed saved.revisionGenerator)
    (saved.artifacts.toList.flatMap fun entry => entry.2.map ArtifactRecord.revision)
  evidenceGenerator : image.evidenceGenerator =
    observeAll (resumed saved.evidenceGenerator) saved.evidence.keys
  planGenerator : image.planGenerator =
    observeAll (resumed saved.planGenerator) saved.plans.keys
  decisionGenerator : image.decisionGenerator =
    observeAll (resumed saved.decisionGenerator) saved.decisions.keys
  transitionGenerator : image.transitionGenerator =
    observeAll (resumed saved.transitionGenerator) saved.records.keys
  reservationGenerator : image.reservationGenerator = resumed saved.reservationGenerator
  instanceGenerator : image.instanceGenerator = resumed saved.instanceGenerator
  provenanceGenerator : image.provenanceGenerator = resumed saved.provenanceGenerator

/-- The saved state is read back as it was, and any engine installs it. -/
def Engine.Survives (engine : Engine) : Prop :=
  ∃ image, StatePersistence.decode (StatePersistence.encode engine.snapshot) = .ok image ∧
    Agrees engine.snapshot image ∧
    ∀ host : Engine, ∃ next, host.installState image = some (.ok (), next)

/-- No text of the state is longer than the file's limit for it. -/
structure Unabridged (state : CoordinatorState) : Prop where
  policy : state.policy.Unabridged
  artifacts : ∀ entry ∈ state.artifacts.toList, ∀ record ∈ entry.2, record.Unabridged
  evidence : ∀ entry ∈ state.evidence.toList, entry.2.Unabridged
  plans : ∀ entry ∈ state.plans.toList, entry.2.Unabridged
  decisions : ∀ entry ∈ state.decisions.toList, entry.2.Unabridged
  records : ∀ entry ∈ state.records.toList, entry.2.note.length ≤ kMaxTextLength
  history : ∀ entry ∈ state.history.toList, entry.2.note.length ≤ kMaxTextLength
  vetoes : ∀ entry ∈ state.vetoes.toList, entry.2.Unabridged

/-- The limits of the file format and the consistency check, as conditions on the state. -/
structure Storable (state : CoordinatorState) : Prop where
  size : (StatePersistence.encodePayload state).length ≤ kMaxSnapshotBytes
  readable : ∀ part, StatePersistence.SectionReadable state part
  unabridged : Unabridged state
  consistent : state.verifyConsistency = some (.ok ())

namespace Engine

variable {engine : Engine}

structure Restores (state : CoordinatorState) : Prop where
  policy : state.policy.restored = state.policy
  artifacts : (state.artifacts.map fun _ chain => chain.map ArtifactRecord.restored) =
    state.artifacts
  evidence : (state.evidence.map fun _ => EvidenceRecord.restored) = state.evidence
  plans : (state.plans.map fun _ => PromotionPlan.restored) = state.plans
  decisions : (state.decisions.map fun _ => PromotionDecision.restored) = state.decisions
  records : (state.records.map fun _ => PromotionRecord.restored) = state.records
  history : (state.history.map fun _ => HistoryEvent.restored) = state.history
  vetoes : (state.vetoes.map fun _ => VetoState.restored) = state.vetoes

theorem restores_iff (state : CoordinatorState) : Restores state ↔ Unabridged state := by
  have chains : (state.artifacts.map fun _ chain => chain.map ArtifactRecord.restored) =
      state.artifacts ↔ ∀ entry ∈ state.artifacts.toList, ∀ record ∈ entry.2,
        record.Unabridged := by
    rw [OrderedMaps.map_eq_self_iff]
    simp only [map_eq_self_iff, ArtifactRecord.restored_eq_iff]
  have entries {κ ν : Type} [Ord κ] [Std.TransOrd κ] [Std.LawfulEqOrd κ] (map : OrderedMap κ ν)
      {change : ν → ν} {whole : ν → Prop} (same : ∀ value, change value = value ↔ whole value) :
      (map.map fun _ => change) = map ↔ ∀ entry ∈ map.toList, whole entry.2 := by
    rw [OrderedMaps.map_eq_self_iff]
    simp only [same]
  constructor
  · intro restores
    exact ⟨(PromotionPolicy.restored_eq_iff _).mp restores.policy, chains.mp restores.artifacts,
      (entries _ EvidenceRecord.restored_eq_iff).mp restores.evidence,
      (entries _ PromotionPlan.restored_eq_iff).mp restores.plans,
      (entries _ PromotionDecision.restored_eq_iff).mp restores.decisions,
      (entries _ PromotionRecord.restored_eq_iff).mp restores.records,
      (entries _ HistoryEvent.restored_eq_iff).mp restores.history,
      (entries _ VetoState.restored_eq_iff).mp restores.vetoes⟩
  · intro whole
    exact ⟨(PromotionPolicy.restored_eq_iff _).mpr whole.policy, chains.mpr whole.artifacts,
      (entries _ EvidenceRecord.restored_eq_iff).mpr whole.evidence,
      (entries _ PromotionPlan.restored_eq_iff).mpr whole.plans,
      (entries _ PromotionDecision.restored_eq_iff).mpr whole.decisions,
      (entries _ PromotionRecord.restored_eq_iff).mpr whole.records,
      (entries _ HistoryEvent.restored_eq_iff).mpr whole.history,
      (entries _ VetoState.restored_eq_iff).mpr whole.vetoes⟩

theorem image_agrees_iff :
    Agrees engine.snapshot
      (StatePersistence.observeState (StatePersistence.restoredState engine.snapshot)) ↔
      Restores engine.snapshot := by
  rw [StatePersistence.restoredState_eq]
  constructor
  · intro agrees
    exact ⟨agrees.policy, agrees.artifacts, agrees.evidence, agrees.plans, agrees.decisions,
      agrees.records, agrees.history, agrees.vetoes⟩
  · intro restores
    constructor
    case policy => exact restores.policy
    case artifacts => exact restores.artifacts
    case evidence => exact restores.evidence
    case plans => exact restores.plans
    case decisions => exact restores.decisions
    case records => exact restores.records
    case history => exact restores.history
    case vetoes => exact restores.vetoes
    case revisionGenerator =>
      change StatePersistence.observeAll _ (List.flatMap _ (Std.ExtTreeMap.toList _)) = _
      rw [restores.artifacts]
    case evidenceGenerator =>
      change StatePersistence.observeAll _ (Std.ExtTreeMap.keys _) = _
      rw [restores.evidence]
    case planGenerator =>
      change StatePersistence.observeAll _ (Std.ExtTreeMap.keys _) = _
      rw [restores.plans]
    case decisionGenerator =>
      change StatePersistence.observeAll _ (Std.ExtTreeMap.keys _) = _
      rw [restores.decisions]
    case transitionGenerator =>
      change StatePersistence.observeAll _ (Std.ExtTreeMap.keys _) = _
      rw [restores.records]
    all_goals rfl

theorem image_consistency (restores : Restores engine.snapshot) :
    ({ StatePersistence.observeState (StatePersistence.restoredState engine.snapshot) with
      pending := ∅ } : CoordinatorState).verifyConsistency = engine.snapshot.verifyConsistency := by
  rw [StatePersistence.restoredState_eq, restores.policy, restores.artifacts, restores.evidence,
    restores.plans, restores.decisions, restores.records, restores.history, restores.vetoes]
  rfl

theorem installs_iff {image : CoordinatorState} :
    (∀ host : Engine, ∃ next, host.installState image = some (.ok (), next)) ↔
      ({ image with pending := ∅ } : CoordinatorState).verifyConsistency = some (.ok ()) := by
  constructor
  · intro installs
    obtain ⟨next, installed⟩ := installs (create {} ⟨1⟩ 0 0)
    unfold installState at installed
    obtain ⟨consistency, consistent, answered⟩ := Option.map_eq_some_iff.mp installed
    cases consistency with
    | error status => simp at answered
    | ok done => exact consistent
  · intro consistent host
    refine ⟨host.dirty { image with pending := ∅ }, ?_⟩
    unfold installState
    dsimp only
    rw [consistent]
    rfl

/-- A reachable state survives a restart exactly when it keeps the limits of the file format and
passes the consistency check. -/
theorem survives_iff_storable (reachable : Reachable engine) :
    engine.Survives ↔ Storable engine.snapshot := by
  have keyed := snapshot_keyed reachable.sound
  constructor
  · rintro ⟨image, decoded, agrees, installs⟩
    obtain ⟨size, readable, rfl⟩ := (StatePersistence.decode_encode_eq_ok keyed).mp decoded
    have restores := image_agrees_iff.mp agrees
    refine ⟨size, readable, (restores_iff _).mp restores, ?_⟩
    rw [← image_consistency restores]
    exact installs_iff.mp installs
  · intro storable
    have restores := (restores_iff _).mpr storable.unabridged
    refine ⟨_, (StatePersistence.decode_encode_eq_ok keyed).mpr
      ⟨storable.size, storable.readable, rfl⟩, image_agrees_iff.mpr restores, ?_⟩
    rw [installs_iff, image_consistency restores]
    exact storable.consistent

def storable (state : CoordinatorState) : Bool :=
  StatePersistence.accepts state && state.verifyConsistency == some (.ok ()) &&
    decide state.policy.Unabridged &&
    (state.artifacts.toList.all fun entry => entry.2.all fun record => decide record.Unabridged) &&
    (state.evidence.toList.all fun entry => decide entry.2.Unabridged) &&
    (state.plans.toList.all fun entry => decide entry.2.Unabridged) &&
    (state.decisions.toList.all fun entry => decide entry.2.Unabridged) &&
    (state.records.toList.all fun entry => entry.2.note.length ≤ kMaxTextLength) &&
    (state.history.toList.all fun entry => entry.2.note.length ≤ kMaxTextLength) &&
    (state.vetoes.toList.all fun entry => decide entry.2.Unabridged)

theorem storable_spec {state : CoordinatorState} (checked : storable state = true) :
    Storable state := by
  simp only [storable, StatePersistence.accepts, Bool.and_eq_true, beq_iff_eq,
    decide_eq_true_eq, List.all_eq_true] at checked
  obtain ⟨⟨⟨⟨⟨⟨⟨⟨⟨⟨size, sections⟩, consistent⟩, policy⟩, artifacts⟩, evidence⟩, plans⟩,
    decisions⟩, records⟩, history⟩, vetoes⟩ := checked
  refine ⟨size, ?_, ⟨policy, artifacts, evidence, plans, decisions, records, history, vetoes⟩,
    consistent⟩
  intro part
  exact sections part (by cases part <;> decide)

theorem survives_iff_storable_registered :
    ∃ engine, Reachable engine ∧ Storable engine.snapshot ∧ engine.Survives := by
  have evaluated : ((play step sampleEngine
      [fun _ => .publishPolicy directPolicy,
        fun _ => .registerArtifact (sampleRegistration 1) 0]).any
        fun played => storable played.2.snapshot) = true := by
    decide +kernel
  obtain ⟨engine, reachable, checked⟩ := Reachable.of_play
    (fun engine => storable engine.snapshot) sampleEngine_constructed evaluated
  have kept := storable_spec checked
  exact ⟨engine, reachable, kept, (survives_iff_storable reachable).mpr kept⟩

/-- A request for an unknown revision leaves a decision without a kind, and the file that holds it
is refused. -/
theorem stray_request_unreadable :
    ∃ engine, Reachable engine ∧
      (∀ image, StatePersistence.decode (StatePersistence.encode engine.snapshot) ≠ .ok image) ∧
      ¬engine.Survives := by
  have evaluated : ((play step sampleEngine [fun engine => .evaluate engine.strayRequest 0]).any
      fun played => played.2.state.decisions.toList.any fun entry =>
        !isValidArtifactKind entry.2.artifactKind.toByte.toNat) = true := by
    decide +kernel
  obtain ⟨engine, reachable, checked⟩ := Reachable.of_play
    (fun engine => engine.state.decisions.toList.any fun entry =>
      !isValidArtifactKind entry.2.artifactKind.toByte.toNat) sampleEngine_constructed evaluated
  simp only [List.any_eq_true, Bool.not_eq_true'] at checked
  obtain ⟨entry, inside, unknown⟩ := checked
  have refused (image : CoordinatorState) :
      StatePersistence.decode (StatePersistence.encode engine.snapshot) ≠ .ok image := by
    intro decoded
    obtain ⟨_, readable, _⟩ :=
      (StatePersistence.decode_encode_eq_ok (snapshot_keyed reachable.sound)).mp decoded
    have known := ((readable .decisions).2 entry inside).kind
    simp [unknown] at known
  refine ⟨engine, reachable, refused, ?_⟩
  rintro ⟨image, decoded, _⟩
  exact refused image decoded

end Engine

end ArtifactPromotion
