import ArtifactPromotion.Domain.ValidPolicies
import ArtifactPromotion.Persist.Exactness
import ArtifactPromotion.Persist.RecordCodecs

/-! Which published policies come back from their bytes: validation leaves room for gates and rules
that the persistence encoding cannot express. -/

namespace ArtifactPromotion

structure Gate.Writable (gate : Gate) : Prop where
  evidenceType : gate.evidenceType = .invalid ∨
    isValidEvidenceType gate.evidenceType.toByte.toNat = true
  customEvidenceType : gate.customEvidenceType.length ≤ kMaxNameLength
  requiredEnvironment : gate.requiredEnvironment.length ≤ kMaxTextLength
  label : gate.label.length ≤ kMaxNameLength

structure PolicyRule.Writable (rule : PolicyRule) : Prop where
  scope : rule.hasKindScope = false → rule.kindScope = .invalid
  requirements : ∀ gate ∈ rule.requirements, gate.Writable

namespace PromotionPolicy

variable {policy : PromotionPolicy}

/-- Whatever follows the bytes of the policy, reading them gives an equal policy whose digest is
its own one, and leaves what follows. -/
def Rereads (policy : PromotionPolicy) : Prop :=
  ∀ trailing : ByteBuffer, ∃ (reread : PromotionPolicy) (next : Reader),
    Codec.readPolicy { data := Codec.writePolicy policy ++ trailing } = .ok (reread, next) ∧
      next.cursor = trailing ∧ reread.equals policy = true ∧
      reread.name = policy.name.take kMaxNameLength ∧
      reread.description = policy.description.take kMaxTextLength ∧
      reread.computeDigest = reread.policyDigest

theorem gate_unabridged {gate : Gate} (writable : gate.Writable) : GateUnabridged gate :=
  ⟨writable.customEvidenceType, writable.requiredEnvironment, writable.label⟩

theorem rule_restored {rule : PolicyRule} (writable : rule.Writable) : rule.restored = rule :=
  (rule_restored_eq_iff rule).mpr
    ⟨writable.scope, fun gate inside => gate_unabridged (writable.requirements gate inside)⟩

theorem readable_of_writable (validated : policy.validate = some (.ok ()))
    (writable : ∀ rule ∈ policy.rules, rule.Writable) : policy.Readable := by
  have shaped := validate_graph validated
  constructor
  case entryStage => exact entryStage_known validated
  case graph =>
    exact ⟨shaped.fits, shaped.stages, shaped.proper,
      LifecycleGraph.canonical_nodup shaped.canonical⟩
  case rulesFit => exact rules_fit validated
  case rules =>
    intro rule inside
    obtain ⟨legal, edge⟩ := validate_rules validated inside
    obtain ⟨source, target⟩ := edge_known validated edge
    refine ⟨legal.scope, source, target, legal.ordering, legal.requirementsFit, ?_,
      legal.preferencesFit, legal.preferences⟩
    intro gate held
    have gateWritable := (writable rule inside).requirements gate held
    have valid := legal.requirements gate held
    refine ⟨Gate.validate_kind valid, gateWritable.evidenceType, ?_⟩
    rw [(gate_restored_eq_iff gate).mpr (gate_unabridged gateWritable)]
    exact valid

open Writer in
theorem writeGate_length (gate : Gate) : (Codec.writeGate gate).length ≤ 814 := by
  have customType := text_length_le gate.customEvidenceType kMaxNameLength
  have environment := text_length_le gate.requiredEnvironment kMaxTextLength
  have label := text_length_le gate.label kMaxNameLength
  simp only [Codec.writeGate, List.length_append, u8_length, u64_length, counter_length,
    identity_length]
  simp only [kMaxNameLength, kMaxTextLength] at *
  omega

open Writer in
theorem writeRule_length {rule : PolicyRule} (legal : rule.Legal) :
    (Codec.writeRule rule).length ≤ 26096 := by
  have gates := flatMap_length_le fun gate (_ : gate ∈ rule.requirements) => writeGate_length gate
  have preferences := @flatMap_length_le _ rule.preferences
    (fun kind => Writer.u8 kind.toByte) 1 fun kind _ => (u8_length _).le
  have requirementsFit := legal.requirementsFit
  have preferencesFit := legal.preferencesFit
  simp only [Codec.writeRule, List.length_append, u8_length, u32_length, boolean_length]
  simp only [PolicyRule.kMaxGates] at *
  omega

open Writer in
theorem writePolicy_length (validated : policy.validate = some (.ok ())) :
    (Codec.writePolicy policy).length < Reader.kLengthBound := by
  have name := text_length_le policy.name kMaxNameLength
  have description := text_length_le policy.description kMaxTextLength
  have edges := @flatMap_length_le _ policy.graph.edges Codec.writeEdge 2 fun _ _ => le_of_eq rfl
  have rules := @flatMap_length_le _ policy.rules Codec.writeRule 26096 fun rule inside =>
    writeRule_length (validate_rules validated inside).1
  have edgesFit := (validate_graph validated).fits
  have rulesFit := rules_fit validated
  simp only [Codec.writePolicy, Codec.writeLifecycleGraph, Writer.list, List.length_append,
    u8_length, u32_length, counter_length, identity_length, digest_length]
  simp only [kMaxNameLength, kMaxTextLength, kMaxRules, LifecycleGraph.kMaxEdges,
    Reader.kLengthBound] at *
  omega

theorem rereads_iff (validated : policy.validate = some (.ok ()))
    (hashed : policy.policyDigest = policy.computeDigest) :
    policy.Rereads ↔ ∀ rule ∈ policy.rules, rule.Writable := by
  have small := writePolicy_length validated
  have reads := Codec.readPolicy_reads policy
  have position (trailing : ByteBuffer) : Reader.view.unread
      { data := Codec.writePolicy policy ++ trailing } = Codec.writePolicy policy ++ trailing := rfl
  constructor
  · intro rereads
    obtain ⟨reread, next, answered, _, same, _⟩ := rereads []
    by_cases readable : policy.Readable
    · obtain ⟨other, yielded, _⟩ := reads.yields small readable _ [] (Nat.zero_le _) (position [])
      rw [yielded, Except.ok.injEq, Prod.mk.injEq] at answered
      obtain ⟨rfl, _⟩ := answered
      obtain ⟨_, _, _, rules, _⟩ := equals_iff.mp same
      have kept := map_eq_self_iff.mp rules
      intro rule inside
      obtain ⟨scope, gates⟩ := (rule_restored_eq_iff rule).mp (kept rule inside)
      refine ⟨scope, fun gate held => ?_⟩
      obtain ⟨customType, environment, label⟩ := gates gate held
      have known := ((readable.rules rule inside).requirements gate held).evidenceType
      exact ⟨known, customType, environment, label⟩
    · obtain ⟨failure, failed⟩ := reads.refuses small readable _ [] (Nat.zero_le _) (position [])
      rw [failed] at answered
      cases answered
  · intro writable trailing
    have readable := readable_of_writable validated writable
    obtain ⟨next, yielded, _, left⟩ := reads.yields small readable _ trailing (Nat.zero_le _)
      (position trailing)
    have rules : policy.restored.rules = policy.rules :=
      map_eq_self_iff.mpr fun rule inside => rule_restored (writable rule inside)
    have graph : policy.restored.graph = policy.graph :=
      LifecycleGraph.canonicalize_canonical (validate_graph validated).canonical
    have same : policy.restored.equals policy = true :=
      equals_iff.mpr ⟨rfl, rfl, rfl, rules, graph⟩
    refine ⟨policy.restored, next, yielded, left, same, rfl, rfl, ?_⟩
    rw [computeDigest, equals_digestPreimage same]
    exact hashed.symm

theorem stamped_rereads_iff (validated : policy.validate = some (.ok ())) :
    PromotionPolicy.Rereads { policy with policyDigest := policy.computeDigest } ↔
      ∀ rule ∈ policy.rules, rule.Writable :=
  rereads_iff validated rfl

end PromotionPolicy

namespace Engine

variable {engine next : Engine} {policy : PromotionPolicy} {generation : PolicyGeneration}

theorem published_policy (published : engine.publishPolicy policy = some (.ok generation, next)) :
    policy.validate = some (.ok ()) ∧
      next.state.policy = { policy with policyDigest := policy.computeDigest } := by
  unfold publishPolicy at published
  cases validated : policy.validate with
  | none => simp [validated] at published
  | some validation =>
      simp only [validated, Option.map_some, Option.some.injEq] at published
      cases validation with
      | error status => simp at published
      | ok done =>
          dsimp only at published
          split at published
          · simp [refuse] at published
          · simp only [Prod.mk.injEq] at published
            rw [← published.2]
            exact ⟨rfl, rfl⟩

theorem published_rereads_iff
    (published : engine.publishPolicy policy = some (.ok generation, next)) :
    next.state.policy.Rereads ↔ ∀ rule ∈ policy.rules, rule.Writable := by
  obtain ⟨validated, stored⟩ := published_policy published
  rw [stored]
  exact PromotionPolicy.stamped_rereads_iff validated

theorem published_rereads_iff_direct :
    ∃ (next : Engine) (generation : PolicyGeneration),
      sampleEngine.publishPolicy directPolicy = some (.ok generation, next) ∧
        next.state.policy.Rereads := by
  have answer : (sampleEngine.publishPolicy directPolicy).map Prod.fst = some (.ok ⟨1⟩) := by
    decide +kernel
  obtain ⟨⟨_, next⟩, published, rfl⟩ := Option.map_eq_some_iff.mp answer
  refine ⟨next, _, published, (published_rereads_iff published).mpr fun rule inside => ?_⟩
  rw [directPolicy, List.mem_singleton] at inside
  subst inside
  exact ⟨fun _ => rfl, fun gate held => absurd held List.not_mem_nil⟩

def wordyGate : Gate := { kind := .artifactIdentity, label := List.replicate 129 97 }

def wordyRule : PolicyRule :=
  { source := .candidate, target := .promoted, requirements := [wordyGate] }

def wordyPolicy : PromotionPolicy := { directPolicy with rules := [wordyRule] }

theorem wordy_policy_clipped :
    ∃ (engine next : Engine) (policy : PromotionPolicy) (generation : PolicyGeneration),
      engine.publishPolicy policy = some (.ok generation, next) ∧ ¬next.state.policy.Rereads := by
  have answer : (sampleEngine.publishPolicy wordyPolicy).map Prod.fst = some (.ok ⟨1⟩) := by
    decide +kernel
  obtain ⟨⟨_, next⟩, published, rfl⟩ := Option.map_eq_some_iff.mp answer
  refine ⟨sampleEngine, next, wordyPolicy, ⟨1⟩, published, ?_⟩
  obtain ⟨validated, stored⟩ := published_policy published
  intro rereads
  rw [stored, PromotionPolicy.stamped_rereads_iff validated] at rereads
  have inside : wordyRule ∈ wordyPolicy.rules := List.mem_singleton.mpr rfl
  have held : wordyGate ∈ wordyRule.requirements := List.mem_singleton.mpr rfl
  have short := ((rereads wordyRule inside).requirements wordyGate held).label
  rw [wordyGate, List.length_replicate] at short
  exact absurd short (by decide)

end Engine

end ArtifactPromotion
