import ArtifactPromotion.Engine.Ascents

/-! What the reference policy guarantees of the artifacts it lets through: no stage of its pipeline
is skipped, and the evidence it asks for was there at every move. -/

namespace ArtifactPromotion

open Runs

def pipeline : List Stage := [.candidate, .verified, .qualified, .staged, .approved, .promoted]

def requiredEvidence (kind : ArtifactKind) : Stage → List EvidenceType
  | .verified => [.provenanceComplete]
  | .qualified =>
      match kind with
      | .executable => [.buildPass, .unitTestPass, .integrationTestPass]
      | .model => [.modelEvalPass, .dataValidationPass]
      | _ => [.provenanceComplete]
  | .staged => [.reproducibilityPass]
  | .approved => [.machineCriticApproval]
  | .promoted => [.signatureValid]
  | _ => []

/-- The state holds passing evidence of the type for the exact revision and content of the record,
neither revoked nor superseded. -/
def Engine.Attests (engine : Engine) (record : ArtifactRecord) (id : ArtifactId)
    (type : EvidenceType) : Prop :=
  ∃ (key : EvidenceId) (evidence : EvidenceRecord), engine.state.evidence[key]? = some evidence ∧
    evidence.subject = id ∧ evidence.subjectRevision = record.revision ∧
    evidence.subjectDigest = record.digest ∧ evidence.type = type ∧ evidence.result = .pass ∧
    evidence.revoked = false ∧ evidence.superseded = false

theorem GateContext.satisfied_selects {context : GateContext} {gate : Gate}
    (resolves : gate.ResolvesEvidence) (satisfied : context.satisfied gate = true) :
    ∃ record, context.Selects gate record := by
  rcases resolves with required | freshness | approval | environment
  · obtain ⟨record, selects, _⟩ := (satisfied_evidence required).mp satisfied
    exact ⟨record, selects⟩
  · exact freshness_selects freshness satisfied
  · exact (satisfied_approval approval).mp satisfied
  · obtain ⟨record, selects, _⟩ := (satisfied_environment environment).mp satisfied
    exact ⟨record, selects⟩

def PolicyRule.asksFor (rule : PolicyRule) (type : EvidenceType) : Bool :=
  rule.requirements.any fun gate => (gate.kind == .evidenceRequired ||
    gate.kind == .evidenceFreshness || gate.kind == .approvalRequired ||
    gate.kind == .environmentBinding) && gate.evidenceType == type

theorem PolicyRule.asks {rule : PolicyRule} {type : EvidenceType} (asked : rule.asksFor type = true) :
    ∃ gate ∈ rule.requirements, gate.ResolvesEvidence ∧ gate.evidenceType = type := by
  obtain ⟨gate, inside, matching⟩ := List.any_eq_true.mp asked
  simp only [Bool.and_eq_true, Bool.or_eq_true, beq_iff_eq, or_assoc] at matching
  exact ⟨gate, inside, matching⟩

theorem PolicyRule.asksFor_restored (rule : PolicyRule) (type : EvidenceType) :
    rule.restored.asksFor type = rule.asksFor type := by
  simp [asksFor, restored, Gate.restored, List.any_map, Function.comp_def]

theorem PolicyRule.covers_restored (rule : PolicyRule) (kind : ArtifactKind)
    (source target : Stage) : rule.restored.covers kind source target = rule.covers kind source target := by
  cases limited : rule.hasKindScope <;> simp [covers, restored, limited]

namespace PromotionPolicy

/-- The policy admits revisions at the foot of the pipeline, lets commits into a pipeline stage from
the stage before it only, and asks for at least the evidence of the reference policy. -/
structure Enforces (policy : PromotionPolicy) : Prop where
  entry : policy.entryStage ∉ pipeline.tail
  upward : ∀ (kind : ArtifactKind) (source target : Stage) (rule : PolicyRule) (level : Nat),
    policy.findRule kind source target = some rule → pipeline[level + 1]? = some target →
      pipeline[level]? = some source
  asks : ∀ (kind : ArtifactKind) (source target : Stage) (rule : PolicyRule),
    policy.findRule kind source target = some rule →
      ∀ type ∈ requiredEvidence kind target, rule.asksFor type = true

theorem findRule_restored (policy : PromotionPolicy) (kind : ArtifactKind) (source target : Stage) :
    policy.restored.findRule kind source target =
      (policy.findRule kind source target).map PolicyRule.restored := by
  unfold findRule restored
  dsimp only
  rw [List.find?_map]
  simp only [Function.comp_def, PolicyRule.covers_restored]

theorem Enforces.restored {policy : PromotionPolicy} (enforces : policy.Enforces) :
    policy.restored.Enforces := by
  constructor
  case entry => exact enforces.entry
  case upward =>
    intro kind source target rule level governs
    rw [findRule_restored] at governs
    obtain ⟨written, governed, _⟩ := Option.map_eq_some_iff.mp governs
    exact enforces.upward kind source target written level governed
  case asks =>
    intro kind source target rule governs type required
    rw [findRule_restored] at governs
    obtain ⟨written, governed, rfl⟩ := Option.map_eq_some_iff.mp governs
    rw [PolicyRule.asksFor_restored]
    exact enforces.asks kind source target written governed type required

theorem referenceRules_upward : ∀ rule ∈ referenceRules, ∀ level < pipeline.length,
    pipeline[level + 1]? = some rule.target → pipeline[level]? = some rule.source := by
  decide +kernel

theorem referenceRules_ask (kind : ArtifactKind) : referenceRules.all (fun move =>
    (referenceRules.find? fun rule => rule.covers kind move.source move.target).all fun rule =>
      (requiredEvidence kind move.target).all rule.asksFor) = true := by
  cases kind <;> rfl

theorem covers_stages {policy : PromotionPolicy} {kind : ArtifactKind} {source target : Stage}
    {rule : PolicyRule} (governs : policy.findRule kind source target = some rule) :
    rule ∈ policy.rules ∧ rule.source = source ∧ rule.target = target := by
  have covered := List.find?_some governs
  simp only [PolicyRule.covers, Bool.and_eq_true, beq_iff_eq] at covered
  exact ⟨List.mem_of_find?_eq_some governs, covered.1⟩

theorem reference_enforces (id : PromotionPolicyId) (generation : PolicyGeneration) :
    (makeReferencePolicy id generation).Enforces := by
  constructor
  case entry =>
    change Stage.candidate ∉ pipeline.tail
    decide
  case upward =>
    rintro kind source target rule level governs reached
    obtain ⟨inside, rfl, rfl⟩ := covers_stages governs
    have bounded := (List.getElem?_eq_some_iff.mp reached).1
    exact referenceRules_upward rule inside level (by omega) reached
  case asks =>
    rintro kind source target rule governs type required
    obtain ⟨inside, rfl, rfl⟩ := covers_stages governs
    have asked := List.all_eq_true.mp (referenceRules_ask kind) rule inside
    rw [findRule] at governs
    have rules : (makeReferencePolicy id generation).rules = referenceRules := rfl
    rw [rules] at governs
    rw [governs, Option.all_some] at asked
    exact List.all_eq_true.mp asked type required

end PromotionPolicy

/-- One move up the pipeline of the reference policy, with the evidence the policy asks for. -/
structure MovesUp (record : ArtifactRecord) (id : ArtifactId) (index : Nat) (step : EngineStep)
    (source target : Stage) : Prop where
  ascends : Ascends record id index step source target
  next : ∃ level, pipeline[level]? = some source ∧ pipeline[level + 1]? = some target
  attested : ∀ type ∈ requiredEvidence record.kind target, step.before.Attests record id type

namespace Engine

variable {engine next : Engine} {record : ArtifactRecord} {id : ArtifactId} {index : Nat}

theorem step_enforces (sound : engine.Sound) {op : Op} {reply : Reply}
    (moved : engine.step op = some (reply, next))
    (strict : ∀ policy, op = .publishPolicy policy → policy.Enforces)
    (enforces : engine.state.policy.Enforces) : next.state.policy.Enforces := by
  have kept (same : next.control.policy = engine.control.policy) : next.state.policy.Enforces := by
    change next.control.policy.Enforces
    rw [same]
    exact enforces
  cases step_effect moved with
  | published validated advances changed =>
      have policy := congrArg Control.policy changed
      obtain ⟨entry, upward, asks⟩ := strict _ rfl
      change next.control.policy.Enforces
      rw [policy]
      exact ⟨entry, upward, asks⟩
  | closed released _ _ _ _ changed =>
      refine kept ?_
      rw [changed]
      cases released <;> rfl
  | reloaded decoded changed =>
      have policy : next.state.policy = engine.state.policy.restored :=
        (image_reloaded sound decoded changed).policy
      rw [policy]
      exact enforces.restored
  | idle _ changed | restarted _ changed | recovered changed
  | compatibilityMoved _ changed | registrationRefused _ _ changed
  | registered _ _ _ _ _ _ _ changed | submitted _ _ _ _ changed | undecided _ _ _ changed
  | decided _ _ _ _ _ _ changed | issued _ _ _ _ _ _ changed | committed _ _ _ _ _ changed
  | quarantined _ _ _ _ changed | releaseRefused _ _ changed
  | released _ _ _ _ _ _ _ _ changed | revoked _ _ _ _ _ _ changed
  | superseded _ _ _ _ _ _ changed | retired _ _ _ changed | evidenceRevoked _ _ changed =>
      have same := congrArg Control.policy changed
      exact kept same

theorem gathered_subject {state : CoordinatorState} {subject : ArtifactId}
    {revision : ArtifactRevision} {evidence : EvidenceRecord}
    (inside : evidence ∈ gatherEvidence state subject revision) : evidence.subject = subject := by
  have kept := (List.mem_filter.mp (List.mem_insertionSort _ |>.mp inside)).2
  simp only [Bool.and_eq_true, beq_iff_eq] at kept
  exact kept.1

theorem satisfied_attests (sound : engine.Sound) {artifact : ArtifactRecord}
    (stands : engine.StandsAs record id index artifact) {request : PromotionRequest} {now : UInt64}
    {generation : PolicyGeneration} {gate : Gate} (resolves : gate.ResolvesEvidence)
    (satisfied : GateContext.satisfied
      ⟨engine.config, engine.state, request, now, artifact, generation⟩ gate = true) :
    engine.Attests record id gate.evidenceType := by
  obtain ⟨evidence, selects⟩ := GateContext.satisfied_selects resolves satisfied
  obtain ⟨targeted, digest, revision, unrevoked, current⟩ := selects.holds
  have gathered : evidence ∈ gatherEvidence engine.state artifact.id artifact.revision :=
    selectEvidenceForGate_referenced (congrArg GateFinding.referenced selects.selected)
  obtain ⟨key, stored⟩ := gatherEvidence_held gathered
  have named : artifact.id = id :=
    sound.coherent.chain_named id artifact (List.mem_of_getElem? stands.present)
  simp only [EvidenceClass.Targeted, gateTargets, Bool.and_eq_true, beq_iff_eq] at targeted
  exact ⟨key, evidence, stored, (gathered_subject gathered).trans named,
    revision.trans stands.revision, digest.trans stands.digest, targeted.1.symm, selects.passed,
    unrevoked, current⟩

/-- Under such a policy a commit into a pipeline stage is a move up the pipeline. -/
theorem ascends_up (sound : engine.Sound) (enforces : engine.state.policy.Enforces) {input : Op}
    {output : Reply} {source target : Stage}
    (ascends : Ascends record id index ⟨engine, input, output, next⟩ source target) {level : Nat}
    (reached : pipeline[level + 1]? = some target) :
    pipeline[level]? = some source ∧
      MovesUp record id index ⟨engine, input, output, next⟩ source target := by
  have taken := ascends
  cases ascends with
  | @committed _ plan now _ _ artifact named planned acknowledged stands edge warranted =>
      obtain ⟨rule, governs, satisfied⟩ := warranted.governed
      have below := enforces.upward _ _ _ rule level governs reached
      refine ⟨below, taken, ⟨level, below, reached⟩, fun type required => ?_⟩
      rw [stands.kind] at governs
      obtain ⟨gate, inside, resolves, rfl⟩ :=
        PolicyRule.asks (enforces.asks _ _ _ rule governs type required)
      exact satisfied_attests sound stands resolves (satisfied gate inside)

/-- The acts of administration leave no revision above the foot of the pipeline. -/
theorem placed_grounded (enforces : engine.state.policy.Enforces) {input : Op} {output : Reply}
    {origin : Stage} (placed : Placed record id index ⟨engine, input, output, next⟩ origin)
    (level : Nat) : pipeline[level + 1]? ≠ some origin := by
  have grounded : origin ∉ pipeline.tail := by
    cases placed with
    | registered => exact enforces.entry
    | _ => decide
  rw [← List.getElem?_tail]
  exact fun inside => grounded (List.mem_of_getElem? inside)

/-- In every run from the constructor in which only policies that enforce the pipeline are
published, a revision in a stage of the pipeline went up to it from Candidate one stage after the
other: each move was an acknowledged commit for that very revision, at whose moment every gate of
the governing rule was satisfied and the state held live passing evidence about its exact content of
each type the reference policy asks for. -/
theorem run_climbs_pipeline {start final : Engine} {trace : List EngineStep}
    (constructed : Constructed start) (run : EngineRun start trace final)
    (strict : ∀ step ∈ trace, ∀ policy, step.input = .publishPolicy policy → policy.Enforces)
    (present : (final.state.chain id)[index]? = some record) {height : Nat}
    (standing : pipeline[height]? = some record.stage) :
    ∃ commits, commits.Sublist trace ∧ commits.length = height ∧
      Climb (MovesUp record id index) .candidate commits record.stage := by
  have initially : start.state.policy.Enforces := by
    obtain ⟨config, epoch, salting, naming, rfl⟩ := constructed
    exact PromotionPolicy.reference_enforces _ _
  have judged := run.throughout (fun engine => engine.Sound ∧ engine.state.policy.Enforces)
    (fun step => ∀ policy, step.input = .publishPolicy policy → policy.Enforces)
    (fun step holds allowed moved =>
      ⟨sound_step holds.1 moved, step_enforces holds.1 moved allowed holds.2⟩)
    ⟨constructed.sound, initially⟩ strict
  have explained : Explains (Puts record id index) (Ascends record id index) trace record.stage :=
    run.explains (fun engine => engine.AtStage record id index) (created_stands constructed)
      (fun _ executed _ standing => trace_moves constructed run executed standing)
      ⟨record, ⟨present, rfl, rfl, rfl⟩, rfl⟩
  obtain ⟨past, step, future, origin, path, rfl, puts, along, climb⟩ := explained
  have within : path.Sublist (past ++ step :: future) :=
    (along.trans (List.sublist_cons_self step future)).trans (List.sublist_append_right past _)
  obtain ⟨front, rise, rfl, length, rising⟩ := climb.ladder rfl
    (fun later inside source reached level ascends next =>
      (ascends_up (judged later (within.subset inside)).1.1 (judged later (within.subset inside)).1.2
        ascends next).1)
    (placed_grounded (judged step (by simp)).1.2 puts.placed) standing
  refine ⟨rise, (List.sublist_append_right front rise).trans within, length,
    rising.mono fun later inside source reached moved => ?_⟩
  obtain ⟨ascends, level, below, next⟩ := moved
  obtain ⟨sound, enforces⟩ := (judged later (within.subset (List.mem_append_right _ inside))).1
  exact (ascends_up sound enforces ascends next).2

def verifyingRule : PolicyRule :=
  { source := .candidate, target := .verified,
    requirements := [makeEvidenceGate .provenanceComplete "provenance evidence"] }

def verifyingPolicy : PromotionPolicy :=
  { id := ⟨7, 1⟩, generation := ⟨1⟩, name := text "verifying",
    graph := { edges := [⟨.candidate, .verified⟩, ⟨.verified, .retired⟩] }
    rules := [verifyingRule] }

theorem verifyingPolicy_enforces : verifyingPolicy.Enforces := by
  constructor
  case entry => decide
  case upward =>
    rintro kind source target rule level governs reached
    obtain ⟨inside, rfl, rfl⟩ := PromotionPolicy.covers_stages governs
    obtain rfl : rule = verifyingRule := List.mem_singleton.mp inside
    have bounded := (List.getElem?_eq_some_iff.mp reached).1
    have only : ∀ level < pipeline.length, pipeline[level + 1]? = some .verified →
        pipeline[level]? = some .candidate := by decide
    exact only level (by omega) reached
  case asks =>
    rintro kind source target rule governs type required
    obtain ⟨inside, rfl, rfl⟩ := PromotionPolicy.covers_stages governs
    obtain rfl : rule = verifyingRule := List.mem_singleton.mp inside
    obtain rfl := List.mem_singleton.mp required
    rfl

def verifyChoices : List (Engine → Op) :=
  [fun _ => .publishPolicy verifyingPolicy,
    fun _ => .registerArtifact (sampleRegistration 1) 0,
    fun engine => .submitEvidence { engine.sampleEvidence with type := .provenanceComplete },
    fun engine => .evaluate (engine.sampleRequest .verified 1) 0,
    fun engine => .commit (engine.planFor 1) 0]

def verifiesStrictly (played : List EngineStep × Engine) : Bool :=
  (played.1.all fun step =>
    match step.input with
    | .publishPolicy policy => policy == verifyingPolicy
    | _ => true) &&
  ((played.2.state.chain ⟨0, 5⟩)[0]?.any fun record => record.stage == .verified)

theorem run_climbs_pipeline_verified :
    ∃ (trace : List EngineStep) (final : Engine) (record : ArtifactRecord)
      (commits : List EngineStep), EngineRun sampleEngine trace final ∧
        (final.state.chain ⟨0, 5⟩)[0]? = some record ∧ commits.Sublist trace ∧
        commits.length = 1 ∧ Climb (MovesUp record ⟨0, 5⟩ 0) .candidate commits .verified := by
  have evaluated : (play step sampleEngine verifyChoices).any verifiesStrictly = true := by
    decide +kernel
  obtain ⟨trace, final, run, checked⟩ := run_of_checked evaluated
  simp only [verifiesStrictly, Bool.and_eq_true, List.all_eq_true, Option.any_eq_true] at checked
  obtain ⟨published, record, present, verified⟩ := checked
  have verified : record.stage = .verified := beq_iff_eq.mp verified
  have strict : ∀ step ∈ trace, ∀ policy, step.input = .publishPolicy policy → policy.Enforces := by
    intro step executed policy publishes
    have same := published step executed
    simp only [publishes, beq_iff_eq] at same
    rw [same]
    exact verifyingPolicy_enforces
  have standing : pipeline[1]? = some record.stage := by
    rw [verified]
    rfl
  obtain ⟨commits, along, length, climb⟩ :=
    run_climbs_pipeline sampleEngine_constructed run strict present standing
  rw [verified] at climb
  exact ⟨trace, final, record, commits, run, present, along, length, climb⟩

end Engine

end ArtifactPromotion
