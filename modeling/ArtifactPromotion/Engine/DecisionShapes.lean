import ArtifactPromotion.Engine.EvidenceSelection
import ArtifactPromotion.Engine.KnownClasses

/-! What the decisions of the engine list: how many gates, findings and reasons, and of which
classes. -/

namespace ArtifactPromotion

open Runs

theorem isValidPromotionOutcome_iff (outcome : PromotionOutcome) :
    isValidPromotionOutcome outcome.toByte.toNat = true ↔ outcome ≠ .invalid := by
  cases outcome <;> decide

theorem Reason.of_plain {code : ErrorCode} {message subject : Text} (plain : 0 ∉ message) :
    0 ∉ (Reason.of code message subject).text.view :=
  fun inside => plain (List.mem_of_mem_take inside)

def EvidenceRecord.Classed (record : EvidenceRecord) : Prop :=
  isValidEvidenceType record.type.toByte.toNat = true ∧
    isValidEvidenceResult record.result.toByte.toNat = true

namespace PromotionDecision

variable {decision : PromotionDecision} {bound more : Nat}

structure Listed (bound : Nat) (decision : PromotionDecision) : Prop where
  gatesFit : decision.gates.length ≤ bound
  gates : ∀ gate ∈ decision.gates, isValidGateKind gate.kind.toByte.toNat = true
  findingsFit : decision.findings.length ≤ bound
  findings : ∀ finding ∈ decision.findings, finding.Readable
  reasonsFit : decision.reasons.length ≤ bound

structure Placed (decision : PromotionDecision) : Prop where
  kind : isValidArtifactKind decision.artifactKind.toByte.toNat = true
  source : isValidStageValue decision.source.toByte.toNat = true
  target : isValidStageValue decision.target.toByte.toNat = true

def Plain (decision : PromotionDecision) : Prop :=
  ∀ reason ∈ decision.reasons, 0 ∉ reason.text.view

structure Blank (decision : PromotionDecision) : Prop where
  gates : decision.gates = []
  findings : decision.findings = []
  reasons : decision.reasons = []

/-- Only the gates of one rule are listed. -/
structure Pristine (decision : PromotionDecision) : Prop where
  gatesFit : decision.gates.length ≤ PolicyRule.kMaxGates
  gates : ∀ gate ∈ decision.gates, isValidGateKind gate.kind.toByte.toNat = true
  findings : decision.findings = []
  reasons : decision.reasons = []

theorem Plain.addReason (clean : decision.Plain) {reason : Reason}
    (plain : 0 ∉ reason.text.view) : (decision.addReason reason).Plain := by
  intro listed inside
  rcases List.mem_append.mp inside with old | new
  · exact clean listed old
  · rw [List.mem_singleton.mp new]
    exact plain

theorem Blank.plain (blank : decision.Blank) : decision.Plain := by
  simp [Plain, blank.reasons]

theorem Blank.listed (blank : decision.Blank) : decision.Listed 0 := by
  obtain ⟨gates, findings, reasons⟩ := blank
  constructor
  all_goals simp [gates, findings, reasons]

theorem Pristine.listed (pristine : decision.Pristine) :
    decision.Listed PolicyRule.kMaxGates := by
  obtain ⟨gatesFit, gates, findings, reasons⟩ := pristine
  constructor
  case gatesFit => exact gatesFit
  case gates => exact gates
  all_goals simp [findings, reasons]

theorem Pristine.plain (pristine : decision.Pristine) : decision.Plain := by
  simp [Plain, pristine.reasons]

theorem readable_of_listed (placed : decision.Placed) (listed : decision.Listed 64)
    (settled : decision.outcome ≠ .invalid) : decision.Readable := by
  obtain ⟨kind, source, target⟩ := placed
  obtain ⟨gatesFit, gates, findingsFit, findings, reasonsFit⟩ := listed
  have outcome := (isValidPromotionOutcome_iff _).mpr settled
  exact ⟨kind, source, target, outcome, gatesFit, gates, findingsFit, findings, reasonsFit⟩

namespace Listed

theorem mono (listed : decision.Listed bound) (wider : bound ≤ more) : decision.Listed more := by
  obtain ⟨gatesFit, gates, findingsFit, findings, reasonsFit⟩ := listed
  constructor
  case gates => exact gates
  case findings => exact findings
  all_goals omega

theorem extend {grown : PromotionDecision} {gates : List GateExplanation}
    {findings : List EvidenceFinding} {reasons : List Reason} (listed : decision.Listed bound)
    (sameGates : grown.gates = decision.gates ++ gates)
    (sameFindings : grown.findings = decision.findings ++ findings)
    (sameReasons : grown.reasons = decision.reasons ++ reasons)
    (few : gates.length ≤ 1 ∧ findings.length ≤ 1 ∧ reasons.length ≤ 1)
    (known : ∀ gate ∈ gates, isValidGateKind gate.kind.toByte.toNat = true)
    (readable : ∀ finding ∈ findings, finding.Readable) : grown.Listed (bound + 1) := by
  obtain ⟨gatesFit, oldGates, findingsFit, oldFindings, reasonsFit⟩ := listed
  constructor
  case gates =>
    intro gate inside
    rw [sameGates] at inside
    rcases List.mem_append.mp inside with old | new
    · exact oldGates gate old
    · exact known gate new
  case findings =>
    intro finding inside
    rw [sameFindings] at inside
    rcases List.mem_append.mp inside with old | new
    · exact oldFindings finding old
    · exact readable finding new
  all_goals
    simp only [sameGates, sameFindings, sameReasons, List.length_append]
    omega

theorem of_lists {other : PromotionDecision} (listed : decision.Listed bound)
    (gates : other.gates = decision.gates) (findings : other.findings = decision.findings)
    (reasons : other.reasons = decision.reasons) : other.Listed bound := by
  obtain ⟨gatesFit, known, findingsFit, readable, reasonsFit⟩ := listed
  rw [← gates] at gatesFit known
  rw [← findings] at findingsFit readable
  rw [← reasons] at reasonsFit
  exact ⟨gatesFit, known, findingsFit, readable, reasonsFit⟩

theorem addReason (listed : decision.Listed bound) (reason : Reason) :
    (decision.addReason reason).Listed (bound + 1) := by
  refine listed.extend (List.append_nil _).symm (List.append_nil _).symm rfl ?_ ?_ ?_
  · simp
  · simp
  · simp

theorem addGate (listed : decision.Listed bound) {explanation : GateExplanation}
    (known : isValidGateKind explanation.kind.toByte.toNat = true) :
    (decision.addGate explanation).Listed (bound + 1) := by
  refine listed.extend rfl (List.append_nil _).symm (List.append_nil _).symm ?_ ?_ ?_
  · simp
  · simpa using known
  · simp

theorem addUnregistered (listed : decision.Listed bound) {gate : Gate}
    (known : isValidGateKind gate.kind.toByte.toNat = true) (dependency : Text) :
    (decision.addUnregistered gate dependency).Listed (bound + 1) := by
  refine listed.extend rfl (List.append_nil _).symm rfl ?_ ?_ ?_
  · simp
  · simpa using known
  · simp

theorem addFailure (listed : decision.Listed bound) {gate : Gate}
    (known : isValidGateKind gate.kind.toByte.toNat = true) {found : GateFinding}
    (classed : ∀ record, found.referenced = some record → record.Classed) :
    (decision.addFailure gate found).Listed (bound + 1) := by
  unfold PromotionDecision.addFailure
  cases referenced : found.referenced with
  | none =>
      refine listed.extend rfl (List.append_nil _).symm rfl ?_ ?_ ?_
      · simp
      · simpa using known
      · simp
  | some record =>
      refine listed.extend rfl rfl rfl ?_ ?_ ?_
      · simp
      · simpa using known
      · simpa [EvidenceFinding.Readable, EvidenceRecord.Classed] using classed record referenced

end Listed

end PromotionDecision

theorem selectEvidenceForGate_referenced {evidence : List EvidenceRecord} {gate : Gate}
    {digest : Digest} {revision : ArtifactRevision} {record : EvidenceRecord}
    (referenced :
      (selectEvidenceForGate evidence gate digest revision).referenced = some record) :
    record ∈ evidence := by
  have selects := @selectEvidenceForGate_selects gate digest revision evidence
  rw [referenced] at selects
  exact selects.known

namespace GateContext

variable {context : GateContext} {gate : Gate} {record : EvidenceRecord}

theorem resolveGateEvidence_referenced
    (referenced : (context.resolveGateEvidence gate).referenced = some record) :
    record ∈ context.evidence := by
  unfold resolveGateEvidence at referenced
  split at referenced
  · cases referenced
  dsimp only at referenced
  split at referenced
  · exact selectEvidenceForGate_referenced referenced
  split at referenced
  · exact selectEvidenceForGate_referenced referenced
  split at referenced
  · exact selectEvidenceForGate_referenced referenced
  · exact selectEvidenceForGate_referenced referenced

theorem checkDependencies_referenced {dependencies : List Text} {found : GateFinding}
    (checked : context.checkDependencies dependencies = .ok found) : found.referenced = none := by
  induction dependencies with
  | nil =>
      cases checked
      rfl
  | cons dependency rest ih =>
      simp only [checkDependencies] at checked
      split at checked
      · cases checked
      · rename_i other answered
        split at checked
        · cases checked
          unfold checkDependency at answered
          dsimp only at answered
          split at answered
          · cases answered
          split at answered
          · cases answered
            rfl
          · cases answered
            rfl
        · exact ih checked

theorem checkEvidenceGate_referenced
    (referenced : (context.checkEvidenceGate gate).referenced = some record) :
    record ∈ context.evidence := by
  have resolved := @resolveGateEvidence_referenced context gate
  unfold checkEvidenceGate at referenced
  dsimp only at referenced
  split at referenced
  · exact resolved referenced
  split at referenced
  · cases referenced
  · rename_i held found
    have window : (context.checkValidityWindow held).referenced = some held := by
      unfold checkValidityWindow
      split <;> rfl
    have fresh : ((context.checkFreshness gate held).getD
        (context.checkValidityWindow held)).referenced = some held := by
      unfold checkFreshness
      dsimp only
      split
      · rfl
      split
      · rfl
      · exact window
    split at referenced
    · rw [fresh] at referenced
      cases referenced
      exact resolved found
    · rw [window] at referenced
      cases referenced
      exact resolved found

theorem checkGate_referenced {found : GateFinding} (checked : context.checkGate gate = .ok found)
    (referenced : found.referenced = some record) : record ∈ context.evidence := by
  have resolved := @resolveGateEvidence_referenced context gate
  have integrity (violates : context.checkEvidenceIntegrity.referenced = some record) :
      record ∈ context.evidence := by
    unfold checkEvidenceIntegrity at violates
    split at violates
    · rename_i held found
      cases violates
      exact List.mem_of_find?_eq_some found
    · cases violates
  have environment (differs : (context.checkEnvironment gate).referenced = some record) :
      record ∈ context.evidence := by
    unfold checkEnvironment at differs
    dsimp only at differs
    split at differs
    · exact resolved differs
    split at differs
    · cases differs
    rename_i held found
    split at differs
    · cases differs
      exact resolved found
    · cases differs
  have approval (misses : (context.checkApproval gate).referenced = some record) :
      record ∈ context.evidence := by
    unfold checkApproval at misses
    dsimp only at misses
    split at misses
    · cases misses
    split at misses
    · exact resolved misses
    · exact resolved misses
  unfold checkGate at checked
  split at checked
  case h_2 =>
    cases checked
    exact integrity referenced
  case h_9 =>
    cases checked
    exact environment referenced
  case h_10 =>
    rw [checkDependencies_referenced checked] at referenced
    cases referenced
  case h_11 =>
    cases checked
    exact approval referenced
  case h_17 | h_18 =>
    cases checked
    exact checkEvidenceGate_referenced referenced
  case h_1 | h_6 | h_7 | h_8 | h_14 | h_15 | h_16 =>
    cases checked
    simp only [checkArtifactIdentity, checkProvenanceRequired, checkProvenanceResolved,
      checkCompatibility, checkPolicyGeneration, checkCoordinatorEpoch, checkConflict] at referenced
    repeat' split at referenced
    all_goals cases referenced
  all_goals
    cases checked
    repeat' split at referenced
    all_goals cases referenced

end GateContext

section Evaluations

variable {config : EngineConfig} {state : CoordinatorState} {request : PromotionRequest}
  {now : UInt64} {decision : PromotionDecision} {bound : Nat}

theorem evaluateRequirements_listed {context : GateContext} {gates : List Gate}
    (classed : ∀ record ∈ context.evidence, record.Classed)
    (known : ∀ gate ∈ gates, isValidGateKind gate.kind.toByte.toNat = true) (result : GateOutcome)
    (listed : decision.Listed bound) :
    (evaluateRequirements context gates result decision).2.Listed (bound + gates.length) := by
  induction gates generalizing result decision bound with
  | nil => exact listed
  | cons gate rest ih =>
      obtain ⟨first, others⟩ := List.forall_mem_cons.mp known
      have longer : bound + (gate :: rest).length = bound + 1 + rest.length := by
        rw [List.length_cons]
        omega
      rw [longer]
      simp only [evaluateRequirements]
      cases checked : context.checkGate gate with
      | error dependency => exact (listed.addUnregistered first dependency).mono (by omega)
      | ok found =>
          dsimp only
          split
          · apply ih others
            apply listed.addFailure first
            intro record referenced
            exact classed record (GateContext.checkGate_referenced checked referenced)
          · apply ih others
            exact listed.addGate first

theorem evaluateRequirements_met {context : GateContext} {gates : List Gate}
    {result : GateOutcome}
    (passed : (evaluateRequirements context gates result decision).1.failed = false) :
    (evaluateRequirements context gates result decision).2.findings = decision.findings ∧
      (evaluateRequirements context gates result decision).2.reasons = decision.reasons := by
  have met := ((evaluateRequirements_failed context gates result decision).mp passed).2
  clear passed
  induction gates generalizing result decision with
  | nil => exact ⟨rfl, rfl⟩
  | cons gate rest ih =>
      obtain ⟨first, others⟩ := List.forall_mem_cons.mp met
      simp only [evaluateRequirements]
      cases checked : context.checkGate gate with
      | error dependency => simp [GateContext.satisfied, checked] at first
      | ok found =>
          have fine : found.code = .ok := by simpa [GateContext.satisfied, checked] using first
          simp only [fine, ne_eq, not_true_eq_false, if_false]
          exact ih others

theorem gatherEvidence_held {subject : ArtifactId} {revision : ArtifactRevision}
    {record : EvidenceRecord} (inside : record ∈ gatherEvidence state subject revision) :
    ∃ id : EvidenceId, state.evidence[id]? = some record := by
  have kept := List.mem_insertionSort _ |>.mp inside
  obtain ⟨entry, stored, rfl⟩ := List.mem_map.mp (List.mem_filter.mp kept).1
  exact ⟨entry.1, Std.ExtTreeMap.mem_toList_iff_getElem?_eq_some.mp stored⟩

theorem evaluateGates_listed (validated : state.policy.validate = some (.ok ()))
    (classed : ∀ (id : EvidenceId) (record : EvidenceRecord),
      state.evidence[id]? = some record → record.Classed)
    (listed : decision.Listed bound) :
    (evaluateGates config state request now decision).decision.Listed
      (bound + PolicyRule.kMaxGates) := by
  have small : bound + 1 ≤ bound + PolicyRule.kMaxGates := by simp [PolicyRule.kMaxGates]
  unfold evaluateGates
  cases state.findRevision request.artifact request.expectedRevision with
  | none => exact (listed.addReason _).mono small
  | some artifact =>
      have bound' : (decision.bindArtifact artifact request.requestedStage).Listed bound :=
        listed.of_lists rfl rfl rfl
      cases governed : state.policy.findRule artifact.kind artifact.stage
          request.requestedStage with
      | none =>
          simp only [governed]
          split
          · exact (bound'.addReason _).mono small
          · exact (bound'.addReason _).mono small
      | some rule =>
          obtain ⟨few, known⟩ := PromotionPolicy.findRule_gates validated governed
          simp only [governed]
          refine (evaluateRequirements_listed ?_ known {} ?_).mono (Nat.add_le_add_left few bound)
          · intro record inside
            obtain ⟨id, held⟩ := gatherEvidence_held inside
            exact classed id record held
          · exact bound'.of_lists rfl rfl rfl

theorem evaluateRequirements_placed {context : GateContext} {gates : List Gate}
    {result : GateOutcome} (placed : decision.Placed) :
    (evaluateRequirements context gates result decision).2.Placed := by
  obtain ⟨explanations, findings, reasons, same⟩ :=
    evaluateRequirements_decision context gates result decision
  obtain ⟨kind, source, target⟩ := placed
  rw [same]
  exact ⟨kind, source, target⟩

theorem evaluateRequirements_plan {context : GateContext} {gates : List Gate}
    {result : GateOutcome} :
    (evaluateRequirements context gates result decision).2.plan = decision.plan := by
  obtain ⟨explanations, findings, reasons, same⟩ :=
    evaluateRequirements_decision context gates result decision
  rw [same]

theorem evaluateGates_placed {artifact : ArtifactRecord}
    (found : state.findRevision request.artifact request.expectedRevision = some artifact)
    (known : artifact.Known) (target : isValidStageValue request.requestedStage.index = true) :
    (evaluateGates config state request now decision).decision.Placed := by
  unfold evaluateGates
  simp only [found]
  cases state.policy.findRule artifact.kind artifact.stage request.requestedStage with
  | none =>
      dsimp only
      split
      · exact ⟨known.kind, known.stage, target⟩
      · exact ⟨known.kind, known.stage, target⟩
  | some rule => exact evaluateRequirements_placed ⟨known.kind, known.stage, target⟩

theorem evaluateGates_plan :
    (evaluateGates config state request now decision).decision.plan = decision.plan := by
  unfold evaluateGates
  cases state.findRevision request.artifact request.expectedRevision with
  | none => rfl
  | some artifact =>
      cases governed : state.policy.findRule artifact.kind artifact.stage
          request.requestedStage with
      | none =>
          simp only [governed]
          split
          · rfl
          · rfl
      | some rule =>
          simp only [governed]
          exact evaluateRequirements_plan

theorem evaluateGates_met
    (passed : (evaluateGates config state request now decision).result.failed = false) :
    (evaluateGates config state request now decision).decision.findings = decision.findings ∧
      (evaluateGates config state request now decision).decision.reasons = decision.reasons := by
  unfold evaluateGates at passed ⊢
  cases found : state.findRevision request.artifact request.expectedRevision with
  | none => simp [found] at passed
  | some artifact =>
      cases governed : state.policy.findRule artifact.kind artifact.stage
          request.requestedStage with
      | none =>
          simp only [found, governed] at passed
          split at passed
          · simp at passed
          · simp at passed
      | some rule =>
          simp only [found, governed] at passed ⊢
          rw [GateEvaluation.conclude_failed] at passed
          exact evaluateRequirements_met passed

end Evaluations

end ArtifactPromotion
