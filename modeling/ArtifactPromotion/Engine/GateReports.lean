import ArtifactPromotion.Engine.Explanations

/-! What one evaluation of a rule's gates reports: an explanation for each gate, in declared order,
up to the first one that meets an unregistered dependency, and the outcome of the first failure. -/

namespace ArtifactPromotion

open Runs

structure Gate.ExplainedBy (gate : Gate) (explanation : GateExplanation) : Prop where
  kind : explanation.kind = gate.kind
  label : explanation.label = gate.label

def firstFailure (explanations : List GateExplanation) : Option GateExplanation :=
  explanations.find? fun explanation => explanation.status != .satisfied

def outcomeOfFailure : Option GateExplanation → PromotionOutcome
  | none => .promotionEligible
  | some first => outcomeForRequirement (gateErrorCode first.kind first.code)

namespace GateContext

variable {context : GateContext} {gate : Gate} {gates : List Gate}

def MeetsUnregistered (context : GateContext) (gate : Gate) : Prop :=
  ∃ dependency, context.checkGate gate = .error dependency

/-- The newest revisions that carry the name of a dependency. -/
def Named (context : GateContext) (name : Text) (record : ArtifactRecord) : Prop :=
  ∃ (id : ArtifactId) (chain : List ArtifactRecord), context.state.artifacts[id]? = some chain ∧
    chain.getLast? = some record ∧ record.name = name

theorem named_iff {name : Text} {record : ArtifactRecord} : context.Named name record ↔
    record ∈ (context.state.artifacts.toList.filterMap fun entry => entry.2.getLast?).filter
      fun record => record.name == name := by
  simp only [List.mem_filter, List.mem_filterMap, beq_iff_eq, Prod.exists]
  constructor
  · rintro ⟨id, chain, held, last, named⟩
    exact ⟨⟨id, chain, Std.ExtTreeMap.mem_toList_iff_getElem?_eq_some.mpr held, last⟩, named⟩
  · rintro ⟨⟨id, chain, listed, last⟩, named⟩
    exact ⟨id, chain, Std.ExtTreeMap.mem_toList_iff_getElem?_eq_some.mp listed, last, named⟩

theorem checkDependency_none {name : Text} :
    context.checkDependency name = none ↔ ∀ record, ¬context.Named name record := by
  simp only [named_iff, checkDependency]
  split
  · rename_i empty
    simp [List.isEmpty_iff.mp empty]
  · rename_i held
    simp only [List.isEmpty_iff] at held
    obtain ⟨record, inside⟩ := List.exists_mem_of_ne_nil _ held
    have found : ¬∀ record, record ∉ (context.state.artifacts.toList.filterMap
        fun entry => entry.2.getLast?).filter fun record => record.name == name :=
      fun none => none record inside
    split
    · exact iff_of_false (Option.some_ne_none _) found
    · exact iff_of_false (Option.some_ne_none _) found

theorem checkDependency_clear {name : Text} :
    (∃ found, context.checkDependency name = some found ∧ found.code = .ok) ↔
      (∃ record, context.Named name record) ∧
        ∀ record, context.Named name record → record.currentlyAuthoritative = true := by
  simp only [named_iff, checkDependency]
  generalize (context.state.artifacts.toList.filterMap fun entry => entry.2.getLast?).filter
    (fun record => record.name == name) = named
  by_cases empty : named.isEmpty = true
  · simp [List.isEmpty_iff.mp empty]
  · obtain ⟨record, inside⟩ := List.exists_mem_of_ne_nil named (by simpa using empty)
    by_cases unpromoted : (named.any fun record => !record.currentlyAuthoritative) = true
    · obtain ⟨other, listed, stands⟩ := List.any_eq_true.mp unpromoted
      rw [if_neg empty, if_pos unpromoted]
      constructor
      · rintro ⟨found, same, clear⟩
        cases same
        cases clear
      · intro promoted
        rw [promoted.2 other listed] at stands
        cases stands
    · rw [if_neg empty, if_neg unpromoted]
      refine ⟨fun _ => ⟨⟨record, inside⟩, fun other listed => ?_⟩, fun _ => ⟨{}, rfl, rfl⟩⟩
      by_contra stands
      exact unpromoted (List.any_eq_true.mpr ⟨other, listed, by simpa using stands⟩)

theorem checkDependencies_error {names : List Text} :
    (∃ name, context.checkDependencies names = .error name) ↔
      ∃ before name after, names = before ++ name :: after ∧
        (∀ earlier ∈ before, (∃ record, context.Named earlier record) ∧
          ∀ record, context.Named earlier record → record.currentlyAuthoritative = true) ∧
        ∀ record, ¬context.Named name record := by
  induction names with
  | nil => simp [checkDependencies]
  | cons first rest ih =>
      rw [checkDependencies]
      cases checked : context.checkDependency first with
      | none =>
          have unnamed := checkDependency_none.mp checked
          exact iff_of_true ⟨first, rfl⟩ ⟨[], first, rest, rfl, by simp, unnamed⟩
      | some found =>
          have named : ¬∀ record, ¬context.Named first record := by
            rw [← checkDependency_none, checked]
            exact Option.some_ne_none _
          by_cases clear : found.code = .ok
          · simp only [clear, ne_eq, not_true_eq_false, if_false, ih]
            have promoted := checkDependency_clear.mp ⟨found, checked, clear⟩
            constructor
            · rintro ⟨before, name, after, rfl, earlier, unnamed⟩
              exact ⟨first :: before, name, after, rfl,
                List.forall_mem_cons.mpr ⟨promoted, earlier⟩, unnamed⟩
            · rintro ⟨before, name, after, split, earlier, unnamed⟩
              cases before with
              | nil =>
                  obtain ⟨rfl, rfl⟩ := List.cons.inj split
                  exact absurd unnamed named
              | cons other before =>
                  obtain ⟨rfl, rfl⟩ := List.cons.inj split
                  exact ⟨before, name, after, rfl, (List.forall_mem_cons.mp earlier).2, unnamed⟩
          · simp only [ne_eq, clear, not_false_eq_true, if_true, reduceCtorEq, exists_false,
              false_iff]
            rintro ⟨before, name, after, split, earlier, unnamed⟩
            cases before with
            | nil =>
                obtain ⟨rfl, rfl⟩ := List.cons.inj split
                exact named unnamed
            | cons other before =>
                obtain ⟨rfl, rfl⟩ := List.cons.inj split
                obtain ⟨same, recorded, passes⟩ :=
                  checkDependency_clear.mpr (List.forall_mem_cons.mp earlier).1
                rw [checked] at recorded
                cases recorded
                exact clear passes

/-- Only the dependency gate meets one, when no artifact has the name of a dependency and all those
before it name promoted artifacts only. -/
theorem meetsUnregistered_iff : context.MeetsUnregistered gate ↔
    gate.kind = .dependentArtifactPromoted ∧ ∃ before name after,
      context.artifact.dependencies = before ++ name :: after ∧
      (∀ earlier ∈ before, (∃ record, context.Named earlier record) ∧
        ∀ record, context.Named earlier record → record.currentlyAuthoritative = true) ∧
      ∀ record, ¬context.Named name record := by
  rw [← checkDependencies_error, MeetsUnregistered, checkGate]
  cases gate.kind <;> simp

def explanationOf (context : GateContext) (gate : Gate) : GateExplanation :=
  match context.checkGate gate with
  | .error dependency =>
      { kind := gate.kind, label := gate.label, status := .unknown, code := .orderingViolation
        detail := text "dependency '" ++ dependency ++ text "' has never been registered" }
  | .ok found =>
      if found.code ≠ .ok then
        { kind := gate.kind, label := gate.label
          status := if found.code = .evidenceMissing || found.code = .provenanceMissing then .unknown
            else .failed
          code := found.code, detail := found.detail }
      else { kind := gate.kind, label := gate.label, status := .satisfied }

def lookedAt (context : GateContext) : List Gate → List Gate
  | [] => []
  | gate :: rest =>
      match context.checkGate gate with
      | .error _ => [gate]
      | .ok _ => gate :: lookedAt context rest

theorem explanationOf_explains : gate.ExplainedBy (context.explanationOf gate) := by
  unfold explanationOf
  split
  · exact ⟨rfl, rfl⟩
  · split
    · exact ⟨rfl, rfl⟩
    · exact ⟨rfl, rfl⟩

theorem explanationOf_satisfied :
    (context.explanationOf gate).status = .satisfied ↔ context.satisfied gate = true := by
  unfold explanationOf satisfied
  cases context.checkGate gate with
  | error dependency => simp
  | ok found =>
      by_cases met : found.code = .ok
      · simp [met]
      · by_cases missing : found.code = .evidenceMissing ∨ found.code = .provenanceMissing
        · simp [met, missing]
        · simp [met, missing]

theorem evaluateRequirements_gates (result : GateOutcome) (decision : PromotionDecision) :
    (evaluateRequirements context gates result decision).2.gates =
      decision.gates ++ (context.lookedAt gates).map context.explanationOf := by
  induction gates generalizing result decision with
  | nil => simp [evaluateRequirements, lookedAt]
  | cons gate rest ih =>
      unfold evaluateRequirements lookedAt
      cases checked : context.checkGate gate with
      | error dependency =>
          simp [explanationOf, checked, PromotionDecision.addUnregistered,
            PromotionDecision.addGate, PromotionDecision.addReason]
      | ok found =>
          by_cases met : found.code = .ok
          · simp [met, ih, explanationOf, checked, PromotionDecision.addGate]
          · have appended : (decision.addFailure gate found).gates =
                decision.gates ++ [context.explanationOf gate] := by
              unfold PromotionDecision.addFailure
              cases found.referenced <;> simp [explanationOf, checked, met,
                PromotionDecision.addGate, PromotionDecision.addReason]
            simp [met, ih, appended]

end GateContext

inductive GateReport (context : GateContext) (requirements : List Gate) :
    List GateExplanation → GateOutcome → Prop
  | complete {explanations result}
      (registered : ∀ gate ∈ requirements, ¬context.MeetsUnregistered gate)
      (explained : List.Forall₂ Gate.ExplainedBy requirements explanations)
      (failed : result.failed = true ↔ ∃ explanation ∈ explanations,
        explanation.status ≠ .satisfied)
      (outcome : result.outcome = outcomeOfFailure (firstFailure explanations)) :
      GateReport context requirements explanations result
  /-- A gate met an unregistered dependency: the gates after it are not looked at, and it decides
  the outcome whatever failed before. -/
  | stopped {before gate after explanations last}
      (split : requirements = before ++ gate :: after)
      (registered : ∀ earlier ∈ before, ¬context.MeetsUnregistered earlier)
      (unregistered : context.MeetsUnregistered gate)
      (explained : List.Forall₂ Gate.ExplainedBy before explanations)
      (explains : gate.ExplainedBy last) (unknown : last.status = .unknown)
      (code : last.code = .orderingViolation) :
      GateReport context requirements (explanations ++ [last]) ⟨.provenanceMissing, true⟩

namespace GateContext

variable {context : GateContext} {gate : Gate} {gates : List Gate}

theorem explained_each (gates : List Gate) :
    List.Forall₂ Gate.ExplainedBy gates (gates.map context.explanationOf) := by
  induction gates with
  | nil => exact .nil
  | cons gate rest ih => exact .cons explanationOf_explains ih

theorem lookedAt_registered (registered : ∀ gate ∈ gates, ¬context.MeetsUnregistered gate) :
    context.lookedAt gates = gates := by
  induction gates with
  | nil => rfl
  | cons gate rest ih =>
      unfold lookedAt
      cases checked : context.checkGate gate with
      | error dependency => exact absurd ⟨dependency, checked⟩ (registered gate List.mem_cons_self)
      | ok found => rw [ih fun other inside => registered other (List.mem_cons_of_mem _ inside)]

theorem evaluateRequirements_registered (result : GateOutcome) (decision : PromotionDecision)
    (registered : ∀ gate ∈ gates, ¬context.MeetsUnregistered gate) :
    (evaluateRequirements context gates result decision).1 =
      if result.failed then result
      else match firstFailure (gates.map context.explanationOf) with
        | none => result
        | some first => ⟨outcomeOfFailure (some first), true⟩ := by
  induction gates generalizing result decision with
  | nil => simp [evaluateRequirements, firstFailure]
  | cons gate rest ih =>
      have later := fun result decision => ih result decision fun other inside =>
        registered other (List.mem_cons_of_mem _ inside)
      unfold evaluateRequirements
      cases checked : context.checkGate gate with
      | error dependency => exact absurd ⟨dependency, checked⟩ (registered gate List.mem_cons_self)
      | ok found =>
          by_cases met : found.code = .ok
          · have passed : (context.explanationOf gate).status = .satisfied := by
              simp [explanationOf, checked, met]
            simp [met, later, firstFailure, passed]
          · have failed : (context.explanationOf gate).status ≠ .satisfied := by
              rw [Ne, explanationOf_satisfied]
              simp [satisfied, checked, met]
            have code : (context.explanationOf gate).code = found.code := by
              simp [explanationOf, checked, met]
            have kind : (context.explanationOf gate).kind = gate.kind := explanationOf_explains.kind
            by_cases before : result.failed = true
            · simp [met, later, before]
            · simp [met, later, before, firstFailure, failed, outcomeOfFailure, code, kind]

theorem evaluateRequirements_stopped {before after : List Gate} (result : GateOutcome)
    (decision : PromotionDecision)
    (registered : ∀ earlier ∈ before, ¬context.MeetsUnregistered earlier)
    (unregistered : context.MeetsUnregistered gate) :
    (evaluateRequirements context (before ++ gate :: after) result decision).1 =
        ⟨.provenanceMissing, true⟩ ∧
      context.lookedAt (before ++ gate :: after) = before ++ [gate] := by
  induction before generalizing result decision with
  | nil =>
      obtain ⟨dependency, checked⟩ := unregistered
      simp [evaluateRequirements, lookedAt, checked]
  | cons first rest ih =>
      have later := fun result decision => ih result decision fun other inside =>
        registered other (List.mem_cons_of_mem _ inside)
      simp only [List.cons_append, evaluateRequirements, lookedAt]
      cases checked : context.checkGate first with
      | error dependency =>
          exact absurd ⟨dependency, checked⟩ (registered first List.mem_cons_self)
      | ok found =>
          refine ⟨?_, by rw [(later {} decision).2]⟩
          by_cases met : found.code = .ok
          · simp [met, later]
          · simp [met, later]

theorem first_unregistered (context : GateContext) (gates : List Gate) :
    (∀ gate ∈ gates, ¬context.MeetsUnregistered gate) ∨
      ∃ before gate after, gates = before ++ gate :: after ∧
        (∀ earlier ∈ before, ¬context.MeetsUnregistered earlier) ∧
        context.MeetsUnregistered gate := by
  induction gates with
  | nil => exact .inl (by simp)
  | cons gate rest ih =>
      by_cases met : context.MeetsUnregistered gate
      · exact .inr ⟨[], gate, rest, rfl, by simp, met⟩
      · rcases ih with registered | ⟨before, stop, after, rfl, registered, unregistered⟩
        · exact .inl (by simpa [met] using registered)
        · exact .inr ⟨gate :: before, stop, after, rfl, by simpa [met] using registered,
            unregistered⟩

end GateContext

variable {config : EngineConfig} {state : CoordinatorState} {request : PromotionRequest}
  {now : UInt64} {decision : PromotionDecision} {artifact : ArtifactRecord} {rule : PolicyRule}

theorem evaluateGates_governed
    (found : state.findRevision request.artifact request.expectedRevision = some artifact)
    (governed : state.policy.findRule artifact.kind artifact.stage request.requestedStage =
      some rule) :
    let context : GateContext := ⟨config, state, request, now, artifact, decision.policyGeneration⟩
    ∃ bound : PromotionDecision, bound.gates = decision.gates ∧
      (evaluateGates config state request now decision).decision =
        (evaluateRequirements context rule.requirements {} bound).2 ∧
      (evaluateGates config state request now decision).result =
        if (evaluateRequirements context rule.requirements {} bound).1.failed then
          (evaluateRequirements context rule.requirements {} bound).1
        else ⟨.promotionEligible, false⟩ := by
  intro context
  unfold evaluateGates
  simp only [found, governed, GateEvaluation.conclude]
  exact ⟨{ decision.bindArtifact artifact request.requestedStage with
    evidenceSnapshotDigest := computeSnapshotDigest artifact.id artifact.revision artifact.digest
      (snapshotEntries state artifact.id artifact.revision) }, rfl, rfl, rfl⟩

theorem evaluateGates_explanations
    (found : state.findRevision request.artifact request.expectedRevision = some artifact)
    (governed : state.policy.findRule artifact.kind artifact.stage request.requestedStage =
      some rule) :
    let context : GateContext := ⟨config, state, request, now, artifact, decision.policyGeneration⟩
    (evaluateGates config state request now decision).decision.gates =
      decision.gates ++ (context.lookedAt rule.requirements).map context.explanationOf := by
  intro context
  obtain ⟨bound, gates, decided, _⟩ := @evaluateGates_governed config _ _ now decision _ _
    found governed
  rw [decided, GateContext.evaluateRequirements_gates, gates]

theorem evaluateGates_reports
    (found : state.findRevision request.artifact request.expectedRevision = some artifact)
    (governed : state.policy.findRule artifact.kind artifact.stage request.requestedStage =
      some rule) :
    ∃ explanations, (evaluateGates config state request now decision).decision.gates =
        decision.gates ++ explanations ∧
      GateReport ⟨config, state, request, now, artifact, decision.policyGeneration⟩
        rule.requirements explanations (evaluateGates config state request now decision).result := by
  obtain ⟨bound, gates, decided, result⟩ := @evaluateGates_governed config _ _ now decision _ _
    found governed
  generalize (⟨config, state, request, now, artifact, decision.policyGeneration⟩ : GateContext) =
    context at decided result ⊢
  rw [decided, result, GateContext.evaluateRequirements_gates, gates]
  refine ⟨_, rfl, ?_⟩
  rcases context.first_unregistered rule.requirements with registered |
    ⟨before, gate, after, split, registered, unregistered⟩
  · rw [GateContext.lookedAt_registered registered,
      GateContext.evaluateRequirements_registered _ _ registered]
    simp only [Bool.false_eq_true, if_false]
    refine .complete registered (GateContext.explained_each _) ?_ ?_
    · cases first : firstFailure (rule.requirements.map context.explanationOf) with
      | none => simpa [firstFailure] using first
      | some failure =>
          have inside := List.mem_of_find?_eq_some first
          have failed := List.find?_some first
          simp only [if_true, true_iff]
          exact ⟨failure, inside, by simpa using failed⟩
    · cases first : firstFailure (rule.requirements.map context.explanationOf) with
      | none => rfl
      | some failure => rfl
  · obtain ⟨outcome, looked⟩ := @GateContext.evaluateRequirements_stopped context gate before after
      {} bound registered unregistered
    rw [split, outcome, looked, List.map_append, List.map_singleton, if_pos rfl]
    obtain ⟨dependency, checked⟩ := unregistered
    refine .stopped rfl registered ⟨dependency, checked⟩ (GateContext.explained_each _)
      GateContext.explanationOf_explains ?_ ?_
    · simp [GateContext.explanationOf, checked]
    · simp [GateContext.explanationOf, checked]

namespace Engine

def dependentPolicy : PromotionPolicy :=
  { directPolicy with
    rules := [{ source := .candidate, target := .promoted, requirements :=
      [makeEvidenceGate .buildPass "build", makeSimpleGate .dependentArtifactPromoted "dependencies",
        makeSimpleGate .securityVetoClear "no security veto"] }] }

def dependentChoices : List (Engine → Op) :=
  [fun _ => .publishPolicy dependentPolicy,
    fun _ => .registerArtifact { sampleRegistration 1 with dependencies := [text "missing"] } 0]

def sampleEvaluation (engine : Engine) : GateEvaluation :=
  evaluateGates engine.config engine.state (engine.sampleRequest .promoted 1) 0 {}

def asksUnderRule (gates : Nat) (engine : Engine) : Bool :=
  (engine.state.findRevision ⟨0, 5⟩ (engine.sampleRequest .promoted 1).expectedRevision).any
    fun artifact => (engine.state.policy.findRule artifact.kind artifact.stage .promoted).any
      fun rule => rule.requirements.length == gates

theorem asksUnderRule_governed {gates : Nat} {engine : Engine}
    (asks : asksUnderRule gates engine = true) : ∃ artifact rule,
      engine.state.findRevision (engine.sampleRequest .promoted 1).artifact
        (engine.sampleRequest .promoted 1).expectedRevision = some artifact ∧
      engine.state.policy.findRule artifact.kind artifact.stage
        (engine.sampleRequest .promoted 1).requestedStage = some rule ∧
      rule.requirements.length = gates := by
  simp only [asksUnderRule, Option.any_eq_true, beq_iff_eq] at asks
  obtain ⟨artifact, found, rule, governed, counted⟩ := asks
  exact ⟨artifact, rule, found, governed, counted⟩

def independentChoices : List (Engine → Op) :=
  [fun _ => .publishPolicy dependentPolicy,
    fun _ => .registerArtifact (sampleRegistration 1) 0]

def explainsEveryGate (engine : Engine) : Bool :=
  asksUnderRule 3 engine && engine.sampleEvaluation.decision.gates.length == 3 &&
    engine.sampleEvaluation.result == ⟨.evidenceMissing, true⟩

theorem evaluateGates_reports_registered :
    ∃ (engine : Engine) (artifact : ArtifactRecord) (rule : PolicyRule)
      (explanations : List GateExplanation), Reachable engine ∧ rule.requirements.length = 3 ∧
      explanations.length = 3 ∧ engine.sampleEvaluation.result = ⟨.evidenceMissing, true⟩ ∧
      GateReport ⟨engine.config, engine.state, engine.sampleRequest .promoted 1, 0, artifact, {}⟩
        rule.requirements explanations engine.sampleEvaluation.result := by
  have evaluated : ((play step sampleEngine independentChoices).any fun played =>
      explainsEveryGate played.2) = true := by
    decide +kernel
  obtain ⟨engine, reachable, checked⟩ :=
    Reachable.of_play explainsEveryGate sampleEngine_constructed evaluated
  simp only [explainsEveryGate, Bool.and_eq_true, beq_iff_eq] at checked
  obtain ⟨⟨asks, explained⟩, failed⟩ := checked
  obtain ⟨artifact, rule, found, governed, counted⟩ := asksUnderRule_governed asks
  obtain ⟨explanations, appended, report⟩ := @evaluateGates_reports engine.config engine.state
    (engine.sampleRequest .promoted 1) 0 {} artifact rule found governed
  have every : engine.sampleEvaluation.decision.gates = explanations := appended
  exact ⟨engine, artifact, rule, explanations, reachable, counted, every ▸ explained, failed,
    report⟩

def stopsAtDependency (engine : Engine) : Bool :=
  asksUnderRule 3 engine && engine.sampleEvaluation.decision.gates.length == 2 &&
    engine.sampleEvaluation.result.outcome !=
      outcomeOfFailure (firstFailure engine.sampleEvaluation.decision.gates)

theorem unregistered_dependency_stops :
    ∃ (engine : Engine) (artifact : ArtifactRecord) (rule : PolicyRule), Reachable engine ∧
      engine.state.findRevision (engine.sampleRequest .promoted 1).artifact
        (engine.sampleRequest .promoted 1).expectedRevision = some artifact ∧
      engine.state.policy.findRule artifact.kind artifact.stage
        (engine.sampleRequest .promoted 1).requestedStage = some rule ∧
      engine.sampleEvaluation.decision.gates.length < rule.requirements.length ∧
      engine.sampleEvaluation.result.outcome ≠
        outcomeOfFailure (firstFailure engine.sampleEvaluation.decision.gates) := by
  have evaluated : ((play step sampleEngine dependentChoices).any fun played =>
      stopsAtDependency played.2) = true := by
    decide +kernel
  obtain ⟨engine, reachable, checked⟩ :=
    Reachable.of_play stopsAtDependency sampleEngine_constructed evaluated
  simp only [stopsAtDependency, Bool.and_eq_true, beq_iff_eq, bne_iff_ne] at checked
  obtain ⟨⟨asks, explained⟩, outcome⟩ := checked
  obtain ⟨artifact, rule, found, governed, counted⟩ := asksUnderRule_governed asks
  exact ⟨engine, artifact, rule, reachable, found, governed, by omega, outcome⟩

end Engine

end ArtifactPromotion
