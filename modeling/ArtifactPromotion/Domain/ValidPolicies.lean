import ArtifactPromotion.Domain.CanonicalGraphs

/-! What a policy that passes validation consists of, and when two policies count as equal. -/

namespace ArtifactPromotion

structure PolicyRule.Legal (rule : PolicyRule) : Prop where
  scope : rule.hasKindScope = true → isValidArtifactKind rule.kindScope.toByte.toNat = true
  requirementsFit : rule.requirements.length ≤ kMaxGates
  preferencesFit : rule.preferences.length ≤ kMaxGates
  ordering : isValidOrderingRule rule.ordering.toByte.toNat = true
  requirements : ∀ gate ∈ rule.requirements, gate.validate = .ok ()
  preferences : ∀ kind ∈ rule.preferences, isValidGateKind kind.toByte.toNat = true

theorem PolicyRule.validate_legal {rule : PolicyRule} (validated : rule.validate = .ok ()) :
    rule.Legal := by
  simp only [PolicyRule.validate, checkPreference, bind_eq_ok, rejectWhen_eq_ok, checkEach_eq_ok,
    decide_eq_false_iff_not, not_lt, Bool.not_eq_false', Bool.and_eq_false_imp] at validated
  obtain ⟨_, _, _, _, _, scope, _, requirementsFit, _, preferencesFit, _, ordering, _,
    requirements, preferences⟩ := validated
  exact ⟨scope, requirementsFit, preferencesFit, ordering, requirements, preferences⟩

theorem Gate.validate_kind {gate : Gate} (validated : gate.validate = .ok ()) :
    isValidGateKind gate.kind.toByte.toNat = true := by
  simp only [Gate.validate, bind_eq_ok, rejectWhen_eq_ok, Bool.not_eq_false'] at validated
  obtain ⟨_, known, _⟩ := validated
  exact known

namespace PromotionPolicy

variable {policy : PromotionPolicy}

theorem validate_eq_ok (policy : PromotionPolicy) :
    policy.validate = some (.ok ()) ↔ policy.checkHeader = .ok () ∧
      policy.graph.validate policy.entryStage = some (.ok ()) ∧
      checkEach (checkRule policy.graph) policy.rules = .ok () ∧ policy.rules.isEmpty = false := by
  unfold validate
  cases header : policy.checkHeader with
  | error status => simp
  | ok done =>
      cases shaped : policy.graph.validate policy.entryStage with
      | none => simp
      | some verdict =>
          cases verdict with
          | error status => simp
          | ok done =>
              simp only [true_and, Option.some.injEq, bind_eq_ok, rejectWhen_eq_ok]
              exact ⟨fun checked => ⟨checked.choose_spec.1, checked.choose_spec.2⟩,
                fun checked => ⟨(), checked⟩⟩

theorem rules_fit (validated : policy.validate = some (.ok ())) :
    policy.rules.length ≤ kMaxRules := by
  obtain ⟨header, _⟩ := (validate_eq_ok policy).mp validated
  simp only [checkHeader, bind_eq_ok, rejectWhen_eq_ok, decide_eq_false_iff_not, not_lt] at header
  obtain ⟨_, _, _, _, _, _, few⟩ := header
  exact few

theorem validate_graph (validated : policy.validate = some (.ok ())) :
    policy.graph.Shaped policy.entryStage :=
  LifecycleGraph.validate_shaped ((validate_eq_ok policy).mp validated).2.1

theorem validate_rules (validated : policy.validate = some (.ok ())) {rule : PolicyRule}
    (inside : rule ∈ policy.rules) :
    rule.Legal ∧ policy.graph.hasEdge rule.source rule.target = true := by
  obtain ⟨_, _, checked, _⟩ := (validate_eq_ok policy).mp validated
  have legal := (checkEach_eq_ok _ _ ()).mp checked rule inside
  simp only [checkRule, bind_eq_ok, rejectWhen_eq_ok, Bool.not_eq_false'] at legal
  obtain ⟨_, valid, edge⟩ := legal
  exact ⟨PolicyRule.validate_legal valid, edge⟩

theorem findRule_edge (validated : policy.validate = some (.ok ())) {kind : ArtifactKind}
    {source target : Stage} {rule : PolicyRule}
    (found : policy.findRule kind source target = some rule) :
    policy.graph.hasEdge source target = true := by
  have covers := List.find?_some found
  simp only [PolicyRule.covers, Bool.and_eq_true, beq_iff_eq] at covers
  have edge := (validate_rules validated (List.mem_of_find?_eq_some found)).2
  rw [covers.1.1, covers.1.2] at edge
  exact edge

theorem entryStage_known (validated : policy.validate = some (.ok ())) :
    isValidStageValue policy.entryStage.index = true :=
  LifecycleGraph.validate_entry ((validate_eq_ok policy).mp validated).2.1

theorem edge_known (validated : policy.validate = some (.ok ())) {source target : Stage}
    (edge : policy.graph.hasEdge source target = true) :
    isValidStageValue source.index = true ∧ isValidStageValue target.index = true := by
  obtain ⟨found, inside, same⟩ := List.any_eq_true.mp edge
  simp only [Bool.and_eq_true, beq_iff_eq] at same
  have known := (validate_graph validated).stages found inside
  rw [same.1, same.2] at known
  exact known

theorem findRule_gates (validated : policy.validate = some (.ok ())) {kind : ArtifactKind}
    {source target : Stage} {rule : PolicyRule}
    (governed : policy.findRule kind source target = some rule) :
    rule.requirements.length ≤ PolicyRule.kMaxGates ∧
      ∀ gate ∈ rule.requirements, isValidGateKind gate.kind.toByte.toNat = true := by
  have legal := (validate_rules validated (List.mem_of_find?_eq_some governed)).1
  exact ⟨legal.requirementsFit, fun gate inside => Gate.validate_kind (legal.requirements gate inside)⟩

/-- `operator==`: the name, the description and the digest do not count. -/
def equals (left right : PromotionPolicy) : Bool :=
  left.id == right.id && left.generation == right.generation &&
    left.entryStage == right.entryStage && left.rules == right.rules && left.graph == right.graph

theorem equals_iff {left right : PromotionPolicy} : left.equals right = true ↔
    left.id = right.id ∧ left.generation = right.generation ∧
      left.entryStage = right.entryStage ∧ left.rules = right.rules ∧ left.graph = right.graph := by
  simp only [equals, Bool.and_eq_true, beq_iff_eq, and_assoc]

theorem equals_digestPreimage {left right : PromotionPolicy} (same : left.equals right = true) :
    left.digestPreimage = right.digestPreimage := by
  obtain ⟨id, generation, entryStage, rules, graph⟩ := equals_iff.mp same
  simp only [digestPreimage, id, generation, entryStage, rules, graph]

end PromotionPolicy

end ArtifactPromotion
