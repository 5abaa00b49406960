import ArtifactPromotion.Core.WrittenFields
import ArtifactPromotion.Domain.ValidPolicies

/-! What the digest of a policy tells apart. The gates of a rule can be told from its preferences,
but the preferences carry no count and can be read as the next rule, and long texts are cut. -/

namespace ArtifactPromotion

open Delimiting

namespace Gate

def clipped (gate : Gate) : Gate :=
  { gate with
    customEvidenceType := gate.customEvidenceType.take kMaxNameLength
    requiredEnvironment := gate.requiredEnvironment.take kMaxTextLength
    label := gate.label.take kMaxNameLength }

def cutOff (gate : Gate) : List Text :=
  [gate.customEvidenceType.drop kMaxNameLength, gate.requiredEnvironment.drop kMaxTextLength,
    gate.label.drop kMaxNameLength]

theorem eq_of_clipped {left right : Gate} (seen : left.clipped = right.clipped)
    (unseen : left.cutOff = right.cutOff) : left = right := by
  cases left
  cases right
  simp only [clipped, cutOff, Gate.mk.injEq, List.cons.injEq, and_true] at seen unseen ⊢
  obtain ⟨kind, evidenceType, custom, maxAge, generation, environment, provenance, label⟩ := seen
  obtain ⟨customEnd, environmentEnd, labelEnd⟩ := unseen
  have joined {first second : Text} {limit : Nat} (start : first.take limit = second.take limit)
      (rest : first.drop limit = second.drop limit) : first = second := by
    rw [← List.take_append_drop limit first, start, rest, List.take_append_drop]
  exact ⟨kind, evidenceType, joined custom customEnd, maxAge, generation,
    joined environment environmentEnd, provenance, joined label labelEnd⟩

end Gate

namespace PromotionPolicy

open Writer

theorem encodeGate_delimited : Delimited encodeGate Gate.clipped := by
  have fields := (u8_delimited GateKind.ofByte GateKind.ofByte_toByte).comp Gate.kind
    |>.append ((u8_delimited EvidenceType.ofByte EvidenceType.ofByte_toByte).comp Gate.evidenceType)
    |>.append ((text_delimited (show kMaxNameLength < UInt32.size by decide)).comp
      Gate.customEvidenceType)
    |>.append (u64_delimited.comp Gate.maxAgeMillis)
    |>.append (counter_delimited.comp Gate.requiredCompatibilityGeneration)
    |>.append ((text_delimited (show kMaxTextLength < UInt32.size by decide)).comp
      Gate.requiredEnvironment)
    |>.append (identity_delimited.comp Gate.requiredProvenance)
    |>.append ((text_delimited (show kMaxNameLength < UInt32.size by decide)).comp Gate.label)
  intro first second rest other same
  obtain ⟨seen, same⟩ := fields first second rest other same
  refine ⟨?_, same⟩
  simp only [Prod.mk.injEq] at seen
  obtain ⟨⟨⟨⟨⟨⟨⟨kind, evidenceType⟩, custom⟩, maxAge⟩, generation⟩, environment⟩, provenance⟩, label⟩ :=
    seen
  simp only [Gate.clipped, Gate.mk.injEq]
  exact ⟨kind, evidenceType, custom, maxAge, generation, environment, provenance, label⟩

def encodeScope (rule : PolicyRule) : ByteBuffer :=
  Writer.boolean rule.hasKindScope ++ Writer.u8 rule.kindScope.toByte ++
    Writer.u8 rule.source.toByte ++ Writer.u8 rule.target.toByte ++
    Writer.u8 rule.ordering.toByte ++ Writer.boolean rule.allowIdempotentReplay ++
    Writer.boolean rule.allowRollbackEligibility ++ Writer.boolean rule.supersedesPrevious

def encodePreferences (rule : PolicyRule) : ByteBuffer :=
  rule.preferences.flatMap fun kind => Writer.u8 kind.toByte

theorem encodeRule_eq (rule : PolicyRule) : encodeRule rule =
    encodeScope rule ++ (rule.requirements.flatMap encodeGate ++ encodePreferences rule) := by
  rw [← List.append_assoc]
  rfl

def scopeOf (rule : PolicyRule) : PolicyRule := { rule with requirements := [], preferences := [] }

theorem encodeScope_delimited : Delimited encodeScope scopeOf := by
  have fields := (boolean_delimited.comp PolicyRule.hasKindScope)
    |>.append ((u8_delimited ArtifactKind.ofByte ArtifactKind.ofByte_toByte).comp
      PolicyRule.kindScope)
    |>.append ((u8_delimited Stage.ofByte Stage.ofByte_toByte).comp PolicyRule.source)
    |>.append ((u8_delimited Stage.ofByte Stage.ofByte_toByte).comp PolicyRule.target)
    |>.append ((u8_delimited OrderingRule.ofByte OrderingRule.ofByte_toByte).comp
      PolicyRule.ordering)
    |>.append (boolean_delimited.comp PolicyRule.allowIdempotentReplay)
    |>.append (boolean_delimited.comp PolicyRule.allowRollbackEligibility)
    |>.append (boolean_delimited.comp PolicyRule.supersedesPrevious)
  intro first second rest other same
  obtain ⟨seen, same⟩ := fields first second rest other same
  refine ⟨?_, same⟩
  simp only [Prod.mk.injEq] at seen
  obtain ⟨⟨⟨⟨⟨⟨⟨restricted, kind⟩, source⟩, target⟩, ordering⟩, replay⟩, rollback⟩, supersedes⟩ := seen
  simp only [scopeOf, PolicyRule.mk.injEq, true_and]
  exact ⟨restricted, kind, source, target, ordering, replay, rollback, supersedes⟩

/-- The rule as a legal one on a graph has it: its stages and preferences are known ones. -/
structure Ruled (rule : PolicyRule) : Prop where
  source : rule.source.toByte ≠ 0
  target : rule.target.toByte ≠ 0
  preferences : ∀ kind ∈ rule.preferences, kind.toByte ≠ 0

theorem encodeGate_zeros (gate : Gate) (more : ByteBuffer) :
    (encodeGate gate ++ more)[3]? = some 0 ∧ (encodeGate gate ++ more)[4]? = some 0 ∧
      (encodeGate gate ++ more)[5]? = some 0 := by
  have small : (gate.customEvidenceType.take kMaxNameLength).length < 256 :=
    lt_of_le_of_lt (List.length_take_le _ _) (by decide)
  obtain ⟨low, length⟩ := u32_small small
  have start : ∃ rest, encodeGate gate ++ more =
      [gate.kind.toByte, gate.evidenceType.toByte, low, 0, 0, 0] ++ rest := by
    simp only [encodeGate, text_eq, length, u8, List.append_assoc, List.cons_append,
      List.nil_append, List.cons.injEq, true_and, exists_eq']
  obtain ⟨rest, start⟩ := start
  rw [start]
  exact ⟨rfl, rfl, rfl⟩

/-- Where the gates of a rule end, what follows does not look like a gate: the fourth to the sixth
byte are a preference, or a stage of the next rule, or missing. -/
theorem preferences_stop {preferences : List GateKind} {rules : List PolicyRule}
    (known : ∀ kind ∈ preferences, kind.toByte ≠ 0) (ruled : ∀ rule ∈ rules, Ruled rule) :
    Stops encodeGate ((preferences.flatMap fun kind => Writer.u8 kind.toByte) ++
      rules.flatMap encodeRule) := by
  intro gate more same
  obtain ⟨fourth, fifth, sixth⟩ := encodeGate_zeros gate more
  rw [← same] at fourth fifth sixth
  match preferences with
  | [] =>
      cases rules with
      | nil => cases fourth
      | cons rule rest =>
          have target : some rule.target.toByte = some 0 := fourth
          exact (ruled rule List.mem_cons_self).target (Option.some.inj target)
  | [_] =>
      cases rules with
      | nil => cases fourth
      | cons rule rest =>
          have source : some rule.source.toByte = some 0 := fourth
          exact (ruled rule List.mem_cons_self).source (Option.some.inj source)
  | [_, _] =>
      cases rules with
      | nil => cases fourth
      | cons rule rest =>
          have source : some rule.source.toByte = some 0 := fifth
          exact (ruled rule List.mem_cons_self).source (Option.some.inj source)
  | [_, _, _] =>
      cases rules with
      | nil => cases fourth
      | cons rule rest =>
          have source : some rule.source.toByte = some 0 := sixth
          exact (ruled rule List.mem_cons_self).source (Option.some.inj source)
  | _ :: _ :: _ :: preference :: _ =>
      have preferred : some preference.toByte = some 0 := fourth
      exact known preference (by simp) (Option.some.inj preferred)

theorem preferences_delimited :
    Delimited (fun kind : GateKind => Writer.u8 kind.toByte) fun kind => kind :=
  u8_delimited GateKind.ofByte GateKind.ofByte_toByte

def clippedRule (rule : PolicyRule) : PolicyRule :=
  { rule with requirements := rule.requirements.map Gate.clipped }

theorem rules_seen {left right : List PolicyRule} (ruled : ∀ rule ∈ left, Ruled rule)
    (rightRuled : ∀ rule ∈ right, Ruled rule)
    (counts : left.map (fun rule => rule.preferences.length) =
      right.map fun rule => rule.preferences.length)
    (same : left.flatMap encodeRule = right.flatMap encodeRule) :
    left.map clippedRule = right.map clippedRule := by
  induction left generalizing right with
  | nil =>
      cases right with
      | nil => rfl
      | cons => cases counts
  | cons rule rest ih =>
      cases right with
      | nil => cases counts
      | cons other others =>
          rw [List.map_cons, List.map_cons, List.cons.injEq] at counts
          have laterRuled : ∀ rule ∈ rest, Ruled rule :=
            fun rule inside => ruled rule (List.mem_cons_of_mem _ inside)
          have othersRuled : ∀ rule ∈ others, Ruled rule :=
            fun rule inside => rightRuled rule (List.mem_cons_of_mem _ inside)
          have stops := preferences_stop (ruled rule List.mem_cons_self).preferences laterRuled
          have otherStops :=
            preferences_stop (rightRuled other List.mem_cons_self).preferences othersRuled
          simp only [List.flatMap_cons, encodeRule_eq, encodePreferences, List.append_assoc] at same
          obtain ⟨scope, same⟩ := encodeScope_delimited _ _ _ _ same
          obtain ⟨gates, same⟩ := encodeGate_delimited.flatMap stops otherStops same
          obtain ⟨preferences, same⟩ := preferences_delimited.counted counts.1 same
          rw [List.map_id', List.map_id'] at preferences
          have first : clippedRule rule = clippedRule other := by
            simp only [scopeOf, PolicyRule.mk.injEq, true_and] at scope
            simp only [clippedRule, PolicyRule.mk.injEq]
            obtain ⟨restricted, kind, source, target, ordering, replay, rollback, supersedes⟩ := scope
            exact ⟨restricted, kind, source, target, gates, preferences, ordering, replay, rollback,
              supersedes⟩
          rw [List.map_cons, List.map_cons, first, ih laterRuled othersRuled counts.2 same]

/-- The policies agree in what the digest does not see: how many preferences each rule has, and the
ends of the texts of its gates. -/
structure AgreesUnseen (left right : PromotionPolicy) : Prop where
  preferences : left.rules.map (fun rule => rule.preferences.length) =
    right.rules.map fun rule => rule.preferences.length
  texts : left.rules.map (fun rule => rule.requirements.map Gate.cutOff) =
    right.rules.map fun rule => rule.requirements.map Gate.cutOff

theorem gates_eq {left right : List Gate} (seen : left.map Gate.clipped = right.map Gate.clipped)
    (unseen : left.map Gate.cutOff = right.map Gate.cutOff) : left = right := by
  induction left generalizing right with
  | nil =>
      cases right with
      | nil => rfl
      | cons => cases seen
  | cons gate rest ih =>
      cases right with
      | nil => cases seen
      | cons other others =>
          rw [List.map_cons, List.map_cons, List.cons.injEq] at seen unseen
          rw [Gate.eq_of_clipped seen.1 unseen.1, ih seen.2 unseen.2]

theorem rules_eq {left right : List PolicyRule}
    (seen : left.map clippedRule = right.map clippedRule)
    (unseen : left.map (fun rule => rule.requirements.map Gate.cutOff) =
      right.map fun rule => rule.requirements.map Gate.cutOff) : left = right := by
  induction left generalizing right with
  | nil =>
      cases right with
      | nil => rfl
      | cons => cases seen
  | cons rule rest ih =>
      cases right with
      | nil => cases seen
      | cons other others =>
          rw [List.map_cons, List.map_cons, List.cons.injEq] at seen unseen
          have first : rule = other := by
            have gates := gates_eq (congrArg PolicyRule.requirements seen.1) unseen.1
            have fields := seen.1
            simp only [clippedRule, PolicyRule.mk.injEq] at fields
            cases rule
            cases other
            simp only [PolicyRule.mk.injEq]
            exact ⟨fields.1, fields.2.1, fields.2.2.1, fields.2.2.2.1, gates, fields.2.2.2.2.2⟩
          rw [first, ih seen.2 unseen.2]

variable {policy left right : PromotionPolicy}

theorem rules_ruled (validated : policy.validate = some (.ok ())) :
    ∀ rule ∈ policy.rules, Ruled rule := by
  have positive {raw : UInt8} {valid : Nat → Bool} (rejects : valid 0 = false)
      (known : valid raw.toNat = true) : raw ≠ 0 := by
    rintro rfl
    rw [show (0 : UInt8).toNat = 0 from rfl, rejects] at known
    cases known
  intro rule inside
  obtain ⟨legal, edge⟩ := validate_rules validated inside
  obtain ⟨source, target⟩ := edge_known validated edge
  exact ⟨positive rfl source, positive rfl target, fun kind preferred =>
    positive rfl (legal.preferences kind preferred)⟩

theorem stage_delimited : Delimited (fun stage : Stage => Writer.u8 stage.toByte) fun stage => stage :=
  u8_delimited Stage.ofByte Stage.ofByte_toByte

theorem edge_delimited : Delimited (fun edge : Edge =>
    Writer.u8 edge.source.toByte ++ Writer.u8 edge.target.toByte) fun edge => edge := by
  intro first second rest other same
  obtain ⟨stages, after⟩ := (stage_delimited.comp Edge.source).append
    (stage_delimited.comp Edge.target) first second rest other same
  cases first
  cases second
  rw [Prod.mk.injEq] at stages
  exact ⟨by rw [Edge.mk.injEq]; exact stages, after⟩

theorem hashed_alike (validated : left.validate = some (.ok ()))
    (rightValidated : right.validate = some (.ok ()))
    (same : left.digestPreimage = right.digestPreimage) :
    left.id = right.id ∧ left.generation = right.generation ∧
      left.entryStage = right.entryStage ∧ left.graph = right.graph ∧
        left.rules.flatMap encodeRule = right.rules.flatMap encodeRule := by
  have edgesFit {policy : PromotionPolicy} (validated : policy.validate = some (.ok ())) :
      policy.graph.edges.length < UInt32.size :=
    lt_of_le_of_lt (validate_graph validated).fits (by decide)
  have rulesFit {policy : PromotionPolicy} (validated : policy.validate = some (.ok ())) :
      policy.rules.length < UInt32.size := lt_of_le_of_lt (rules_fit validated) (by decide)
  simp only [digestPreimage, List.append_assoc] at same
  obtain ⟨named, same⟩ := identity_delimited _ _ _ _ same
  obtain ⟨generation, same⟩ := counter_delimited _ _ _ _ same
  obtain ⟨entryStage, same⟩ := stage_delimited _ _ _ _ same
  obtain ⟨edges, same⟩ := list_delimited edge_delimited (edgesFit validated)
    (edgesFit rightValidated) same
  rw [List.map_id', List.map_id'] at edges
  obtain ⟨_, rules⟩ := u32_count (rulesFit validated) (rulesFit rightValidated) same
  refine ⟨named, generation, entryStage, ?_, rules⟩
  rw [← LifecycleGraph.mk.injEq] at edges
  exact edges

/-- Two valid policies that are hashed alike are equal if and only if they agree in what the digest
does not see. -/
theorem hashed_alike_equal_iff (validated : left.validate = some (.ok ()))
    (rightValidated : right.validate = some (.ok ()))
    (same : left.digestPreimage = right.digestPreimage) :
    left.equals right = true ↔ left.AgreesUnseen right := by
  obtain ⟨named, generation, entryStage, graph, bytes⟩ :=
    hashed_alike validated rightValidated same
  rw [equals_iff]
  constructor
  · rintro ⟨_, _, _, rules, _⟩
    exact ⟨by rw [rules], by rw [rules]⟩
  · intro agrees
    have seen := rules_seen (rules_ruled validated) (rules_ruled rightValidated)
      agrees.preferences bytes
    exact ⟨named, generation, entryStage, rules_eq seen agrees.texts, graph⟩

def promotionRules (rules : List PolicyRule) : PromotionPolicy :=
  { id := ⟨7, 1⟩, generation := ⟨1⟩, name := text "rules",
    graph := { edges := [⟨.candidate, .promoted⟩, ⟨.promoted, .retired⟩] }, rules }

theorem hashed_alike_equal_renamed :
    (promotionRules [{ source := .candidate, target := .promoted }]).equals
      { promotionRules [{ source := .candidate, target := .promoted }] with
        name := text "renamed" } = true :=
  (hashed_alike_equal_iff (by decide +kernel) (by decide +kernel) rfl).mpr ⟨rfl, rfl⟩

def ambiguousRule (preferences : List GateKind) : PolicyRule :=
  { hasKindScope := true, kindScope := .executable, source := .candidate, target := .promoted,
    ordering := .lowerCommitSequence, allowRollbackEligibility := true, supersedesPrevious := true,
    preferences }

def scopePreferences : List GateKind := (encodeScope (ambiguousRule [])).map GateKind.ofByte

/-- The preferences of one rule are read as the scope of the next. -/
theorem preferences_read_as_rule : ∃ left right : PromotionPolicy,
    left.validate = some (.ok ()) ∧ right.validate = some (.ok ()) ∧
      left.digestPreimage = right.digestPreimage ∧ left.equals right = false :=
  ⟨promotionRules [ambiguousRule [], ambiguousRule scopePreferences],
    promotionRules [ambiguousRule scopePreferences, ambiguousRule []], by decide +kernel,
    by decide +kernel, by decide +kernel, by decide +kernel⟩

def longLabelled (last : UInt8) : PolicyRule :=
  { source := .candidate, target := .promoted, requirements :=
      [{ kind := .securityVetoClear, label := List.replicate kMaxNameLength 97 ++ [last] }] }

theorem long_labels_cut : ∃ left right : PromotionPolicy,
    left.validate = some (.ok ()) ∧ right.validate = some (.ok ()) ∧
      left.digestPreimage = right.digestPreimage ∧ left.equals right = false :=
  ⟨promotionRules [longLabelled 97], promotionRules [longLabelled 98], by decide +kernel,
    by decide +kernel, by decide +kernel, by decide +kernel⟩

end PromotionPolicy

end ArtifactPromotion
