import ArtifactPromotion.Engine.WellFormed

/-! The state of every run passes the consistency check that stands between a coordinator and its
restart. -/

namespace ArtifactPromotion

open Runs

namespace CoordinatorState

theorem checkHistory_ok (entries : List (CommitSequence × HistoryEvent))
    {previous : CommitSequence}
    (keyed : ∀ entry ∈ entries, entry.2.sequence = entry.1 ∧ entry.1.valid = true)
    (sorted : entries.Pairwise fun left right => left.1.value < right.1.value)
    (above : ∀ entry ∈ entries, previous.valid = true → previous.value < entry.1.value) :
    checkHistory previous entries = .ok () := by
  induction entries generalizing previous with
  | nil => rfl
  | cons entry rest ih =>
      rw [List.forall_mem_cons] at keyed above
      rw [List.pairwise_cons] at sorted
      have continued := ih keyed.2 sorted.2 fun other inside _ => sorted.1 other inside
      simp only [checkHistory, rejectCorrupt, bind_eq_ok, rejectWhen_eq_ok, Bool.or_eq_false_iff,
        Bool.not_eq_false', bne_eq_false_iff_eq, Bool.and_eq_false_imp, decide_eq_true_eq]
      exact ⟨(), ⟨keyed.1.2, keyed.1.1⟩, (), above.1, continued⟩

theorem checkRevisions_ok (id : ArtifactId) (chain : List ArtifactRecord)
    (seen : List ArtifactRevision)
    (valid : ∀ record ∈ chain, record.valid = true ∧ record.id = id ∧
      (record.promoted = true → record.promotionDecision.valid = true))
    (distinct : (seen ++ chain.map ArtifactRecord.revision).Nodup)
    (positions : ∀ (index : Nat) (record : ArtifactRecord), chain[index]? = some record →
      record.generation.value.toNat = seen.length + index + 1) :
    checkRevisions id seen chain = .ok () := by
  induction chain generalizing seen with
  | nil => rfl
  | cons record rest ih =>
      rw [List.forall_mem_cons] at valid
      obtain ⟨⟨wellFormed, named, decided⟩, others⟩ := valid
      have fresh : record.revision ∉ seen := by
        intro inside
        rw [List.nodup_append] at distinct
        exact distinct.2.2 _ inside _ List.mem_cons_self rfl
      have position := positions 0 record rfl
      have continued : checkRevisions id (seen ++ [record.revision]) rest = .ok () := by
        refine ih _ others ?_ ?_
        · rw [List.append_assoc]
          exact distinct
        · intro index other held
          rw [positions (index + 1) other held, List.length_append, List.length_singleton]
          omega
      simp only [checkRevisions, checkRevision, rejectCorrupt, bind_eq_ok, rejectWhen_eq_ok,
        Bool.or_eq_false_iff, Bool.not_eq_false', bne_eq_false_iff_eq, Bool.and_eq_false_imp,
        Identity.invalid, List.contains_eq_mem, decide_eq_false_iff_not]
      exact ⟨(), ⟨(), ⟨wellFormed, named⟩, (), fresh, (), position, decided⟩, continued⟩

end CoordinatorState

namespace Engine

variable {engine next : Engine}

/-- Everything stored passes its own check. -/
structure WellFormed (engine : Engine) : Prop where
  stored : engine.StoreSound
  authority : engine.AuthorityValid
  policy : engine.PolicyValid
  artifacts : engine.ArtifactsValid
  evidence : engine.EvidenceValid
  plans : engine.PlansValid
  decisions : engine.DecisionsKnown
  records : engine.RecordsValid

theorem WellFormed.step {base : UInt64} (wellFormed : engine.WellFormed)
    (apart : engine.RevisionsApart base) {op : Op} {reply : Reply}
    (moved : engine.step op = some (reply, next))
    (nonzero : ∀ digest ∈ engine.hashes op, digest.valid = true) : next.WellFormed := by
  obtain ⟨stored, authority, policy, artifacts, evidence, plans, decisions, records⟩ := wellFormed
  have sound := stored.sound
  exact ⟨stored.step moved, step_authority_valid sound authority moved,
    step_policy_valid moved policy,
    step_artifacts_valid sound policy authority.2 artifacts moved,
    step_evidence_valid stored authority evidence moved nonzero,
    step_plans_valid sound authority policy artifacts plans moved nonzero,
    step_decisions_known sound decisions moved,
    step_records_valid sound apart authority policy artifacts plans records moved nonzero⟩

theorem constructed_wellFormed (constructed : Constructed engine) : engine.WellFormed := by
  have stored := constructed_storeSound constructed
  obtain ⟨config, epoch, salting, naming, rfl⟩ := constructed
  refine ⟨stored, ⟨?_, ?_⟩, create_policy_valid config epoch salting naming, ?_, ?_, ?_, ?_, ?_⟩
  · change (⟨seedFrom _ salting, naming⟩ : CoordinatorId).valid = true
    rw [Identity.valid, Bool.or_eq_true, bne_iff_ne]
    exact .inl (seedFrom_ne_zero _ _)
  · change (if epoch.valid then epoch else ⟨1⟩ : CoordinatorEpoch).valid = true
    split
    · assumption
    · rfl
  · intro id record inside
    rw [create_chain] at inside
    simp at inside
  all_goals
    intro id value held
    exact (no_entry rfl held).elim

theorem held_valid (sound : engine.Sound) {id : PromotionDecisionId}
    (held : engine.state.decisions.contains id = true) : id.valid = true := by
  obtain ⟨decision, present⟩ := OrderedMaps.contains_iff.mp held
  obtain ⟨_, positive, _⟩ := (sound.coherent.decisions id decision present).2
  rw [Identity.valid, Bool.or_eq_true, bne_iff_ne, bne_iff_ne]
  right
  intro zero
  rw [zero, UInt64.toNat_zero] at positive
  omega

theorem WellFormed.checkChain (wellFormed : engine.WellFormed) (structured : engine.Structured)
    (distinct : ∀ id, ((engine.state.chain id).map ArtifactRecord.revision).Nodup)
    (own : engine.PromotionsOwn) {id : ArtifactId} {chain : List ArtifactRecord}
    (held : engine.state.artifacts[id]? = some chain) :
    CoordinatorState.checkChain (id, chain) = .ok () := by
  have sound := wellFormed.stored.sound
  have chain_eq : engine.state.chain id = chain := by
    rw [CoordinatorState.chain, Std.ExtTreeMap.getD_eq_getD_getElem?, held]
    rfl
  have nonempty := structured.nonempty id chain held
  have valid (record : ArtifactRecord) (inside : record ∈ chain) : record.valid = true ∧
      record.id = id ∧ (record.promoted = true → record.promotionDecision.valid = true) := by
    rw [← chain_eq] at inside
    refine ⟨wellFormed.artifacts id record inside, sound.coherent.chain_named id record inside, ?_⟩
    intro promoted
    obtain ⟨decision, present, _⟩ := own id record inside promoted
    exact held_valid sound (OrderedMaps.contains_iff.mpr ⟨decision, present⟩)
  have named : id.valid = true := by
    obtain ⟨record, inside⟩ := List.exists_mem_of_ne_nil chain nonempty
    obtain ⟨wellMade, same, _⟩ := valid record inside
    rw [← same]
    exact ((ArtifactRecord.valid_iff record).mp wellMade).1.1
  have checked : CoordinatorState.checkRevisions id [] chain = .ok () := by
    refine CoordinatorState.checkRevisions_ok id chain [] valid ?_ ?_
    · rw [List.nil_append, ← chain_eq]
      exact distinct id
    · intro index record present
      rw [← chain_eq] at present
      rw [(structured.positions id index record present).2, List.length_nil, Nat.zero_add]
  simp only [CoordinatorState.checkChain, CoordinatorState.rejectCorrupt, bind_eq_ok,
    rejectWhen_eq_ok, Bool.or_eq_false_iff, Identity.invalid, Bool.not_eq_false',
    List.isEmpty_eq_false_iff]
  exact ⟨(), ⟨named, nonempty⟩, checked⟩

theorem WellFormed.checkEvidence (wellFormed : engine.WellFormed) {id : EvidenceId}
    {record : EvidenceRecord} (held : engine.state.evidence[id]? = some record) :
    CoordinatorState.checkEvidence engine.snapshot (id, record) = .ok () := by
  have same := (wellFormed.stored.sound.coherent.evidence id record held).1
  have valid := wellFormed.evidence id record held
  have named := ((EvidenceRecord.valid_iff record).mp valid).1.1
  rw [same] at named
  obtain ⟨⟨artifact, found, digest⟩, integrity, _⟩ := wellFormed.stored.recorded id record held
  have found : engine.snapshot.findRevision record.subject record.subjectRevision =
    some artifact := found
  simp only [CoordinatorState.checkEvidence, CoordinatorState.rejectCorrupt, bind_eq_ok,
    rejectWhen_eq_ok, Bool.or_eq_false_iff, Identity.invalid, Bool.not_eq_false',
    bne_eq_false_iff_eq, found, Option.isNone_some, Option.any_some]
  exact ⟨(), ⟨⟨named, same⟩, valid⟩, (), trivial, (), digest, integrity⟩

theorem WellFormed.checkPlan (wellFormed : engine.WellFormed) {id : PromotionPlanId}
    {plan : PromotionPlan} (held : engine.state.plans[id]? = some plan) :
    CoordinatorState.checkPlan (id, plan) = .ok () := by
  have same := (wellFormed.stored.sound.coherent.plans id plan held).1
  have valid := (wellFormed.plans id plan held).1
  have named : plan.id.valid = true := by
    simp only [PromotionPlan.valid, Bool.and_eq_true] at valid
    exact valid.1.1.1.1.1.1.1.1.1.1.1.1.1.1.1.1.1.1.1
  rw [same] at named
  simp only [CoordinatorState.checkPlan, CoordinatorState.rejectCorrupt, rejectWhen_eq_ok,
    Bool.or_eq_false_iff, Identity.invalid, Bool.not_eq_false', bne_eq_false_iff_eq]
  exact ⟨⟨named, same⟩, valid⟩

theorem known_valid {outcome : PromotionOutcome} (known : outcome ≠ .invalid) :
    isValidPromotionOutcome outcome.toByte.toNat = true := by
  cases outcome with
  | invalid => exact absurd rfl known
  | _ => rfl

theorem WellFormed.checkDecision (wellFormed : engine.WellFormed) {id : PromotionDecisionId}
    {decision : PromotionDecision} (held : engine.state.decisions[id]? = some decision) :
    CoordinatorState.checkDecision (id, decision) = .ok () := by
  have sound := wellFormed.stored.sound
  have same := (sound.coherent.decisions id decision held).1
  have named : id.valid = true :=
    held_valid sound (OrderedMaps.contains_iff.mpr ⟨decision, held⟩)
  simp only [CoordinatorState.checkDecision, CoordinatorState.rejectCorrupt, bind_eq_ok,
    rejectWhen_eq_ok, Bool.or_eq_false_iff, Identity.invalid, Bool.not_eq_false',
    bne_eq_false_iff_eq]
  exact ⟨(), ⟨named, same⟩, known_valid (wellFormed.decisions id decision held)⟩

theorem WellFormed.checkRecord (wellFormed : engine.WellFormed) {id : TransitionId}
    {record : PromotionRecord} (held : engine.state.records[id]? = some record) :
    CoordinatorState.checkRecord engine.snapshot (id, record) = .ok () := by
  have same := wellFormed.stored.sound.coherent.records id record held
  obtain ⟨valid, artifact, found, digest⟩ := wellFormed.records id record held
  have found : engine.snapshot.findRevision record.artifact record.artifactRevision =
    some artifact := found
  have checks := valid
  simp only [PromotionRecord.valid, Bool.and_eq_true, Bool.or_eq_true, bne_iff_ne] at checks
  obtain ⟨⟨⟨⟨⟨⟨⟨⟨⟨⟨⟨named, _⟩, _⟩, _⟩, _⟩, _⟩, decided⟩, _⟩, _⟩, _⟩, _⟩, sequenced⟩ := checks
  rw [same] at named
  simp only [CoordinatorState.checkRecord, CoordinatorState.rejectCorrupt, bind_eq_ok,
    rejectWhen_eq_ok, Bool.or_eq_false_iff, Identity.invalid, Bool.not_eq_false',
    bne_eq_false_iff_eq, Bool.and_eq_false_imp, beq_iff_eq, found, Option.isNone_some,
    Option.any_some]
  exact ⟨(), ⟨⟨named, same⟩, valid⟩, (), sequenced, (),
    fun promoted => decided.resolve_left (not_not.mpr promoted), (), trivial, digest⟩

theorem WellFormed.checkReferences (wellFormed : engine.WellFormed) (resolve : engine.AllResolve)
    {id : ArtifactId} {record : ArtifactRecord} (inside : record ∈ engine.state.chain id) :
    CoordinatorState.checkReferences engine.snapshot record = .ok () := by
  obtain ⟨decided, succeeded⟩ := resolve id record inside
  simp only [CoordinatorState.checkReferences, CoordinatorState.rejectCorrupt, bind_eq_ok,
    rejectWhen_eq_ok, Identity.invalid, Bool.not_eq_false', Bool.and_eq_false_imp]
  refine ⟨(), fun active => ?_, (), decided, fun active => ?_⟩
  · exact held_valid wellFormed.stored.sound (decided active)
  · obtain ⟨successor, found⟩ := succeeded active
    have found : engine.snapshot.findRevision record.supersession.successor
      record.supersession.successorRevision = some successor := found
    rw [found]
    rfl

theorem WellFormed.checkHistory (wellFormed : engine.WellFormed) :
    CoordinatorState.checkHistory {} engine.state.history.toList = .ok () := by
  refine CoordinatorState.checkHistory_ok _ ?_ ?_ ?_
  · intro entry inside
    exact wellFormed.stored.sound.history entry.1 entry.2
      (Std.ExtTreeMap.mem_toList_iff_getElem?_eq_some.mp inside)
  · refine Std.ExtTreeMap.ordered_keys_toList.imp ?_
    intro left right before
    change compareOn Counter.value left.1 right.1 = .lt at before
    exact compareOfLessAndEq_eq_lt.mp before
  · intro entry _ valid
    cases valid

theorem WellFormed.consistent (wellFormed : engine.WellFormed) (structured : engine.Structured)
    (distinct : ∀ id, ((engine.state.chain id).map ArtifactRecord.revision).Nodup)
    (own : engine.PromotionsOwn) (resolve : engine.AllResolve) :
    engine.snapshot.verifyConsistency = some (.ok ()) := by
  have named : engine.snapshot.policy.id.valid = true := by
    have same : engine.snapshot.policy.id = engine.state.activePolicy :=
      wellFormed.stored.sound.coherent.policyId.symm
    rw [same]
    exact (activePolicy_valid wellFormed.stored.sound wellFormed.policy).1
  have validated : engine.snapshot.policy.validate = some (.ok ()) := wellFormed.policy
  have entry {κ ν : Type} [Ord κ] [Std.TransOrd κ] [Std.LawfulEqOrd κ] {map : OrderedMap κ ν}
      {item : κ × ν} (inside : item ∈ map.toList) : map[item.1]? = some item.2 :=
    Std.ExtTreeMap.mem_toList_iff_getElem?_eq_some.mp inside
  have chains : checkEach CoordinatorState.checkChain engine.snapshot.artifacts.toList = .ok () := by
    rw [checkEach_eq_ok]
    exact fun item inside => wellFormed.checkChain structured distinct own (entry inside)
  have evidence : checkEach engine.snapshot.checkEvidence engine.snapshot.evidence.toList =
      .ok () := by
    rw [checkEach_eq_ok]
    exact fun item inside => wellFormed.checkEvidence (entry inside)
  have plans : checkEach CoordinatorState.checkPlan engine.snapshot.plans.toList = .ok () := by
    rw [checkEach_eq_ok]
    exact fun item inside => wellFormed.checkPlan (entry inside)
  have decisions : checkEach CoordinatorState.checkDecision engine.snapshot.decisions.toList =
      .ok () := by
    rw [checkEach_eq_ok]
    exact fun item inside => wellFormed.checkDecision (entry inside)
  have records : checkEach engine.snapshot.checkRecord engine.snapshot.records.toList = .ok () := by
    rw [checkEach_eq_ok]
    exact fun item inside => wellFormed.checkRecord (entry inside)
  have references : checkEach (fun item => checkEach engine.snapshot.checkReferences item.2)
      engine.snapshot.artifacts.toList = .ok () := by
    rw [checkEach_eq_ok]
    intro item inside
    rw [checkEach_eq_ok]
    intro record member
    have present : record ∈ engine.state.chain item.1 := by
      have held : engine.state.artifacts[item.1]? = some item.2 := entry inside
      rw [CoordinatorState.chain, Std.ExtTreeMap.getD_eq_getD_getElem?, held]
      exact member
    exact wellFormed.checkReferences resolve present
  have header : (do
      CoordinatorState.rejectCorrupt engine.snapshot.coordinator.invalid
        "coordinator identity is the invalid sentinel"
      CoordinatorState.rejectCorrupt (!engine.snapshot.epoch.valid) "coordinator epoch is zero"
      CoordinatorState.rejectCorrupt (!engine.snapshot.policy.id.valid ||
          engine.snapshot.policy.id != engine.snapshot.activePolicy)
        "active policy body does not match the recorded policy identity"
      CoordinatorState.rejectCorrupt
        (engine.snapshot.policy.generation != engine.snapshot.activePolicyGeneration)
        "active policy generation does not match the policy body"
      CoordinatorState.rejectCorrupt
        (engine.snapshot.policy.policyDigest != engine.snapshot.activePolicyDigest)
        "active policy digest does not match the policy body" : Result Unit) = .ok () := by
    simp only [CoordinatorState.rejectCorrupt, bind_eq_ok, rejectWhen_eq_ok, Identity.invalid,
      Bool.not_eq_false', Bool.or_eq_false_iff, bne_eq_false_iff_eq]
    exact ⟨(), wellFormed.authority.1, (), wellFormed.authority.2, (), ⟨named, rfl⟩, (), rfl, rfl⟩
  unfold CoordinatorState.verifyConsistency
  simp only [header, validated, Option.map_some, Option.some.injEq, bind_eq_ok]
  exact ⟨(), trivial, (), chains, (), evidence, (), plans, (), decisions, (), records, (),
    wellFormed.checkHistory, references⟩

theorem run_promotions_own {start final : Engine} {trace : List EngineStep}
    (constructed : Constructed start) (run : EngineRun start trace final) :
    final.PromotionsOwn := by
  obtain ⟨config, epoch, salting, naming, rfl⟩ := constructed
  have kept := run.invariant
    (fun engine => engine.Sound ∧ engine.Linked ∧ engine.PromotionsOwn)
    (fun _ _ _ _ held moved => ⟨sound_step held.1 moved, step_linked held.1 held.2.1 moved,
      step_promotions_own held.1 held.2.1 held.2.2 moved⟩)
    ⟨create_sound config epoch salting naming, create_linked config epoch salting naming, by
      intro id record inside
      rw [create_chain] at inside
      simp at inside⟩
  exact kept.2.2

theorem run_wellFormed {start final : Engine} {trace : List EngineStep}
    (constructed : Constructed start) (run : EngineRun start trace final)
    (few : trace.countP (fun step => step.input.registers) ≤
      IdentityGenerator.kSpan * IdentityGenerator.kSpan)
    (nonzero : ∀ step ∈ trace, ∀ digest ∈ step.before.hashes step.input, digest.valid = true) :
    final.WellFormed := by
  have kept := run.byHistory (fun past engine =>
    past.countP (fun step => step.input.registers) ≤
      IdentityGenerator.kSpan * IdentityGenerator.kSpan →
      (∀ step ∈ past, ∀ digest ∈ step.before.hashes step.input, digest.valid = true) →
        engine.WellFormed) (fun _ _ => constructed_wellFormed constructed) ?_
  · exact kept few nonzero
  · intro past before op reply after earlier held moved few nonzero
    rw [List.countP_append] at few
    rw [List.forall_mem_append, List.forall_mem_singleton] at nonzero
    have room := Nat.le_of_add_right_le few
    exact (held room nonzero.1).step (run_revisions_apart constructed earlier room) moved nonzero.2

/-- Every state of every run passes the consistency check, as long as the revision generator has not
handed out all its identities and no digest that is stored along the run is the zero digest. -/
theorem run_consistent {start final : Engine} {trace : List EngineStep}
    (constructed : Constructed start) (run : EngineRun start trace final)
    (few : trace.countP (fun step => step.input.registers) ≤
      IdentityGenerator.kSpan * IdentityGenerator.kSpan)
    (nonzero : ∀ step ∈ trace, ∀ digest ∈ step.before.hashes step.input, digest.valid = true) :
    final.snapshot.verifyConsistency = some (.ok ()) := by
  have reachable : Reachable final := ⟨start, trace, constructed, run⟩
  have distinct := (run_revisions_apart constructed run few).nodup
  exact (run_wellFormed constructed run few nonzero).consistent (reachable_structured reachable)
    distinct (run_promotions_own constructed run) (reachable_resolve reachable)

theorem run_policy_hashed {start final : Engine} {trace : List EngineStep}
    (constructed : Constructed start) (run : EngineRun start trace final) :
    ∃ bytes, sha256 bytes = final.state.activePolicyDigest := by
  have initially : ∃ bytes, sha256 bytes = start.control.policyDigest := by
    obtain ⟨config, epoch, salting, naming, rfl⟩ := constructed
    exact ⟨_, rfl⟩
  refine (run.invariant (fun engine => engine.Sound ∧
    ∃ bytes, sha256 bytes = engine.control.policyDigest) ?_ ⟨constructed.sound, initially⟩).2
  rintro engine op reply next ⟨sound, hashed⟩ moved
  refine ⟨sound_step sound moved, ?_⟩
  cases step_effect moved with
  | published _ _ changed =>
      rw [changed]
      exact ⟨_, rfl⟩
  | closed released _ _ _ _ changed =>
      rw [changed]
      cases released <;> exact hashed
  | reloaded decoded changed =>
      rw [(image_reloaded sound decoded changed).policyDigest, ← sound.coherent.policyDigest]
      exact hashed
  | idle _ changed | restarted _ changed | recovered changed
  | compatibilityMoved _ changed | registrationRefused _ _ changed
  | registered _ _ _ _ _ _ _ changed | submitted _ _ _ _ changed | undecided _ _ _ changed
  | decided _ _ _ _ _ _ changed | issued _ _ _ _ _ _ changed | committed _ _ _ _ _ changed
  | quarantined _ _ _ _ changed | releaseRefused _ _ changed
  | released _ _ _ _ _ _ _ _ changed | revoked _ _ _ _ _ _ changed
  | superseded _ _ _ _ _ _ changed | retired _ _ _ changed | evidenceRevoked _ _ changed =>
      rw [changed]
      exact hashed

/-- If SHA-256 never yields the zero digest, no digest stored along a run is the zero digest. -/
theorem run_hashes_valid (never : ∀ bytes, (sha256 bytes).valid = true) {start final : Engine}
    {trace : List EngineStep} (constructed : Constructed start) (run : EngineRun start trace final) :
    ∀ step ∈ trace, ∀ digest ∈ step.before.hashes step.input, digest.valid = true := by
  intro step executed digest inside
  obtain ⟨past, future, rfl⟩ := List.append_of_mem executed
  obtain ⟨bytes, policy⟩ := run_policy_hashed constructed run.cut.1
  cases input : step.input with
  | submitEvidence submission =>
      rw [input, hashes, List.mem_singleton] at inside
      rw [inside]
      exact never _
  | revokeEvidence id reason authority =>
      rw [input, hashes, List.mem_map] at inside
      obtain ⟨record, _, rfl⟩ := inside
      exact never _
  | evaluate request now =>
      rw [input, hashes, List.mem_cons, List.mem_cons, List.mem_map] at inside
      rcases inside with rfl | rfl | ⟨artifact, _, rfl⟩
      · rw [← policy]
        exact never _
      · exact never _
      · exact never _
  | releaseQuarantine id authority now later =>
      rw [input, hashes, List.mem_map] at inside
      obtain ⟨artifact, _, rfl⟩ := inside
      exact never _
  | _ =>
      rw [input] at inside
      cases inside

def storesPromotion (played : List EngineStep × Engine) : Bool :=
  played.1.length == 4 &&
    (played.1.all fun step => (step.before.hashes step.input).all (·.valid)) &&
    played.2.state.plans.size == 1 && played.2.state.records.size == 1

theorem run_consistent_promoted :
    ∃ (trace : List EngineStep) (final : Engine), EngineRun sampleEngine trace final ∧
      final.state.plans.size = 1 ∧ final.state.records.size = 1 ∧
      final.snapshot.verifyConsistency = some (.ok ()) := by
  have evaluated : (play step sampleEngine promoteChoices).any storesPromotion = true := by
    rw [promote_played]
    decide +kernel
  obtain ⟨trace, final, run, checked⟩ := run_of_checked evaluated
  simp only [storesPromotion, Bool.and_eq_true, beq_iff_eq, List.all_eq_true] at checked
  obtain ⟨⟨⟨length, nonzero⟩, plans⟩, records⟩ := checked
  refine ⟨trace, final, run, plans, records,
    run_consistent sampleEngine_constructed run ?_ nonzero⟩
  calc
    trace.countP (fun step => step.input.registers) ≤ trace.length := List.countP_le_length
    _ = 4 := length
    _ ≤ IdentityGenerator.kSpan * IdentityGenerator.kSpan := by decide

end Engine

end ArtifactPromotion
