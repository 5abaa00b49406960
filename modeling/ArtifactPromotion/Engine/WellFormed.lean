import ArtifactPromotion.Engine.EvidenceStore

/-! Whatever the engine stores passes its own validity check. -/

namespace ArtifactPromotion

open Runs

theorem dropRepeats_length {α : Type} [DecidableEq α] (items : List α) :
    (dropRepeats items).length ≤ items.length := by
  induction items using dropRepeats.induct with
  | case1 => rfl
  | case2 value => rfl
  | case3 second rest ih =>
      rw [dropRepeats, if_pos rfl, List.length_cons]
      omega
  | case4 first second rest different ih =>
      rw [dropRepeats, if_neg different, List.length_cons, List.length_cons]
      omega

namespace ArtifactRecord

/-- The part of the validity check that is settled when the revision is registered. -/
def ContentValid (record : ArtifactRecord) : Prop :=
  record.id.valid = true ∧ record.revision.valid = true ∧ record.generation.valid = true ∧
    record.kind ≠ .invalid ∧ record.digest.valid = true ∧ record.producer.valid = true ∧
    record.provenance.length ≤ kMaxProvenanceRefs ∧ record.dependencies.length ≤ kMaxDependencies

/-- The part of the validity check that later operations can affect. -/
structure TrustValid (record : ArtifactRecord) : Prop where
  stage : record.stage ≠ .invalid
  stageGeneration : record.stageGeneration.valid = true
  quarantine : record.quarantine.valid = true
  revocation : record.revocation.valid = true
  supersession : record.supersession.valid = true

theorem valid_iff (record : ArtifactRecord) :
    record.valid = true ↔ record.ContentValid ∧ record.TrustValid := by
  simp only [valid, Bool.and_eq_true, bne_iff_ne, decide_eq_true_eq]
  constructor
  · rintro ⟨⟨⟨⟨⟨⟨⟨⟨⟨⟨⟨⟨id, revision⟩, generation⟩, kind⟩, digest⟩, stage⟩, stageGeneration⟩,
      producer⟩, quarantine⟩, revocation⟩, supersession⟩, provenance⟩, dependencies⟩
    exact ⟨⟨id, revision, generation, kind, digest, producer, provenance, dependencies⟩,
      ⟨stage, stageGeneration, quarantine, revocation, supersession⟩⟩
  · rintro ⟨⟨id, revision, generation, kind, digest, producer, provenance, dependencies⟩,
      ⟨stage, stageGeneration, quarantine, revocation, supersession⟩⟩
    exact ⟨⟨⟨⟨⟨⟨⟨⟨⟨⟨⟨⟨id, revision⟩, generation⟩, kind⟩, digest⟩, stage⟩, stageGeneration⟩,
      producer⟩, quarantine⟩, revocation⟩, supersession⟩, provenance⟩, dependencies⟩

end ArtifactRecord

namespace EvidenceRecord

/-- The part of the validity check that is settled when the evidence is submitted. -/
def ContentValid (record : EvidenceRecord) : Prop :=
  record.id.valid = true ∧ record.generation.valid = true ∧
    isValidEvidenceType record.type.toByte.toNat = true ∧
    (record.type = .custom → record.customType ≠ []) ∧
    (record.type ≠ .custom → record.customType = []) ∧ record.subject.valid = true ∧
    record.subjectDigest.valid = true ∧ record.subjectRevision.valid = true ∧
    record.producer.valid = true ∧ isValidEvidenceResult record.result.toByte.toNat = true ∧
    record.confidenceMilli ≤ 1000 ∧ record.payloadDigest.valid = true ∧
    record.createdSequence.valid = true ∧
    (record.hasValidityWindow = true →
      ¬record.validUntilUnixMillis < record.validFromUnixMillis)

theorem valid_iff (record : EvidenceRecord) :
    record.valid = true ↔ record.ContentValid ∧ record.integrityDigest.valid = true ∧
      (record.revoked = true → record.revocationAuthority.valid = true) := by
  simp only [valid, ContentValid, Bool.and_eq_true, Bool.not_eq_true', Bool.and_eq_false_imp,
    beq_iff_eq, bne_iff_ne, decide_eq_true_eq, decide_eq_false_iff_not, List.isEmpty_eq_false_iff,
    Identity.invalid, Bool.not_eq_false', ne_eq, List.isEmpty_iff]
  tauto

end EvidenceRecord

namespace EvidenceSubmission

theorem validate_content {submission : EvidenceSubmission}
    (validated : submission.validate = .ok ()) {id : EvidenceId} {generation : EvidenceGeneration}
    {sequence : CommitSequence} (named : id.valid = true) (numbered : generation.valid = true)
    (sequenced : sequence.valid = true) :
    (Engine.submissionRecord submission id generation sequence).ContentValid := by
  simp only [validate, bind_eq_ok, rejectWhen_eq_ok, Bool.or_eq_false_iff, Bool.and_eq_false_imp,
    Bool.not_eq_false', isValidName, Bool.and_eq_true, decide_eq_true_eq, Identity.invalid,
    Digest.invalid, beq_iff_eq, bne_iff_ne, ne_eq, List.isEmpty_iff, Bool.not_eq_true',
    List.isEmpty_eq_false_iff, decide_eq_false_iff_not] at validated
  obtain ⟨_, subject, _, digest, _, revision, _, type, _, custom, _, builtIn, _, producer, _, result,
    _, confidence, _, payload, _, _, _, _, window⟩ := validated
  exact ⟨named, numbered, type, fun same => (custom same).1.1, builtIn, subject, digest, revision,
    producer, result, UInt32.not_lt.mp confidence, payload, sequenced, window⟩

end EvidenceSubmission

namespace ArtifactRegistration

theorem validate_content {registration : ArtifactRegistration}
    (validated : registration.validate = .ok ()) :
    registration.id.valid = true ∧ registration.kind ≠ .invalid ∧
      registration.digest.valid = true ∧ registration.producer.valid = true ∧
      registration.provenance.length ≤ ArtifactRecord.kMaxProvenanceRefs ∧
      registration.dependencies.length ≤ ArtifactRecord.kMaxDependencies := by
  simp only [validate, bind_eq_ok, rejectWhen_eq_ok, Identity.invalid, Digest.invalid,
    Bool.not_eq_false', decide_eq_false_iff_not, not_lt] at validated
  obtain ⟨_, id, _, kind, _, digest, _, _, _, producer, _, provenance, _, dependencies, _⟩ :=
    validated
  refine ⟨id, ?_, digest, producer, provenance, dependencies⟩
  intro unknown
  rw [unknown] at kind
  cases kind

end ArtifactRegistration

namespace Engine

variable {engine next : Engine}

theorem stampAuthority_valid {state : CoordinatorState} (epoch : state.epoch.valid = true) :
    state.stampAuthority.valid = true := by
  simp only [CoordinatorState.stampAuthority, Identity.valid, Bool.or_eq_true]
  exact .inr epoch

theorem registered_valid (policy : engine.PolicyValid) {registration : ArtifactRegistration}
    {now : UInt64} {added : ArtifactRecord}
    (moved : engine.step (.registerArtifact registration now) =
      some (.registered (.ok added), next)) : added.valid = true := by
  obtain ⟨stamped, policyKept, _, _, made, _⟩ := registered_chain moved
  obtain ⟨id, kind, digest, producer, provenance, dependencies⟩ :=
    ArtifactRegistration.validate_content (registered_enrolls moved).validated
  have generation := enrolled_generation moved
  rw [ArtifactRecord.valid_iff]
  constructor
  · refine ⟨?_, ?_, ?_, ?_, ?_, ?_, ?_, ?_⟩
    case refine_3 =>
      unfold Counter.valid
      rw [bne_iff_ne]
      intro zero
      rw [zero, UInt64.toNat_zero] at generation
      omega
    all_goals rw [made]
    · exact id
    · exact IdentityGenerator.next_valid _
    · exact kind
    · exact digest
    · exact producer
    · exact (List.length_insertionSort _ _).le.trans provenance
    · exact (dropRepeats_length _).trans ((List.length_insertionSort _ _).le.trans dependencies)
  · rw [made]
    refine ⟨?_, rfl, rfl, rfl, rfl⟩
    change stamped.policy.entryStage ≠ .invalid
    rw [policyKept]
    exact (PromotionPolicy.validate_graph policy).named

theorem overtaken_valid {registration : ArtifactRegistration} {now : UInt64}
    {added : ArtifactRecord}
    (moved : engine.step (.registerArtifact registration now) =
      some (.registered (.ok added), next)) {index : Nat} {old record : ArtifactRecord}
    (before : (engine.state.chain registration.id)[index]? = some old)
    (current : index + 1 = (engine.state.chain registration.id).length)
    (after : (next.state.chain registration.id)[index]? = some record)
    (valid : old.valid = true) : record.valid = true := by
  have named := (ArtifactRegistration.validate_content (registered_enrolls moved).validated).1
  obtain ⟨_, _, _, _, _, chains⟩ := registered_chain moved
  have length := supersededChain_length engine.state.advanceSequence
    engine.control.revisionGenerator.next registration.id (engine.state.chain registration.id)
  rw [chains, if_pos rfl, List.getElem?_append_left (by omega),
    supersededChain_positions _ _ _ before, if_pos current, Option.some.injEq] at after
  obtain ⟨content, trust⟩ := (ArtifactRecord.valid_iff old).mp valid
  have superseded : (registration.id.valid && engine.control.revisionGenerator.next.valid &&
      engine.state.commitSequence.next.valid) = true := by
    rw [named, IdentityGenerator.next_valid, Counter.next_valid]
    rfl
  rw [← after, ArtifactRecord.valid_iff]
  unfold supersedeByRegistration
  dsimp only
  split
  · exact ⟨content, by simp, Counter.next_valid _, trust.quarantine, trust.revocation, superseded⟩
  · exact ⟨content, trust.stage, trust.stageGeneration, trust.quarantine, trust.revocation,
      superseded⟩

/-- The SHA-256 outputs that the operation puts into what it stores. -/
def hashes (engine : Engine) : Op → List Digest
  | .submitEvidence submission =>
      [computeEvidenceIntegrity (submissionRecord submission engine.control.evidenceGenerator.next
        (replacementGeneration (currentEvidence engine.state submission))
        engine.state.commitSequence.next)]
  | .revokeEvidence id reason _ => engine.control.evidence[id]?.toList.map fun record =>
      computeEvidenceIntegrity (revokedEvidence engine.state.advanceSequence record reason)
  | .evaluate request _ =>
      engine.state.activePolicyDigest :: engine.state.policy.graph.graphDigest ::
        (engine.state.findRevision request.artifact request.expectedRevision).toList.map
          fun artifact => computeSnapshotDigest artifact.id artifact.revision artifact.digest
            (snapshotEntries engine.state artifact.id artifact.revision)
  | .releaseQuarantine id _ _ _ => (engine.state.findCurrent id).toList.map fun artifact =>
      computeSnapshotDigest artifact.id artifact.revision artifact.digest
        (snapshotEntries engine.state artifact.id artifact.revision)
  | _ => []

def AuthorityValid (engine : Engine) : Prop :=
  engine.state.coordinator.valid = true ∧ engine.state.epoch.valid = true

theorem step_authority_valid (sound : engine.Sound) (valid : engine.AuthorityValid) {op : Op}
    {reply : Reply} (moved : engine.step op = some (reply, next)) : next.AuthorityValid := by
  have named {authority : CoordinatorAuthority} (same : next.control.authority = authority)
      (coordinator : authority.coordinator.valid = true) (epoch : authority.epoch.valid = true) :
      next.AuthorityValid := by
    have changed : next.state.authority = authority := same
    rw [← changed] at coordinator epoch
    exact ⟨coordinator, epoch⟩
  have kept (same : next.control.authority = engine.control.authority) : next.AuthorityValid :=
    named same valid.1 valid.2
  cases step_effect moved with
  | restarted advances changed =>
      refine named (congrArg Control.authority changed) valid.1 ?_
      have above := UInt64.lt_iff_toNat_lt.mp advances
      unfold Counter.valid
      rw [bne_iff_ne]
      rintro zero
      rw [zero, UInt64.toNat_zero] at above
      omega
  | @reloaded advance image _ decoded changed =>
      have image_eq := decoded_image sound decoded
      rw [StatePersistence.restoredState_eq] at image_eq
      have coordinator : image.coordinator = engine.state.coordinator := by
        rw [image_eq]
        rfl
      have epoch : image.epoch = engine.state.epoch := by
        rw [image_eq]
        rfl
      refine named (congrArg Control.authority changed) ?_ ?_
      · dsimp only
        rw [coordinator]
        exact valid.1
      · dsimp only
        split
        · exact Counter.next_valid _
        · rw [epoch]
          exact valid.2
  | closed released _ _ _ _ changed =>
      refine kept ?_
      rw [changed]
      cases released <;> rfl
  | idle _ changed | published _ _ changed | recovered changed
  | compatibilityMoved _ changed | registrationRefused _ _ changed
  | registered _ _ _ _ _ _ _ changed | submitted _ _ _ _ changed | undecided _ _ _ changed
  | decided _ _ _ _ _ _ changed | issued _ _ _ _ _ _ changed
  | committed _ _ _ _ _ changed | quarantined _ _ _ _ changed | releaseRefused _ _ changed
  | released _ _ _ _ _ _ _ _ changed | revoked _ _ _ _ _ _ changed
  | superseded _ _ _ _ _ _ changed | retired _ _ _ changed | evidenceRevoked _ _ changed =>
      have same := congrArg Control.authority changed
      exact kept same

def ArtifactsValid (engine : Engine) : Prop :=
  ∀ id, ∀ record ∈ engine.state.chain id, record.valid = true

theorem step_artifacts_valid (sound : engine.Sound) (policy : engine.PolicyValid)
    (epoch : engine.state.epoch.valid = true) (valid : engine.ArtifactsValid) {op : Op}
    {reply : Reply} (moved : engine.step op = some (reply, next)) : next.ArtifactsValid := by
  intro id record inside
  obtain ⟨index, held⟩ := List.mem_iff_getElem?.mp inside
  rcases step_position sound moved held with ⟨old, before, change⟩ |
    ⟨registration, now, rfl, rfl, rfl, _⟩
  · have earlier := valid id old (List.mem_of_getElem? before)
    obtain ⟨content, trust⟩ := (ArtifactRecord.valid_iff old).mp earlier
    have sequence : engine.state.advanceSequence.commitSequence.valid = true :=
      Counter.next_valid engine.state.commitSequence
    have stamped : (engine.state.advanceSequence.stampAuthority.valid &&
        engine.state.advanceSequence.commitSequence.valid) = true := by
      have authority : engine.state.advanceSequence.stampAuthority.valid = true :=
        stampAuthority_valid epoch
      rw [authority, sequence, Bool.and_self]
    cases change with
    | kept => exact earlier
    | restored =>
        rw [ArtifactRecord.restored_valid]
        exact earlier
    | overtaken state revision named current fresh =>
        subst named
        exact overtaken_valid moved before current held earlier
    | applied named first accepts =>
        have target := accepts.wellFormed
        simp only [PromotionPlan.valid, Bool.and_eq_true, bne_iff_ne] at target
        obtain ⟨_, _, _, _, same⟩ := promotedArtifact_eq engine.state.advanceSequence _ old
        rw [same, ArtifactRecord.valid_iff]
        exact ⟨content, target.1.1.1.1.1.1.1.1.1.2, Counter.next_valid _, trust.quarantine,
          trust.revocation, trust.supersession⟩
    | quarantined =>
        rw [ArtifactRecord.valid_iff]
        exact ⟨content, by simp [quarantinedArtifact], Counter.next_valid _, stamped,
          trust.revocation, trust.supersession⟩
    | released =>
        rw [ArtifactRecord.valid_iff]
        exact ⟨content, by simp [releasedArtifact], Counter.next_valid _, rfl, trust.revocation,
          trust.supersession⟩
    | revoked =>
        rw [ArtifactRecord.valid_iff]
        exact ⟨content, by simp [revokedArtifact], Counter.next_valid _, trust.quarantine, stamped,
          trust.supersession⟩
    | @superseded successor reason authority now _ _ successorRecord current _ _ found =>
        have successor_valid := valid successor successorRecord (List.mem_of_getLast? found)
        obtain ⟨successorContent, _⟩ := (ArtifactRecord.valid_iff _).mp successor_valid
        have named := findCurrent_id sound.coherent found
        have superseded : (successor.valid && successorRecord.revision.valid &&
            engine.state.advanceSequence.commitSequence.valid) = true := by
          rw [← named, successorContent.1, successorContent.2.1, sequence]
          rfl
        rw [ArtifactRecord.valid_iff]
        exact ⟨content, by simp [supersededArtifact], Counter.next_valid _, trust.quarantine,
          trust.revocation, superseded⟩
    | retired =>
        rw [ArtifactRecord.valid_iff]
        exact ⟨content, by simp [retiredArtifact], Counter.next_valid _, trust.quarantine,
          trust.revocation, trust.supersession⟩
  · exact registered_valid policy moved

def EvidenceValid (engine : Engine) : Prop :=
  ∀ (id : EvidenceId) (record : EvidenceRecord), engine.control.evidence[id]? = some record →
    record.valid = true

theorem step_evidence_valid (stored : engine.StoreSound) (authority : engine.AuthorityValid)
    (valid : engine.EvidenceValid) {op : Op} {reply : Reply}
    (moved : engine.step op = some (reply, next))
    (nonzero : ∀ digest ∈ engine.hashes op, digest.valid = true) : next.EvidenceValid := by
  have sound := stored.sound
  have kept (same : next.control.evidence = engine.control.evidence) : next.EvidenceValid := by
    intro id record held
    rw [same] at held
    exact valid id record held
  cases step_storeChange sound moved with
  | kept same => exact kept same
  | reloaded changed => exact kept (changed.trans (restored_evidence stored.recorded))
  | @revoked revokedId reason _ old found unrevoked changed =>
      intro id record held
      rw [changed] at held
      rcases OrderedMaps.insert_cases held with ⟨_, rfl⟩ | ⟨_, before⟩
      · obtain ⟨content, _, _⟩ := (EvidenceRecord.valid_iff old).mp (valid _ _ found)
        rw [EvidenceRecord.valid_iff]
        refine ⟨content, ?_, fun _ => stampAuthority_valid authority.2⟩
        refine nonzero _ ?_
        rw [hashes, found]
        exact List.mem_singleton_self _
      · exact valid id record before
  | @submitted submission artifact added validated found digest made changed =>
      intro id record held
      rw [changed] at held
      rcases submitted_entry held with ⟨_, rfl⟩ | before | ⟨old, before, rfl⟩
      · have numbered : (replacementGeneration (currentEvidence engine.state submission)).valid =
            true := by
          cases currentEvidence engine.state submission with
          | none => rfl
          | some previous => exact Counter.next_valid _
        rw [made, EvidenceRecord.valid_iff]
        refine ⟨EvidenceSubmission.validate_content validated (IdentityGenerator.next_valid _)
          numbered (Counter.next_valid _), ?_, fun revoked => ?_⟩
        · exact nonzero _ (List.mem_singleton_self _)
        · simp [submissionRecord] at revoked
      · exact valid id record before
      · have earlier := valid id old before
        exact earlier

theorem activePolicy_valid (sound : engine.Sound) (policy : engine.PolicyValid) :
    engine.state.activePolicy.valid = true ∧ engine.state.activePolicyGeneration.valid = true := by
  obtain ⟨header, _⟩ := (PromotionPolicy.validate_eq_ok _).mp policy
  simp only [PromotionPolicy.checkHeader, bind_eq_ok, rejectWhen_eq_ok, Identity.invalid,
    Bool.not_eq_false'] at header
  obtain ⟨_, id, _, generation, _⟩ := header
  have id_eq : engine.state.activePolicy = engine.state.policy.id := sound.coherent.policyId
  have generation_eq : engine.state.activePolicyGeneration = engine.state.policy.generation :=
    sound.coherent.policyGeneration
  rw [id_eq, generation_eq]
  exact ⟨id, generation⟩

theorem authority_valid (valid : engine.AuthorityValid) : engine.state.authority.valid = true := by
  rw [CoordinatorAuthority.valid, Bool.and_eq_true]
  exact valid

theorem planOf_valid (sound : engine.Sound) (authority : engine.AuthorityValid)
    (policy : engine.PolicyValid) (artifacts : engine.ArtifactsValid) {request : PromotionRequest}
    {now : UInt64} {artifact : ArtifactRecord} (issues : engine.Issues request now artifact)
    (nonzero : ∀ digest ∈ engine.hashes (.evaluate request now), digest.valid = true) :
    (engine.planOf request artifact now).valid = true := by
  obtain ⟨policyId, policyGeneration⟩ := activePolicy_valid sound policy
  have inside := (findRevision_mem issues.found).1
  obtain ⟨⟨id, revision, generation, kind, digest, _⟩, trust⟩ :=
    (ArtifactRecord.valid_iff artifact).mp (artifacts request.artifact artifact inside)
  have wellFormed := issues.wellFormed
  simp only [requestIsWellFormed, Bool.and_eq_true, bne_iff_ne] at wellFormed
  obtain ⟨⟨⟨⟨⟨_, target⟩, _⟩, requested⟩, attempted⟩, _⟩ := wellFormed
  have policyDigest : engine.state.activePolicyDigest.valid = true :=
    nonzero _ (by simp [hashes])
  have lifecycleDigest : engine.state.policy.graph.graphDigest.valid = true :=
    nonzero _ (by simp [hashes])
  have snapshotDigest : (engine.planOf request artifact now).evidenceSnapshotDigest.valid = true := by
    rw [planOf_snapshot issues]
    exact nonzero _ (by simp [hashes, issues.found])
  have decision : (engine.planOf request artifact now).decision.valid = true := by
    rw [planOf_decision]
    exact IdentityGenerator.next_valid _
  have sequence : (engine.planOf request artifact now).decisionSequence.valid = true := by
    obtain ⟨_, _, _, _, _, _, _, _, _, _, decided⟩ := evaluateGates_eligible issues.eligible
    have sequenced := congrArg PromotionDecision.sequence decided
    change (engine.evaluationOf request artifact now).decision.sequence.valid = true
    change (engine.evaluationOf request artifact now).decision.sequence =
      engine.state.decisionSequence.next at sequenced
    rw [sequenced]
    exact Counter.next_valid _
  have created : (engine.planOf request artifact now).createdSequence.valid = true :=
    Counter.next_valid engine.state.commitSequence
  have named : (engine.planOf request artifact now).id.valid = true :=
    IdentityGenerator.next_valid engine.state.planGenerator
  simp only [PromotionPlan.valid, Bool.and_eq_true, bne_iff_ne]
  exact ⟨⟨⟨⟨⟨⟨⟨⟨⟨⟨⟨⟨⟨⟨⟨⟨⟨⟨⟨named, requested⟩, attempted⟩, decision⟩, id⟩, revision⟩, generation⟩,
    digest⟩, kind⟩, trust.stage⟩, target⟩, trust.stageGeneration⟩, policyId⟩, policyGeneration⟩,
    policyDigest⟩, lifecycleDigest⟩, authority_valid authority⟩, snapshotDigest⟩, created⟩, sequence⟩

def PlansValid (engine : Engine) : Prop :=
  ∀ (id : PromotionPlanId) (plan : PromotionPlan), engine.control.plans[id]? = some plan →
    plan.valid = true ∧ ∃ artifact, engine.state.findRevision plan.artifact plan.artifactRevision =
      some artifact ∧ artifact.digest = plan.artifactDigest

theorem step_plans_valid (sound : engine.Sound) (authority : engine.AuthorityValid)
    (policy : engine.PolicyValid) (artifacts : engine.ArtifactsValid) (valid : engine.PlansValid)
    {op : Op} {reply : Reply} (moved : engine.step op = some (reply, next))
    (nonzero : ∀ digest ∈ engine.hashes op, digest.valid = true) : next.PlansValid := by
  intro id plan held
  rcases step_plan_stored sound moved held with ⟨old, before, same⟩ |
    ⟨request, now, artifact, rfl, issues, rfl, _⟩
  · obtain ⟨earlier, bound⟩ := valid id old before
    rcases same with rfl | rfl
    · exact ⟨earlier, step_subject_found sound moved bound⟩
    · exact ⟨earlier, step_subject_found sound moved bound⟩
  · refine ⟨planOf_valid sound authority policy artifacts issues nonzero, ?_⟩
    have named := findRevision_id sound.coherent issues.found
    have revised := (findRevision_mem issues.found).2
    refine step_subject_found sound moved ⟨artifact, ?_, rfl⟩
    change engine.state.findRevision artifact.id artifact.revision = some artifact
    rw [named, revised]
    exact issues.found

def DecisionsKnown (engine : Engine) : Prop :=
  ∀ (id : PromotionDecisionId) (decision : PromotionDecision),
    engine.control.decisions[id]? = some decision → decision.outcome ≠ .invalid

theorem step_decisions_known (sound : engine.Sound) (known : engine.DecisionsKnown) {op : Op}
    {reply : Reply} (moved : engine.step op = some (reply, next)) : next.DecisionsKnown := by
  intro id decision held
  have kept (same : next.control.decisions = engine.control.decisions) :
      decision.outcome ≠ .invalid := by
    rw [same] at held
    exact known id decision held
  have put {key : PromotionDecisionId} {made : PromotionDecision}
      (changed : next.control.decisions = engine.control.decisions.insert key made)
      (outcome : made.outcome ≠ .invalid) : decision.outcome ≠ .invalid := by
    rw [changed] at held
    rcases OrderedMaps.insert_cases held with ⟨_, rfl⟩ | ⟨_, before⟩
    · exact outcome
    · exact known id decision before
  cases step_effect moved with
  | undecided _ opens _ changed | decided _ _ opens _ _ _ changed
  | issued _ _ _ _ opens _ changed =>
      have decisions := congrArg Control.decisions changed
      exact put decisions opens.known
  | releaseRefused _ outcome changed | released _ _ _ _ _ outcome _ _ changed =>
      have decisions := congrArg Control.decisions changed
      exact put decisions outcome
  | committed _ _ _ _ final changed =>
      have decisions := congrArg Control.decisions changed
      refine put decisions ?_
      rw [final]
      simp
  | @closed plan _ _ rewritten _ released _ stored _ rewrites changed =>
      have decisions : next.control.decisions =
          engine.control.decisions.insert plan.decision rewritten := by
        rw [changed]
        cases released <;> rfl
      refine put decisions ?_
      rcases rewrites.known with outcome | same
      · exact outcome
      · have present := (sound.coherent.plans _ _ stored).2.2.2
        obtain ⟨old, present⟩ := OrderedMaps.contains_iff.mp present
        rw [same, Std.ExtTreeMap.getD_eq_getD_getElem?, present]
        exact known _ old present
  | reloaded decoded changed =>
      rw [(image_reloaded sound decoded changed).decisions, Std.ExtTreeMap.getElem?_map] at held
      obtain ⟨old, before, rfl⟩ := Option.map_eq_some_iff.mp held
      exact known id old before
  | idle _ changed | published _ _ changed | restarted _ changed | recovered changed
  | compatibilityMoved _ changed | registrationRefused _ _ changed
  | registered _ _ _ _ _ _ _ changed | submitted _ _ _ _ changed
  | quarantined _ _ _ _ changed | revoked _ _ _ _ _ _ changed
  | superseded _ _ _ _ _ _ changed | retired _ _ _ changed | evidenceRevoked _ _ changed =>
      have same := congrArg Control.decisions changed
      exact kept same

theorem releases_records (sound : engine.Sound) {id : ArtifactId}
    {authority : CoordinatorAuthority} {now : UInt64} {artifact : ArtifactRecord}
    (releases : engine.Releases id authority now artifact) (later : UInt64) :
    ∃ request decision, request.authority = engine.state.authority ∧
      decision.evidenceSnapshotDigest = computeSnapshotDigest artifact.id artifact.revision
        artifact.digest (snapshotEntries engine.state artifact.id artifact.revision) ∧
      (engine.releaseQuarantine id authority now later).2.control.records =
        putBounded engine.config.maxRecordsRetained engine.control.records
          engine.control.transitionGenerator.next
          (releaseRecord engine.state.advanceSequence artifact request decision later) := by
  have eligible := releases.eligible
  obtain ⟨first, _, found, _, _, _, entries, _⟩ := evaluateGates_eligible eligible
  have named : first.id = artifact.id := by
    have same := findRevision_id sound.coherent found
    rw [same]
    exact (findCurrent_id sound.coherent releases.found).symm
  have revised : first.revision = artifact.revision := (findRevision_mem found).2
  rw [named, revised] at entries
  let evaluation := evaluateGates engine.config engine.releaseState
    (releaseRequest engine.state id artifact) now
    (releaseDecision engine.state id artifact (releaseRequest engine.state id artifact))
  refine ⟨releaseRequest engine.state id artifact, { evaluation.decision with
    outcome := evaluation.result.outcome, decidedUnixMillis := some now
    evidenceSnapshotDigest := computeSnapshotDigest artifact.id artifact.revision
      artifact.digest evaluation.entries }, rfl, ?_, ?_⟩
  · dsimp only [evaluation]
    rw [entries]
    rfl
  · unfold releaseState at eligible
    unfold releaseQuarantine
    simp only [releases.admitted, releases.found, releases.quarantined, releases.native, eligible,
      Bool.not_true, Bool.false_eq_true, ↓reduceIte]
    rfl

/-- Every promotion record passes its own check and is about a revision with the digest it
carries. -/
def RecordsValid (engine : Engine) : Prop :=
  ∀ (id : TransitionId) (record : PromotionRecord), engine.control.records[id]? = some record →
    record.valid = true ∧ ∃ artifact, engine.state.findRevision record.artifact
      record.artifactRevision = some artifact ∧ artifact.digest = record.artifactDigest

theorem current_distinct {base : UInt64} (apart : engine.RevisionsApart base) {id : ArtifactId}
    {artifact : ArtifactRecord} (found : engine.state.findCurrent id = some artifact) :
    engine.state.findRevision id artifact.revision = some artifact := by
  obtain ⟨position, held⟩ := List.mem_iff_getElem?.mp (List.mem_of_getLast? found)
  cases first : engine.state.findRevision id artifact.revision with
  | none =>
      have absent := List.find?_eq_none.mp first artifact (List.mem_of_getLast? found)
      simp at absent
  | some other =>
      obtain ⟨inside, same⟩ := findRevision_mem first
      obtain ⟨index, there⟩ := List.mem_iff_getElem?.mp inside
      obtain ⟨_, rfl⟩ := apart.apart id id index position other artifact there held same
      exact there.symm.trans held

theorem trustRecord_valid (sound : engine.Sound) (authority : engine.AuthorityValid)
    (policy : engine.PolicyValid) {changed : ArtifactRecord} (content : changed.ContentValid)
    (sequence : changed.lastSequence = engine.state.commitSequence.next) {source target : Stage}
    (known : source ≠ .invalid) (reached : target ≠ .invalid ∧ target ≠ .promoted)
    (decision : PromotionDecisionId) (now : UInt64) (note : Text) :
    (trustRecord engine.state.advanceSequence changed source target decision now note).valid =
      true := by
  obtain ⟨policyId, policyGeneration⟩ := activePolicy_valid sound policy
  obtain ⟨id, revision, _, _, digest, _⟩ := content
  have sequenced : changed.lastSequence.valid = true := by
    rw [sequence]
    exact Counter.next_valid _
  simp only [PromotionRecord.valid, Bool.and_eq_true, Bool.or_eq_true, bne_iff_ne]
  exact ⟨⟨⟨⟨⟨⟨⟨⟨⟨⟨⟨IdentityGenerator.next_valid _, id⟩, revision⟩, digest⟩, known⟩, reached.1⟩,
    .inl reached.2⟩, policyId⟩, policyGeneration⟩, authority_valid authority⟩, digest⟩, sequenced⟩

theorem commitRecord_valid {plan : PromotionPlan} (valid : plan.valid = true) {source : Stage}
    (known : source ≠ .invalid) (now : UInt64) :
    (commitRecord engine.state.advanceSequence plan source now).valid = true := by
  have sequenced : engine.state.advanceSequence.commitSequence.valid = true :=
    Counter.next_valid engine.state.commitSequence
  simp only [PromotionPlan.valid, Bool.and_eq_true, bne_iff_ne] at valid
  obtain ⟨⟨⟨⟨⟨⟨⟨⟨⟨⟨⟨⟨⟨⟨⟨⟨⟨⟨⟨_, _⟩, _⟩, decision⟩, artifact⟩, revision⟩, _⟩, digest⟩, _⟩, _⟩,
    target⟩, _⟩, policy⟩, generation⟩, _⟩, _⟩, authority⟩, snapshot⟩, _⟩, _⟩ := valid
  simp only [PromotionRecord.valid, Bool.and_eq_true, Bool.or_eq_true, bne_iff_ne]
  exact ⟨⟨⟨⟨⟨⟨⟨⟨⟨⟨⟨IdentityGenerator.next_valid _, artifact⟩, revision⟩, digest⟩, known⟩, target⟩,
    .inr decision⟩, policy⟩, generation⟩, authority⟩, snapshot⟩, sequenced⟩

theorem releaseRecord_valid (sound : engine.Sound) (authority : engine.AuthorityValid)
    (policy : engine.PolicyValid) {artifact : ArtifactRecord} (valid : artifact.valid = true)
    {request : PromotionRequest} {decision : PromotionDecision}
    (authorized : request.authority = engine.state.authority)
    (snapshot : decision.evidenceSnapshotDigest.valid = true) (later : UInt64) :
    (releaseRecord engine.state.advanceSequence artifact request decision later).valid = true := by
  obtain ⟨policyId, policyGeneration⟩ := activePolicy_valid sound policy
  obtain ⟨⟨id, revision, _, _, digest, _⟩, trust⟩ := (ArtifactRecord.valid_iff artifact).mp valid
  have authorityValid : request.authority.valid = true := by
    rw [authorized]
    exact authority_valid authority
  have sequenced : engine.state.advanceSequence.commitSequence.valid = true :=
    Counter.next_valid engine.state.commitSequence
  simp only [PromotionRecord.valid, Bool.and_eq_true, Bool.or_eq_true, bne_iff_ne]
  exact ⟨⟨⟨⟨⟨⟨⟨⟨⟨⟨⟨IdentityGenerator.next_valid _, id⟩, revision⟩, digest⟩, trust.stage⟩,
    by simp [releaseRecord]⟩, .inl (by simp [releaseRecord])⟩, policyId⟩, policyGeneration⟩,
    authorityValid⟩, snapshot⟩, sequenced⟩

theorem step_release_records (sound : engine.Sound) (authority : engine.AuthorityValid)
    (policy : engine.PolicyValid) (artifacts : engine.ArtifactsValid) {id : ArtifactId}
    {named : CoordinatorAuthority} {now later : UInt64} {reply : Reply}
    (moved : engine.step (.releaseQuarantine id named now later) = some (reply, next))
    (nonzero : ∀ digest ∈ engine.hashes (.releaseQuarantine id named now later),
      digest.valid = true) {transition : TransitionId} {record : PromotionRecord}
    (held : next.control.records[transition]? = some record) :
    engine.control.records[transition]? = some record ∨ (record.valid = true ∧
      ∃ artifact, engine.state.findCurrent id = some artifact ∧ record.artifact = artifact.id ∧
        record.artifactRevision = artifact.revision ∧
        record.artifactDigest = artifact.digest) := by
  have performed := (step_eq_some moved).1
  rcases release_releases id named now later with unchanged | ⟨artifact, releases⟩
  · rw [mutated_next performed] at unchanged
    have same : next.control.records = engine.control.records := unchanged.2
    rw [same] at held
    exact .inl held
  · obtain ⟨request, decision, authorized, snapshot, records⟩ :=
      releases_records sound releases later
    rw [mutated_next performed] at records
    rw [records] at held
    rcases putBounded_entry held with ⟨_, rfl⟩ | ⟨_, before⟩
    · have valid := artifacts id artifact (List.mem_of_getLast? releases.found)
      refine .inr ⟨releaseRecord_valid sound authority policy valid authorized ?_ later, artifact,
        releases.found, rfl, rfl, rfl⟩
      rw [snapshot]
      exact nonzero _ (by simp [hashes, releases.found])
    · exact .inl before

theorem step_records_valid {base : UInt64} (sound : engine.Sound)
    (apart : engine.RevisionsApart base) (authority : engine.AuthorityValid)
    (policy : engine.PolicyValid) (artifacts : engine.ArtifactsValid) (plans : engine.PlansValid)
    (valid : engine.RecordsValid) {op : Op} {reply : Reply}
    (moved : engine.step op = some (reply, next))
    (nonzero : ∀ digest ∈ engine.hashes op, digest.valid = true) : next.RecordsValid := by
  intro transition record held
  have carry {artifact : ArtifactRecord} {id : ArtifactId}
      (found : engine.state.findCurrent id = some artifact) :
      ∃ later, next.state.findRevision artifact.id artifact.revision = some later ∧
        later.digest = artifact.digest := by
    refine step_subject_found sound moved ⟨artifact, ?_, rfl⟩
    rw [findCurrent_id sound.coherent found]
    exact current_distinct apart found
  have earlier {old : PromotionRecord} (before : engine.control.records[transition]? = some old) :
      old.valid = true ∧ ∃ artifact, next.state.findRevision old.artifact old.artifactRevision =
        some artifact ∧ artifact.digest = old.artifactDigest := by
    obtain ⟨was, bound⟩ := valid transition old before
    exact ⟨was, step_subject_found sound moved bound⟩
  have recorded {artifact : ArtifactRecord} {id : ArtifactId}
      (found : engine.state.findCurrent id = some artifact) (changed : ArtifactRecord)
      (same : artifact.ContentValid → changed.ContentValid)
      (subject : changed.id = artifact.id ∧ changed.revision = artifact.revision ∧
        changed.digest = artifact.digest)
      (sequence : changed.lastSequence = engine.state.commitSequence.next) (target : Stage)
      (reached : target ≠ .invalid ∧ target ≠ .promoted) (decision : PromotionDecisionId)
      (now : UInt64) (note : Text) :
      (trustRecord engine.state.advanceSequence changed artifact.stage target decision now
        note).valid = true ∧
        ∃ later, next.state.findRevision changed.id changed.revision = some later ∧
          later.digest = changed.digest := by
    have was := artifacts id artifact (List.mem_of_getLast? found)
    obtain ⟨content, trust⟩ := (ArtifactRecord.valid_iff artifact).mp was
    refine ⟨trustRecord_valid sound authority policy (same content) sequence trust.stage reached
      _ _ _, ?_⟩
    rw [subject.1, subject.2.1, subject.2.2]
    exact carry found
  cases step_logged sound moved held with
  | held old before same =>
      have was := earlier before
      rcases same with rfl | rfl
      · exact was
      · exact was
  | committed artifact accepts =>
      have was := artifacts _ artifact (findRevision_mem accepts.found).1
      obtain ⟨_, trust⟩ := (ArtifactRecord.valid_iff artifact).mp was
      obtain ⟨_, bound⟩ := plans _ _ accepts.stored
      exact ⟨commitRecord_valid accepts.wellFormed trust.stage _,
        step_subject_found sound moved bound⟩
  | released artifact request decision found authorized =>
      rcases step_release_records sound authority policy artifacts moved nonzero held with
        before | ⟨made, current, present, named, revised, digest⟩
      · exact earlier before
      · refine ⟨made, ?_⟩
        rw [named, revised, digest]
        exact carry present
  | revoked artifact target found _ =>
      exact recorded found (revokedArtifact engine.state.advanceSequence artifact target _ _ _) id
        ⟨rfl, rfl, rfl⟩ rfl .revoked ⟨by simp, by simp⟩ _ _ _
  | superseded artifact successor found =>
      exact recorded found (supersededArtifact engine.state.advanceSequence artifact successor _ _)
        id ⟨rfl, rfl, rfl⟩ rfl .superseded ⟨by simp, by simp⟩ _ _ _
  | retired artifact found =>
      exact recorded found (retiredArtifact engine.state.advanceSequence artifact) id
        ⟨rfl, rfl, rfl⟩ rfl .retired ⟨by simp, by simp⟩ _ _ _

end Engine

end ArtifactPromotion
