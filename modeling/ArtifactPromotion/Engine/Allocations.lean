import ArtifactPromotion.Core.Generators
import ArtifactPromotion.Engine.Generations
import ArtifactPromotion.Engine.Reloads

/-! The identity generators of the coordinator: what one operation takes from each of them, and what
a reload leaves of them. -/

namespace ArtifactPromotion

open Runs

namespace IdentityGenerator

variable {tag : IdentityTag} {generator : IdentityGenerator tag}

def Steady (before after : IdentityGenerator tag) : Prop := after = before ∨ after = before.advance

def turn (generator : IdentityGenerator tag) : Nat := generator.counter.toNat % (2 ^ 64 - 1)

theorem advance_turn (generator : IdentityGenerator tag) :
    generator.advance.turn = (generator.turn + 1) % (2 ^ 64 - 1) := by
  have bound := generator.counter.toNat_lt
  unfold turn advance
  split
  · rename_i wraps
    have value := congrArg UInt64.toNat wraps
    rw [UInt64.toNat_add] at value
    simp only [UInt64.reduceToNat] at value ⊢
    omega
  · rename_i stays
    have value : (generator.counter + 1).toNat ≠ 0 := by
      intro zero
      exact stays (UInt64.toNat_inj.mp zero)
    rw [UInt64.toNat_add] at value ⊢
    simp only [UInt64.reduceToNat] at value ⊢
    omega

theorem advance_ne (generator : IdentityGenerator tag) : generator.advance ≠ generator := by
  intro same
  have turned := generator.advance_turn
  rw [same] at turned
  have bound : generator.turn < 2 ^ 64 - 1 := Nat.mod_lt _ (by decide)
  omega

theorem Steady.salted {after : IdentityGenerator tag} (steady : Steady generator after)
    (salted : generator.salt ≠ 0) : after.salt ≠ 0 := by
  rcases steady with rfl | rfl
  · exact salted
  · exact advance_salted salted

theorem Issued.steady {after : IdentityGenerator tag} {id : Identity tag}
    (issued : generator.Issued id) (steady : Steady generator after)
    (room : after ≠ generator → generator.counter.toNat < 2 ^ 64 - 1) : after.Issued id := by
  rcases steady with rfl | rfl
  · exact issued
  · exact issued.advance (room (advance_ne generator))

theorem observeAll_passed {ids : List (Identity tag)}
    (passed : ∀ id ∈ ids, id.high = generator.salt → id.low.toNat ≤ generator.counter.toNat) :
    StatePersistence.observeAll generator ids = generator := by
  unfold StatePersistence.observeAll
  induction ids with
  | nil => rfl
  | cons id rest ih =>
      rw [List.forall_mem_cons] at passed
      have same : generator.observeExisting id = generator := by
        unfold observeExisting
        split
        · rfl
        rename_i salt
        rw [if_neg]
        intro above
        have below := passed.1 (not_not.mp salt)
        have above := UInt64.lt_iff_toNat_lt.mp above
        omega
      rw [List.foldl_cons, same]
      exact ih passed.2

end IdentityGenerator

open IdentityGenerator

structure PrivateGenerators where
  reservation : IdentityGenerator .reservationId
  internalRequest : IdentityGenerator .promotionRequestId
  internalAttempt : IdentityGenerator .promotionAttemptId

def CoordinatorState.privateGenerators (state : CoordinatorState) : PrivateGenerators :=
  ⟨state.reservationGenerator, state.internalRequestGenerator, state.internalAttemptGenerator⟩

namespace Engine

variable {engine next : Engine}

def EvaluatesRelease (engine : Engine) (op : Op) : Prop :=
  ∃ id authority now later artifact, op = .releaseQuarantine id authority now later ∧
    engine.admissionOpen = true ∧ engine.state.findCurrent id = some artifact ∧
    artifact.quarantine.active = true ∧ foreignAuthority engine.state authority = false

theorem releaseAll_private (note : PendingTransition → Text) (state : CoordinatorState) :
    (releaseAll note state).privateGenerators = state.privateGenerators := by
  unfold releaseAll
  induction state.pending.keys generalizing state with
  | nil => rfl
  | cons id rest ih =>
      have first : (releaseOne note state id).privateGenerators = state.privateGenerators := by
        unfold releaseOne
        split <;> rfl
      rw [List.foldl_cons, ih, first]

structure ReservesOne (before after : PrivateGenerators) : Prop where
  reservation : Steady before.reservation after.reservation
  internalRequest : after.internalRequest = before.internalRequest
  internalAttempt : after.internalAttempt = before.internalAttempt

theorem ReservesOne.refl (held : PrivateGenerators) : ReservesOne held held := ⟨.inl rfl, rfl, rfl⟩

theorem issuePlan_private (config : EngineConfig) (state : CoordinatorState)
    (request : PromotionRequest) (artifact : ArtifactRecord) (evaluation : GateEvaluation)
    (now : UInt64) :
    ReservesOne state.privateGenerators
      (issuePlan config state request artifact evaluation now).state.privateGenerators := by
  unfold issuePlan
  generalize (if state.plans.size ≥ config.maxPlansRetained.toNat then eraseFirst state.plans
    else state.plans) = kept
  dsimp only
  split <;> exact ⟨.inr rfl, rfl, rfl⟩

theorem decideTransition_private (config : EngineConfig) (state : CoordinatorState)
    (request : PromotionRequest) (artifact : ArtifactRecord) (now : UInt64)
    (decision : PromotionDecision) :
    ReservesOne state.privateGenerators
      (decideTransition config state request artifact now decision).state.privateGenerators := by
  unfold decideTransition
  dsimp only
  repeat' split
  all_goals first
    | exact .refl _
    | exact issuePlan_private _ _ _ _ _ _

theorem evaluateFresh_private (request : PromotionRequest) (now : UInt64) :
    ReservesOne engine.state.privateGenerators
      (engine.evaluateFresh request now).2.state.privateGenerators := by
  unfold evaluateFresh
  dsimp only
  split
  · exact .refl _
  split
  · exact .refl _
  · exact decideTransition_private engine.config engine.state.openDecision _ _ _ _

theorem evaluate_private (engine : Engine) (request : PromotionRequest) (now : UInt64) :
    ReservesOne engine.state.privateGenerators
      (engine.evaluate request now).2.state.privateGenerators := by
  unfold evaluate
  repeat' split
  all_goals first
    | exact .refl _
    | exact evaluateFresh_private request now

theorem closeCommit_private (plan : PromotionPlan) (outcome : PromotionOutcome)
    (decision : PromotionDecision) (released : Bool) :
    (engine.closeCommit plan outcome decision released).2.state.privateGenerators =
      engine.state.privateGenerators := by
  unfold closeCommit
  cases released <;> rfl

theorem revalidate_private (plan : PromotionPlan) (artifact : ArtifactRecord)
    (decision : PromotionDecision) (now : UInt64) :
    (engine.revalidate plan artifact decision now).2.state.privateGenerators =
      engine.state.privateGenerators := by
  unfold revalidate
  dsimp only
  split
  · exact closeCommit_private _ _ _ _
  split
  · exact closeCommit_private _ _ _ _
  split
  · exact closeCommit_private _ _ _ _
  · rfl

theorem commitStored_private (plan : PromotionPlan) (now : UInt64) :
    (engine.commitStored plan now).2.state.privateGenerators =
      engine.state.privateGenerators := by
  unfold commitStored
  dsimp only
  split
  · rfl
  split
  · exact closeCommit_private _ _ _ _
  split
  · exact closeCommit_private _ _ _ _
  · exact revalidate_private _ _ _ _

theorem commit_private (plan : PromotionPlan) (now : UInt64) :
    (engine.commit plan now).2.state.privateGenerators = engine.state.privateGenerators := by
  unfold commit
  split
  · rfl
  split
  · rfl
  split
  · rfl
  split
  · rfl
  split
  · rfl
  · exact commitStored_private plan now

theorem Applied.privateGenerators {id : ArtifactId} {now : UInt64} {next : Engine}
    (applied : engine.Applied id now next) :
    next.state.privateGenerators = engine.state.privateGenerators := by
  rcases applied with rfl | ⟨_, _, _, _, _, _, rfl⟩
  · rfl
  · rfl

theorem quarantine_private (id : ArtifactId) (reasonClass detail : Text)
    (authority : CoordinatorAuthority) :
    (engine.quarantine id reasonClass detail authority).2.state.privateGenerators =
      engine.state.privateGenerators := by
  unfold quarantine
  dsimp only
  repeat' split
  all_goals rfl

theorem revokeEvidence_private (id : EvidenceId) (reason : Text)
    (authority : CoordinatorAuthority) :
    (engine.revokeEvidence id reason authority).2.state.privateGenerators =
      engine.state.privateGenerators := by
  unfold revokeEvidence
  dsimp only
  repeat' split
  all_goals rfl

theorem registerArtifact_private (registration : ArtifactRegistration) (now : UInt64) :
    (engine.registerArtifact registration now).2.state.privateGenerators =
      engine.state.privateGenerators := by
  have superseded (state : CoordinatorState) (revision : ArtifactRevision) (id : ArtifactId) :
      (supersedePrevious state revision id).privateGenerators = state.privateGenerators := by
    unfold supersedePrevious
    split <;> rfl
  unfold registerArtifact
  dsimp only
  repeat' split
  all_goals first
    | rfl
    | exact superseded _ _ _

theorem submitEvidence_private (submission : EvidenceSubmission) :
    (engine.submitEvidence submission).2.state.privateGenerators =
      engine.state.privateGenerators := by
  unfold submitEvidence addEvidence
  dsimp only
  repeat' split
  all_goals rfl

theorem releaseQuarantine_private (engine : Engine) (id : ArtifactId) (authority : CoordinatorAuthority)
    (now later : UInt64) :
    (engine.EvaluatesRelease (.releaseQuarantine id authority now later) ∧
      (engine.releaseQuarantine id authority now later).2.state.privateGenerators =
        ⟨engine.state.reservationGenerator, engine.state.internalRequestGenerator.advance,
          engine.state.internalAttemptGenerator.advance⟩) ∨
    (¬engine.EvaluatesRelease (.releaseQuarantine id authority now later) ∧
      (engine.releaseQuarantine id authority now later).2.state.privateGenerators =
        engine.state.privateGenerators) := by
  unfold releaseQuarantine
  split
  · rename_i closed
    refine .inr ⟨?_, rfl⟩
    rintro ⟨_, _, _, _, _, _, admitted, _⟩
    simp [admitted] at closed
  rename_i admitted
  cases found : engine.state.findCurrent id with
  | none =>
      refine .inr ⟨?_, rfl⟩
      rintro ⟨_, _, _, _, artifact, op_eq, _, other, _⟩
      cases op_eq
      simp [found] at other
  | some artifact =>
      dsimp only
      split
      · rename_i inactive
        refine .inr ⟨?_, rfl⟩
        rintro ⟨_, _, _, _, other, op_eq, _, otherFound, active, _⟩
        cases op_eq
        rw [found] at otherFound
        cases otherFound
        simp [active] at inactive
      rename_i active
      split
      · rename_i foreign
        refine .inr ⟨?_, rfl⟩
        rintro ⟨_, _, _, _, _, op_eq, _, _, _, native⟩
        cases op_eq
        simp [native] at foreign
      rename_i native
      refine .inl ⟨⟨id, authority, now, later, artifact, rfl, by simpa using admitted, found,
        by simpa using active, by simpa using native⟩, ?_⟩
      split <;> rfl

theorem answerWith_private {α : Type} {reply : Reply} {wrap : α → Reply} {outcome : α × Engine}
    {held : PrivateGenerators} (kept : outcome.2.state.privateGenerators = held)
    (answered : answerWith wrap outcome = some (reply, next)) :
    next.state.privateGenerators = held := by
  simp only [answerWith, Option.some.injEq, Prod.mk.injEq] at answered
  rw [← answered.2, kept]

theorem perform_private {op : Op} {reply : Reply} (moved : engine.perform op = some (reply, next))
    (running : ∀ advance, op ≠ .reload advance) :
    Steady engine.state.reservationGenerator next.state.reservationGenerator ∧
      ((engine.EvaluatesRelease op ∧
        next.state.internalRequestGenerator = engine.state.internalRequestGenerator.advance ∧
        next.state.internalAttemptGenerator = engine.state.internalAttemptGenerator.advance) ∨
      (¬engine.EvaluatesRelease op ∧
        next.state.internalRequestGenerator = engine.state.internalRequestGenerator ∧
        next.state.internalAttemptGenerator = engine.state.internalAttemptGenerator)) := by
  have kept (other : ∀ id authority now later, op ≠ .releaseQuarantine id authority now later)
      (same : next.state.privateGenerators = engine.state.privateGenerators) :
      Steady engine.state.reservationGenerator next.state.reservationGenerator ∧
        ((engine.EvaluatesRelease op ∧
          next.state.internalRequestGenerator = engine.state.internalRequestGenerator.advance ∧
          next.state.internalAttemptGenerator = engine.state.internalAttemptGenerator.advance) ∨
        (¬engine.EvaluatesRelease op ∧
          next.state.internalRequestGenerator = engine.state.internalRequestGenerator ∧
          next.state.internalAttemptGenerator = engine.state.internalAttemptGenerator)) := by
    have quiet : ¬engine.EvaluatesRelease op := by
      rintro ⟨id, authority, now, later, _, op_eq, _⟩
      exact other id authority now later op_eq
    exact ⟨.inl (congrArg PrivateGenerators.reservation same), .inr ⟨quiet,
      congrArg PrivateGenerators.internalRequest same,
      congrArg PrivateGenerators.internalAttempt same⟩⟩
  cases op with
  | releaseQuarantine id authority now later =>
      rcases engine.releaseQuarantine_private id authority now later with
        ⟨releases, private_⟩ | ⟨quiet, private_⟩
      · have same := answerWith_private private_ moved
        exact ⟨.inl (congrArg PrivateGenerators.reservation same), .inl ⟨releases,
          congrArg PrivateGenerators.internalRequest same,
          congrArg PrivateGenerators.internalAttempt same⟩⟩
      · have same := answerWith_private private_ moved
        exact ⟨.inl (congrArg PrivateGenerators.reservation same), .inr ⟨quiet,
          congrArg PrivateGenerators.internalRequest same,
          congrArg PrivateGenerators.internalAttempt same⟩⟩
  | evaluate request now =>
      have quiet : ¬engine.EvaluatesRelease (.evaluate request now) := by
        rintro ⟨_, _, _, _, _, op_eq, _⟩
        cases op_eq
      simp only [perform, answerWith, Option.some.injEq, Prod.mk.injEq] at moved
      have reserves := engine.evaluate_private request now
      rw [moved.2] at reserves
      exact ⟨reserves.reservation, .inr ⟨quiet, reserves.internalRequest,
        reserves.internalAttempt⟩⟩
  | reload advance => exact absurd rfl (running advance)
  | publishPolicy policy =>
      obtain ⟨outcome, published, answered⟩ := Option.bind_eq_some_iff.mp moved
      refine kept (by simp) ?_
      refine answerWith_private ?_ answered
      obtain ⟨validation, _, answered⟩ := Option.map_eq_some_iff.mp published
      subst answered
      split
      · rfl
      · dsimp only
        split <;> rfl
  | restart epoch =>
      refine kept (by simp) ?_
      refine answerWith_private ?_ moved
      unfold restart
      split
      · rfl
      · exact releaseAll_private _ _
  | recoverInFlight =>
      refine kept (by simp) ?_
      refine answerWith_private ?_ moved
      unfold recoverInFlight
      dsimp only
      split <;> exact releaseAll_private _ _
  | registerArtifact registration now =>
      exact kept (by simp)
        (answerWith_private (registerArtifact_private registration now) moved)
  | submitEvidence submission =>
      exact kept (by simp)
        (answerWith_private (submitEvidence_private submission) moved)
  | commit plan now =>
      exact kept (by simp)
        (answerWith_private (commit_private plan now) moved)
  | quarantine id reasonClass detail authority =>
      exact kept (by simp)
        (answerWith_private (quarantine_private id reasonClass detail authority) moved)
  | revoke id decision reasonClass detail authority cause now =>
      exact kept (by simp) (answerWith_private
        (revoke_applied id decision reasonClass detail authority cause now).privateGenerators moved)
  | supersede id successor reason authority now =>
      exact kept (by simp) (answerWith_private
        (supersede_applied id successor reason authority now).privateGenerators moved)
  | retire id authority now =>
      exact kept (by simp) (answerWith_private
        (retire_applied id authority now).privateGenerators moved)
  | revokeEvidence id reason authority =>
      exact kept (by simp) (answerWith_private
        (revokeEvidence_private id reason authority) moved)
  | setSecurityVeto id active reason =>
      refine kept (by simp) ?_
      refine answerWith_private ?_ moved
      unfold setSecurityVeto setVeto
      split <;> rfl
  | setDependencyVeto id active reason =>
      refine kept (by simp) ?_
      refine answerWith_private ?_ moved
      unfold setDependencyVeto setVeto
      split <;> rfl
  | setCompatibilityGeneration generation =>
      refine kept (by simp) ?_
      refine answerWith_private ?_ moved
      unfold setCompatibilityGeneration
      split
      · rfl
      · split <;> rfl
  | closeAdmission =>
      simp only [perform, Option.some.injEq, Prod.mk.injEq] at moved
      exact kept (by simp) (by rw [← moved.2]; rfl)
  | openAdmission =>
      simp only [perform, Option.some.injEq, Prod.mk.injEq] at moved
      exact kept (by simp) (by rw [← moved.2]; rfl)

structure ControlSteady (before after : Control) : Prop where
  revision : Steady before.revisionGenerator after.revisionGenerator
  evidence : Steady before.evidenceGenerator after.evidenceGenerator
  plan : Steady before.planGenerator after.planGenerator
  decision : Steady before.decisionGenerator after.decisionGenerator
  transition : Steady before.transitionGenerator after.transitionGenerator

theorem step_controlSteady {op : Op} {reply : Reply}
    (moved : engine.step op = some (reply, next)) (running : ∀ advance, op ≠ .reload advance) :
    ControlSteady engine.control next.control := by
  cases step_effect moved with
  | reloaded _ _ => exact absurd rfl (running _)
  | closed released _ _ _ _ changed =>
      rw [changed]
      cases released <;> exact ⟨.inl rfl, .inl rfl, .inl rfl, .inl rfl, .inl rfl⟩
  | registrationRefused _ _ changed | registered _ _ _ _ _ _ _ changed =>
      rw [changed]
      exact ⟨.inr rfl, .inl rfl, .inl rfl, .inl rfl, .inl rfl⟩
  | submitted _ _ _ _ changed =>
      rw [changed]
      exact ⟨.inl rfl, .inr rfl, .inl rfl, .inl rfl, .inl rfl⟩
  | undecided _ _ _ changed | releaseRefused _ _ changed =>
      rw [changed]
      exact ⟨.inl rfl, .inl rfl, .inl rfl, .inr rfl, .inl rfl⟩
  | decided _ _ _ _ _ allocated changed =>
      rw [changed]
      exact ⟨.inl rfl, .inl rfl, allocated, .inr rfl, .inl rfl⟩
  | issued _ _ _ _ _ _ changed =>
      rw [changed]
      exact ⟨.inl rfl, .inl rfl, .inr rfl, .inr rfl, .inl rfl⟩
  | committed _ _ _ _ _ changed | revoked _ _ _ _ _ _ changed
  | superseded _ _ _ _ _ _ changed | retired _ _ _ changed =>
      rw [changed]
      exact ⟨.inl rfl, .inl rfl, .inl rfl, .inl rfl, .inr rfl⟩
  | released _ _ _ _ _ _ _ _ changed =>
      rw [changed]
      exact ⟨.inl rfl, .inl rfl, .inl rfl, .inr rfl, .inr rfl⟩
  | idle _ changed | published _ _ changed | restarted _ changed | recovered changed
  | compatibilityMoved _ changed | quarantined _ _ _ _ changed | evidenceRevoked _ _ changed =>
      rw [changed]
      exact ⟨.inl rfl, .inl rfl, .inl rfl, .inl rfl, .inl rfl⟩

structure Accounted (engine : Engine) : Prop where
  revisions : ∀ (id : ArtifactId), ∀ record ∈ engine.control.chain id,
    engine.control.revisionGenerator.Issued record.revision
  records : ∀ (id : TransitionId) (record : PromotionRecord),
    engine.control.records[id]? = some record → engine.control.transitionGenerator.Issued id
  revisionSalt : engine.control.revisionGenerator.salt ≠ 0
  transitionSalt : engine.control.transitionGenerator.salt ≠ 0
  reservationSalt : engine.state.reservationGenerator.salt ≠ 0

theorem step_record_keys (sound : engine.Sound) {op : Op} {reply : Reply}
    (moved : engine.step op = some (reply, next)) {id : TransitionId} {record : PromotionRecord}
    (held : next.control.records[id]? = some record) :
    (∃ old, engine.control.records[id]? = some old) ∨
      (id = engine.control.transitionGenerator.next ∧
        next.control.transitionGenerator = engine.control.transitionGenerator.advance) := by
  have kept (same : next.control.records = engine.control.records) :
      ∃ old, engine.control.records[id]? = some old := by
    rw [same] at held
    exact ⟨record, held⟩
  have added {bound : UInt64} {made : PromotionRecord}
      (changed : next.control.records =
        putBounded bound engine.control.records made.transition made)
      (named : made.transition = engine.control.transitionGenerator.next)
      (allocated : next.control.transitionGenerator =
        engine.control.transitionGenerator.advance) :
      (∃ old, engine.control.records[id]? = some old) ∨
        (id = engine.control.transitionGenerator.next ∧
          next.control.transitionGenerator = engine.control.transitionGenerator.advance) := by
    rw [changed] at held
    rcases putBounded_entry held with ⟨same, _⟩ | ⟨_, old⟩
    · exact .inr ⟨same.trans named, allocated⟩
    · exact .inl ⟨record, old⟩
  cases step_effect moved with
  | committed _ _ record_eq _ _ changed =>
      have records := congrArg Control.records changed
      have allocated := congrArg Control.transitionGenerator changed
      exact added records (by rw [record_eq]; rfl) allocated
  | released request _ _ _ _ _ _ record_eq changed =>
      have records := congrArg Control.records changed
      have allocated := congrArg Control.transitionGenerator changed
      exact added records (by rw [record_eq]; rfl) allocated
  | revoked _ _ _ _ _ record_eq changed =>
      have records := congrArg Control.records changed
      have allocated := congrArg Control.transitionGenerator changed
      exact added records (by rw [record_eq]; rfl) allocated
  | superseded _ _ _ _ _ record_eq changed =>
      have records := congrArg Control.records changed
      have allocated := congrArg Control.transitionGenerator changed
      exact added records (by rw [record_eq]; rfl) allocated
  | retired _ _ record_eq changed =>
      have records := congrArg Control.records changed
      have allocated := congrArg Control.transitionGenerator changed
      exact added records (by rw [record_eq]; rfl) allocated
  | closed released _ _ _ _ changed =>
      refine .inl (kept ?_)
      rw [changed]
      cases released <;> rfl
  | reloaded decoded changed =>
      have records := (image_reloaded sound decoded changed).records
      rw [records, Std.ExtTreeMap.getElem?_map] at held
      obtain ⟨old, present, _⟩ := Option.map_eq_some_iff.mp held
      exact .inl ⟨old, present⟩
  | idle _ changed | published _ _ changed | restarted _ changed | recovered changed
  | compatibilityMoved _ changed | registrationRefused _ _ changed
  | registered _ _ _ _ _ _ _ changed | submitted _ _ _ _ changed | undecided _ _ _ changed
  | decided _ _ _ _ _ _ changed | issued _ _ _ _ _ _ changed
  | quarantined _ _ _ _ changed | releaseRefused _ _ changed | evidenceRevoked _ _ changed =>
      have records := congrArg Control.records changed
      exact .inl (kept records)

theorem image_revisionGenerator (sound : engine.Sound)
    (salted : engine.control.revisionGenerator.salt ≠ 0)
    (passed : ∀ (id : ArtifactId), ∀ record ∈ engine.control.chain id,
      record.revision.high = engine.control.revisionGenerator.salt →
        record.revision.low.toNat ≤ engine.control.revisionGenerator.counter.toNat)
    {image : CoordinatorState}
    (decoded : StatePersistence.decode (StatePersistence.encode engine.snapshot) = .ok image) :
    image.revisionGenerator = engine.state.revisionGenerator := by
  have image_eq := decoded_image sound decoded
  rw [StatePersistence.restoredState_eq] at image_eq
  subst image_eq
  change StatePersistence.observeAll (StatePersistence.resumed engine.control.revisionGenerator)
    ((engine.control.artifacts.map fun _ chain =>
      chain.map ArtifactRecord.restored).toList.flatMap fun entry =>
        entry.2.map ArtifactRecord.revision) = engine.control.revisionGenerator
  rw [resumed_eq salted]
  refine observeAll_passed ?_
  intro revision inside
  obtain ⟨entry, member, inside⟩ := List.mem_flatMap.mp inside
  obtain ⟨record, recordInside, rfl⟩ := List.mem_map.mp inside
  rw [Std.ExtTreeMap.mem_toList_iff_getElem?_eq_some, Std.ExtTreeMap.getElem?_map] at member
  obtain ⟨chain, found, chain_eq⟩ := Option.map_eq_some_iff.mp member
  rw [← chain_eq] at recordInside
  obtain ⟨original, originalInside, rfl⟩ := List.mem_map.mp recordInside
  have held : engine.control.chain entry.1 = chain := by
    rw [Control.chain, Std.ExtTreeMap.getD_eq_getD_getElem?, found, Option.getD_some]
  exact passed entry.1 original (by rw [held]; exact originalInside)

theorem image_generators (sound : engine.Sound) (accounted : engine.Accounted)
    {image : CoordinatorState}
    (decoded : StatePersistence.decode (StatePersistence.encode engine.snapshot) = .ok image) :
    image.revisionGenerator = engine.state.revisionGenerator ∧
      image.transitionGenerator = engine.state.transitionGenerator ∧
      image.reservationGenerator = engine.state.reservationGenerator := by
  have revision := image_revisionGenerator sound accounted.revisionSalt
    (fun id record inside _ => (accounted.revisions id record inside).2.2) decoded
  have image_eq := decoded_image sound decoded
  rw [StatePersistence.restoredState_eq] at image_eq
  subst image_eq
  refine ⟨revision, ?_, resumed_eq accounted.reservationSalt⟩
  change StatePersistence.observeAll (StatePersistence.resumed engine.control.transitionGenerator)
    (engine.control.records.map fun _ => PromotionRecord.restored).keys =
      engine.control.transitionGenerator
  rw [resumed_eq accounted.transitionSalt, Std.ExtTreeMap.keys_map]
  exact observeAll_issued (keys_issued accounted.records)

theorem reload_generators (sound : engine.Sound) (accounted : engine.Accounted) {advance : Bool}
    {reply : Reply} (moved : engine.step (.reload advance) = some (reply, next)) :
    next.state.revisionGenerator = engine.state.revisionGenerator ∧
      next.state.transitionGenerator = engine.state.transitionGenerator ∧
      next.state.reservationGenerator = engine.state.reservationGenerator := by
  rcases reload_cases moved with ⟨rfl, _⟩ | ⟨_, image, decoded, state⟩
  · exact ⟨rfl, rfl, rfl⟩
  · obtain ⟨revision, transition, reservation⟩ := image_generators sound accounted decoded
    rw [state]
    exact ⟨revision, transition, reservation⟩

theorem reload_internal (sound : engine.Sound) {advance : Bool}
    (moved : engine.step (.reload advance) = some (.reloaded (.ok ()), next)) :
    next.state.internalAttemptGenerator = {} := by
  rcases reload_cases moved with ⟨_, refused⟩ | ⟨_, image, decoded, state⟩
  · exact absurd rfl refused
  · have image_eq := decoded_image sound decoded
    rw [StatePersistence.restoredState_eq] at image_eq
    rw [state, image_eq]
    rfl

theorem step_steady (sound : engine.Sound) {op : Op} {reply : Reply}
    (moved : engine.step op = some (reply, next)) (accounted : engine.Accounted) :
    Steady engine.control.revisionGenerator next.control.revisionGenerator ∧
      Steady engine.control.transitionGenerator next.control.transitionGenerator ∧
      Steady engine.state.reservationGenerator next.state.reservationGenerator := by
  by_cases reloads : ∃ advance, op = .reload advance
  · obtain ⟨advance, rfl⟩ := reloads
    obtain ⟨revision, transition, reservation⟩ := reload_generators sound accounted moved
    exact ⟨.inl revision, .inl transition, .inl reservation⟩
  · have running : ∀ advance, op ≠ .reload advance := fun advance same => reloads ⟨advance, same⟩
    have steady := step_controlSteady moved running
    exact ⟨steady.revision, steady.transition,
      (perform_private (step_eq_some moved).1 running).1⟩

theorem step_accounted (sound : engine.Sound) {op : Op} {reply : Reply}
    (moved : engine.step op = some (reply, next)) (accounted : engine.Accounted)
    (revisionRoom : next.control.revisionGenerator ≠ engine.control.revisionGenerator →
      engine.control.revisionGenerator.counter.toNat < 2 ^ 64 - 1)
    (transitionRoom : next.control.transitionGenerator ≠ engine.control.transitionGenerator →
      engine.control.transitionGenerator.counter.toNat < 2 ^ 64 - 1) : next.Accounted := by
  obtain ⟨revision, transition, reservation⟩ := step_steady sound moved accounted
  refine ⟨?_, ?_, revision.salted accounted.revisionSalt,
    transition.salted accounted.transitionSalt, reservation.salted accounted.reservationSalt⟩
  · intro id record inside
    obtain ⟨index, held⟩ := List.getElem?_of_mem inside
    cases before : (engine.control.chain id)[index]? with
    | none =>
        obtain ⟨registration, now, stamped, _, _, _, _, allocated, rfl⟩ :=
          (step_chains sound moved).2 id index record before held
        have room := revisionRoom (by rw [allocated]; exact advance_ne _)
        rw [allocated]
        exact issued_next room
    | some old =>
        rw [revised_revision (step_revised sound moved before held)]
        exact (accounted.revisions id old (List.mem_of_getElem? before)).steady revision revisionRoom
  · intro id record held
    rcases step_record_keys sound moved held with ⟨old, present⟩ | ⟨rfl, allocated⟩
    · exact (accounted.records id old present).steady transition transitionRoom
    · have room := transitionRoom (by rw [allocated]; exact advance_ne _)
      rw [allocated]
      exact issued_next room

end Engine

end ArtifactPromotion
