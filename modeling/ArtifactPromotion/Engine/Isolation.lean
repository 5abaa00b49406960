import ArtifactPromotion.Engine.EvidenceStore
import ArtifactPromotion.Engine.Refusals

/-! Artifact isolation: an operation scoped to one artifact leaves the chain, the evidence, the vetoes
and the reservation of every other artifact alone. -/

namespace ArtifactPromotion

open Runs

def Op.artifactScoped : Op → Bool
  | .registerArtifact _ _ | .submitEvidence _ | .evaluate _ _ | .commit _ _ | .quarantine _ _ _ _
  | .releaseQuarantine _ _ _ _ | .revoke _ _ _ _ _ _ _ | .supersede _ _ _ _ _ | .retire _ _ _
  | .revokeEvidence _ _ _ | .setSecurityVeto _ _ _ | .setDependencyVeto _ _ _ => true
  | _ => false

/-- The artifact an operation is scoped to; a revocation of unknown evidence names none. -/
def Op.artifact? (engine : Engine) : Op → Option ArtifactId
  | .registerArtifact registration _ => some registration.id
  | .submitEvidence submission => some submission.subject
  | .evaluate request _ => some request.artifact
  | .commit plan _ => some plan.artifact
  | .quarantine id _ _ _ | .releaseQuarantine id _ _ _ | .revoke id _ _ _ _ _ _
  | .supersede id _ _ _ _ | .retire id _ _ | .setSecurityVeto id _ _
  | .setDependencyVeto id _ _ => some id
  | .revokeEvidence id _ _ => engine.state.evidence[id]?.map EvidenceRecord.subject
  | _ => none

structure Control.Untouched (before after : Control) (id : ArtifactId) : Prop where
  chain : after.artifacts[id]? = before.artifacts[id]?
  evidence : ∀ (evidence : EvidenceId) (record : EvidenceRecord), record.subject = id →
    (after.evidence[evidence]? = some record ↔ before.evidence[evidence]? = some record)
  pending : after.pending[id]? = before.pending[id]?

namespace Control.Untouched

variable {before middle after : Control} {id other : ArtifactId}

theorem refl (control : Control) (id : ArtifactId) : control.Untouched control id :=
  ⟨rfl, fun _ _ _ => Iff.rfl, rfl⟩

theorem trans (first : before.Untouched middle id) (second : middle.Untouched after id) :
    before.Untouched after id := by
  refine ⟨second.chain.trans first.chain, ?_, second.pending.trans first.pending⟩
  intro evidence record about
  exact (second.evidence evidence record about).trans (first.evidence evidence record about)

theorem of_eq (artifacts : after.artifacts = before.artifacts)
    (evidence : after.evidence = before.evidence) (pending : after.pending = before.pending) :
    before.Untouched after id := by
  refine ⟨by rw [artifacts], ?_, by rw [pending]⟩
  intro _ _ _
  rw [evidence]

theorem setChain (control : Control) (chain : List ArtifactRecord) (distinct : id ≠ other) :
    control.Untouched (control.setChain other chain) id :=
  ⟨OrderedMaps.getElem?_insert_ne _ _ distinct, fun _ _ _ => Iff.rfl, rfl⟩

theorem replaceCurrent (control : Control) (record : ArtifactRecord) (distinct : id ≠ other) :
    control.Untouched (control.replaceCurrent other record) id :=
  setChain control _ distinct

theorem releasePending (control : Control) (distinct : id ≠ other) :
    control.Untouched (control.releasePending other) id :=
  ⟨rfl, fun _ _ _ => Iff.rfl, OrderedMaps.getElem?_erase_ne _ distinct⟩

theorem reserve (control : Control) (reservation : PendingTransition) (distinct : id ≠ other) :
    control.Untouched { control with pending := control.pending.insert other reservation } id :=
  ⟨rfl, fun _ _ _ => Iff.rfl, OrderedMaps.getElem?_insert_ne _ _ distinct⟩

end Control.Untouched

namespace Engine

variable {engine next : Engine}

theorem submitted_untouched (sound : engine.Sound) {submission : EvidenceSubmission}
    {added : EvidenceRecord} {id : ArtifactId} (about : added.subject = submission.subject)
    (named : added.id = engine.control.evidenceGenerator.next) (distinct : id ≠ submission.subject)
    (evidence : EvidenceId) (record : EvidenceRecord) (other : record.subject = id) :
    ((supersededEvidence engine.control.evidence (currentEvidence engine.state submission)
      added).insert added.id added)[evidence]? = some record ↔
        engine.control.evidence[evidence]? = some record := by
  have fresh := sound.coherent.evidence_fresh sound.roomy
  have elsewhere (replaced : EvidenceRecord) (same : replaced.subject = submission.subject) :
      replaced ≠ record := by
    intro equal
    rw [← other, ← equal, same] at distinct
    exact distinct rfl
  constructor
  · intro held
    rcases submitted_entry held with ⟨_, same⟩ | kept | ⟨old, before, same⟩
    · exact absurd same.symm (elsewhere added about)
    · exact kept
    · unfold supersededEvidence at held
      cases current : currentEvidence engine.state submission with
      | none =>
          rw [current] at held
          rcases OrderedMaps.insert_cases held with ⟨_, new⟩ | ⟨_, kept⟩
          · exact absurd new.symm (elsewhere added about)
          · exact kept
      | some previous =>
          rw [current] at held
          obtain ⟨_, key, _⟩ := currentEvidence_held current
          rcases OrderedMaps.insert_cases held with ⟨_, new⟩ | ⟨_, held⟩
          · exact absurd new.symm (elsewhere added about)
          rcases OrderedMaps.insert_cases held with ⟨_, marked⟩ | ⟨_, kept⟩
          · have subject : previous.2.subject = submission.subject :=
              congrArg EvidenceKey.subject key
            exact absurd marked.symm (elsewhere _ subject)
          · exact kept
  · intro held
    have old : evidence ≠ added.id := by
      intro same
      rw [same, named, fresh] at held
      cases held
    rw [OrderedMaps.getElem?_insert_ne _ _ old]
    unfold supersededEvidence
    cases current : currentEvidence engine.state submission with
    | none => exact held
    | some previous =>
        obtain ⟨replaced, key, _⟩ := currentEvidence_held current
        have apart : evidence ≠ previous.1 := by
          intro same
          rw [same, replaced] at held
          exact elsewhere previous.2 (congrArg EvidenceKey.subject key) (Option.some.inj held)
        rw [OrderedMaps.getElem?_insert_ne _ _ apart]
        exact held

theorem fencePending_other (coherent : Coherent engine.control) {record : EvidenceRecord}
    {id : ArtifactId} (distinct : id ≠ record.subject) :
    (fencePending engine.control.pending record)[id]? = engine.control.pending[id]? := by
  rw [fencePending, Std.ExtTreeMap.getElem?_filter']
  cases held : engine.control.pending[id]? with
  | none => rfl
  | some reservation =>
      have named := (coherent.reservations id reservation held).1
      simp [named, distinct]

theorem commit_untouched {plan : PromotionPlan} {now : UInt64} {reply : Reply} {id : ArtifactId}
    (effect : Effect engine (.commit plan now) reply next) (distinct : id ≠ plan.artifact) :
    engine.control.Untouched next.control id := by
  cases effect with
  | idle _ same =>
      rw [same]
      exact .refl _ _
  | @closed _ _ _ decision _ released _ _ _ _ changed =>
      have decided : engine.control.Untouched (engine.control.setDecision plan.decision decision)
          id := .of_eq rfl rfl rfl
      rw [changed]
      cases released with
      | false => exact decided
      | true => exact decided.trans (.releasePending _ distinct)
  | committed _ _ _ _ _ changed =>
      rw [changed]
      exact .trans (.setChain _ _ distinct)
        (.trans (.releasePending _ distinct) (.of_eq rfl rfl rfl))

theorem effect_untouched (sound : engine.Sound) {op : Op} {reply : Reply}
    (effect : Effect engine op reply next) (targeted : op.artifactScoped = true) {id : ArtifactId}
    (other : op.artifact? engine ≠ some id) : engine.control.Untouched next.control id := by
  have coherent := sound.coherent
  have whole := effect
  cases effect with
  | idle _ same =>
      rw [same]
      exact .refl _ _
  | published | restarted | recovered | compatibilityMoved | reloaded => cases targeted
  | registrationRefused _ _ changed =>
      have distinct : id ≠ _ := fun same => other (congrArg some same.symm)
      rw [changed]
      exact .trans (.setChain _ _ distinct) (.of_eq rfl rfl rfl)
  | registered _ _ _ _ _ _ _ changed =>
      have distinct : id ≠ _ := fun same => other (congrArg some same.symm)
      rw [changed]
      exact .trans (.setChain _ _ distinct) (.of_eq rfl rfl rfl)
  | submitted _ _ _ made changed =>
      have distinct : id ≠ _ := fun same => other (congrArg some same.symm)
      obtain ⟨_, _, _, _, rfl⟩ := made
      rw [changed]
      exact ⟨rfl, submitted_untouched sound rfl rfl distinct, rfl⟩
  | undecided _ _ _ changed =>
      rw [changed]
      exact .of_eq rfl rfl rfl
  | decided _ _ _ _ _ _ changed =>
      rw [changed]
      exact .of_eq rfl rfl rfl
  | issued issues _ _ _ _ _ changed =>
      have distinct : id ≠ _ := fun same => other (congrArg some same.symm)
      rw [changed, findRevision_id coherent issues.found]
      exact .trans (.reserve _ _ distinct) (.of_eq rfl rfl rfl)
  | closed | committed => exact commit_untouched whole fun same => other (congrArg some same.symm)
  | quarantined _ _ _ _ changed =>
      have distinct : id ≠ _ := fun same => other (congrArg some same.symm)
      rw [changed]
      exact .trans (.replaceCurrent _ _ distinct) (.releasePending _ distinct)
  | releaseRefused _ _ changed =>
      rw [changed]
      exact .of_eq rfl rfl rfl
  | released _ _ _ _ _ _ _ _ changed =>
      have distinct : id ≠ _ := fun same => other (congrArg some same.symm)
      rw [changed]
      exact .trans (.of_eq rfl rfl rfl)
        (.trans (.replaceCurrent _ _ distinct) (.of_eq rfl rfl rfl))
  | revoked _ _ _ _ _ _ changed | superseded _ _ _ _ _ _ changed | retired _ _ _ changed =>
      have distinct : id ≠ _ := fun same => other (congrArg some same.symm)
      rw [changed]
      exact .trans (.replaceCurrent _ _ distinct)
        (.trans (.releasePending _ distinct) (.of_eq rfl rfl rfl))
  | @evidenceRevoked evidence _ _ record _ _ found _ changed =>
      have distinct : id ≠ record.subject := by
        intro same
        apply other
        change engine.state.evidence[evidence]?.map EvidenceRecord.subject = some id
        have found : engine.state.evidence[evidence]? = some record := found
        rw [found, same]
        rfl
      rw [changed]
      refine ⟨rfl, ?_, fencePending_other coherent distinct⟩
      intro key kept about
      by_cases same : key = evidence
      · subst same
        rw [Std.ExtTreeMap.getElem?_insert_self, found]
        constructor
        · intro stored
          rw [← Option.some.inj stored] at about
          exact absurd about.symm distinct
        · intro stored
          rw [← Option.some.inj stored] at about
          exact absurd about.symm distinct
      · rw [OrderedMaps.getElem?_insert_ne _ _ same]

def KeepsVetoes (engine next : Engine) : Prop := next.state.vetoes = engine.state.vetoes

theorem supersedePrevious_vetoes (state : CoordinatorState) (revision : ArtifactRevision)
    (id : ArtifactId) : (supersedePrevious state revision id).vetoes = state.vetoes := by
  unfold supersedePrevious
  split
  · rfl
  · rfl

theorem registerArtifact_vetoes (registration : ArtifactRegistration) (now : UInt64) :
    engine.KeepsVetoes (engine.registerArtifact registration now).2 := by
  unfold registerArtifact
  split
  · rfl
  split
  · rfl
  split
  · rfl
  split
  · rfl
  dsimp only
  split
  · rfl
  split
  · rfl
  · exact supersedePrevious_vetoes _ _ _

theorem submitEvidence_vetoes (submission : EvidenceSubmission) :
    engine.KeepsVetoes (engine.submitEvidence submission).2 := by
  unfold submitEvidence
  split
  · rfl
  split
  · rfl
  split
  · rfl
  split
  · rfl
  dsimp only
  split
  · rfl
  split
  · rfl
  · unfold addEvidence
    dsimp only
    cases currentEvidence engine.state submission with
    | none => rfl
    | some previous => rfl

theorem decideTransition_vetoes (config : EngineConfig) (state : CoordinatorState)
    (request : PromotionRequest) (artifact : ArtifactRecord) (now : UInt64)
    (decision : PromotionDecision) :
    (decideTransition config state request artifact now decision).state.vetoes = state.vetoes := by
  unfold decideTransition
  split
  · split
    · rfl
    · rfl
  split
  · rfl
  split
  · rfl
  dsimp only
  split
  · rfl
  · unfold issuePlan
    dsimp only
    generalize (if state.plans.size ≥ config.maxPlansRetained.toNat then eraseFirst state.plans
      else state.plans) = kept
    split
    · rfl
    · rfl

theorem evaluateFresh_vetoes (request : PromotionRequest) (now : UInt64) :
    engine.KeepsVetoes (engine.evaluateFresh request now).2 := by
  unfold evaluateFresh
  dsimp only
  split
  · rfl
  split
  · rfl
  · exact decideTransition_vetoes _ _ _ _ _ _

theorem evaluate_vetoes (request : PromotionRequest) (now : UInt64) :
    engine.KeepsVetoes (engine.evaluate request now).2 := by
  unfold evaluate
  split
  · rfl
  split
  · rfl
  split
  · exact evaluateFresh_vetoes request now
  split
  · rfl
  split
  · rfl
  · exact evaluateFresh_vetoes request now

theorem closeCommit_vetoes (plan : PromotionPlan) (outcome : PromotionOutcome)
    (decision : PromotionDecision) (released : Bool) :
    engine.KeepsVetoes (engine.closeCommit plan outcome decision released).2 := by
  cases released with
  | false => rfl
  | true => rfl

theorem revalidate_vetoes (plan : PromotionPlan) (artifact : ArtifactRecord)
    (decision : PromotionDecision) (now : UInt64) :
    engine.KeepsVetoes (engine.revalidate plan artifact decision now).2 := by
  unfold revalidate
  dsimp only
  split
  · exact closeCommit_vetoes _ _ _ _
  split
  · exact closeCommit_vetoes _ _ _ _
  split
  · exact closeCommit_vetoes _ _ _ _
  · rfl

theorem commitStored_vetoes (plan : PromotionPlan) (now : UInt64) :
    engine.KeepsVetoes (engine.commitStored plan now).2 := by
  unfold commitStored
  dsimp only
  split
  · rfl
  split
  · exact @closeCommit_vetoes (engine.touch plan) plan _ _ _
  split
  · exact @closeCommit_vetoes (engine.touch plan) plan _ _ _
  · exact @revalidate_vetoes (engine.touch plan) plan _ _ _

theorem commit_vetoes (plan : PromotionPlan) (now : UInt64) :
    engine.KeepsVetoes (engine.commit plan now).2 := by
  unfold commit
  split
  · rfl
  split
  · rfl
  split
  · rfl
  split
  · rfl
  split
  · rfl
  · exact commitStored_vetoes plan now

theorem Applied.vetoes {id : ArtifactId} {now : UInt64} (applied : engine.Applied id now next) :
    engine.KeepsVetoes next := by
  rcases applied with rfl | ⟨_, _, _, _, _, _, rfl⟩
  · rfl
  · rfl

theorem quarantine_vetoes (id : ArtifactId) (reasonClass detail : Text)
    (authority : CoordinatorAuthority) :
    engine.KeepsVetoes (engine.quarantine id reasonClass detail authority).2 := by
  unfold quarantine
  dsimp only
  repeat' split
  all_goals rfl

theorem releaseQuarantine_vetoes (id : ArtifactId) (authority : CoordinatorAuthority)
    (now later : UInt64) :
    engine.KeepsVetoes (engine.releaseQuarantine id authority now later).2 := by
  unfold releaseQuarantine
  dsimp only
  repeat' split
  all_goals rfl

theorem revokeEvidence_vetoes (id : EvidenceId) (reason : Text)
    (authority : CoordinatorAuthority) :
    engine.KeepsVetoes (engine.revokeEvidence id reason authority).2 := by
  unfold revokeEvidence
  dsimp only
  repeat' split
  all_goals rfl

theorem setVeto_other {id other : ArtifactId} {message : String} {change : VetoState → VetoState}
    (distinct : id ≠ other) :
    (engine.setVeto other message change).2.state.vetoes[id]? = engine.state.vetoes[id]? := by
  unfold setVeto
  split
  · rfl
  · exact OrderedMaps.getElem?_insert_ne _ _ distinct

theorem answerWith_after {α : Type} {reply : Reply} {wrap : α → Reply} {outcome : α × Engine}
    (answered : answerWith wrap outcome = some (reply, next)) : next = outcome.2 := by
  simp only [answerWith, Option.some.injEq, Prod.mk.injEq] at answered
  exact answered.2.symm

theorem perform_vetoes {op : Op} {reply : Reply} (moved : engine.perform op = some (reply, next))
    (targeted : op.artifactScoped = true) {id : ArtifactId} (other : op.artifact? engine ≠ some id) :
    next.state.vetoes[id]? = engine.state.vetoes[id]? := by
  have kept {after : Engine} (keeps : engine.KeepsVetoes after) :
      after.state.vetoes[id]? = engine.state.vetoes[id]? := by
    rw [keeps]
  cases op with
  | publishPolicy | restart | recoverInFlight | setCompatibilityGeneration | closeAdmission
  | openAdmission | reload => cases targeted
  | registerArtifact registration now =>
      rw [answerWith_after moved]
      exact kept (registerArtifact_vetoes registration now)
  | submitEvidence submission =>
      rw [answerWith_after moved]
      exact kept (submitEvidence_vetoes submission)
  | evaluate request now =>
      rw [answerWith_after moved]
      exact kept (evaluate_vetoes request now)
  | commit plan now =>
      rw [answerWith_after moved]
      exact kept (commit_vetoes plan now)
  | quarantine target reasonClass detail authority =>
      rw [answerWith_after moved]
      exact kept (quarantine_vetoes target reasonClass detail authority)
  | releaseQuarantine target authority now later =>
      rw [answerWith_after moved]
      exact kept (releaseQuarantine_vetoes target authority now later)
  | revoke target decision reasonClass detail authority cause now =>
      rw [answerWith_after moved]
      exact kept (revoke_applied target decision reasonClass detail authority cause now).vetoes
  | supersede target successor reason authority now =>
      rw [answerWith_after moved]
      exact kept (supersede_applied target successor reason authority now).vetoes
  | retire target authority now =>
      rw [answerWith_after moved]
      exact kept (retire_applied target authority now).vetoes
  | revokeEvidence evidence reason authority =>
      rw [answerWith_after moved]
      exact kept (revokeEvidence_vetoes evidence reason authority)
  | setSecurityVeto target active reason | setDependencyVeto target active reason =>
      have distinct : id ≠ target := fun same => other (congrArg some same.symm)
      rw [answerWith_after moved]
      exact setVeto_other distinct

end Engine

structure Undisturbed (before after : CoordinatorState) (id : ArtifactId) : Prop where
  chain : after.artifacts[id]? = before.artifacts[id]?
  evidence : ∀ (evidence : EvidenceId) (record : EvidenceRecord), record.subject = id →
    (after.evidence[evidence]? = some record ↔ before.evidence[evidence]? = some record)
  veto : after.vetoes[id]? = before.vetoes[id]?
  pending : after.pending[id]? = before.pending[id]?

theorem Undisturbed.trans {before middle after : CoordinatorState} {id : ArtifactId}
    (first : Undisturbed before middle id) (second : Undisturbed middle after id) :
    Undisturbed before after id := by
  constructor
  case chain => exact second.chain.trans first.chain
  case evidence =>
    intro evidence record about
    exact (second.evidence evidence record about).trans (first.evidence evidence record about)
  case veto => exact second.veto.trans first.veto
  case pending => exact second.pending.trans first.pending

namespace Engine

variable {engine next : Engine}

theorem perform_undisturbed (sound : engine.Sound) {op : Op} {reply : Reply}
    (moved : engine.perform op = some (reply, next)) (targeted : op.artifactScoped = true)
    {id : ArtifactId} (other : op.artifact? engine ≠ some id) :
    Undisturbed engine.state next.state id := by
  have untouched := effect_untouched sound (perform_effect moved) targeted other
  constructor
  case chain => exact untouched.chain
  case evidence => exact untouched.evidence
  case veto => exact perform_vetoes moved targeted other
  case pending => exact untouched.pending

theorem commit_elsewhere (plan : PromotionPlan) (now : UInt64) {id : ArtifactId}
    (distinct : id ≠ plan.artifact) :
    Undisturbed engine.state (engine.commit plan now).2.state id := by
  have untouched := commit_untouched (@commit_effect engine plan now) distinct
  have kept : engine.KeepsVetoes (engine.commit plan now).2 := commit_vetoes plan now
  constructor
  case chain => exact untouched.chain
  case evidence => exact untouched.evidence
  case veto => rw [kept]
  case pending => exact untouched.pending

theorem planned_artifact (sound : engine.Sound) {request : PromotionRequest} {now : UInt64}
    {result : EvaluationResult} (answered : engine.evaluate request now = (.ok result, next))
    (hasPlan : result.hasPlan = true) : result.plan.artifact = request.artifact := by
  have effect : Effect engine (.evaluate request now) (.evaluated (.ok result)) next := by
    have happened := @evaluate_effect engine request now
    rw [answered] at happened
    exact happened
  cases effect with
  | idle quiet _ => simp [Reply.confirmsChange, hasPlan] at quiet
  | undecided _ _ planless _ => simp [hasPlan] at planless
  | decided _ _ _ planless _ _ _ => simp [hasPlan] at planless
  | issued issues _ plan_eq _ _ _ _ =>
      rw [plan_eq]
      exact findRevision_id sound.coherent issues.found

theorem promote_undisturbed (sound : engine.Sound) {request : PromotionRequest} {now later : UInt64}
    {id : ArtifactId} (distinct : id ≠ request.artifact) :
    Undisturbed engine.state (engine.promote request now later).2.state id := by
  have evaluated : Undisturbed engine.state (engine.evaluate request now).2.state id := by
    have moved : engine.perform (.evaluate request now) =
        some (.evaluated (engine.evaluate request now).1, (engine.evaluate request now).2) := rfl
    exact perform_undisturbed sound moved rfl fun same => distinct (Option.some.inj same).symm
  unfold promote
  cases evaluation : engine.evaluate request now with
  | mk answer middle =>
      rw [evaluation] at evaluated
      cases answer with
      | error status => exact evaluated
      | ok result =>
          dsimp only
          split
          · exact evaluated
          · rename_i planned
            have named := planned_artifact sound evaluation (by simpa using planned)
            rw [← named] at distinct
            exact evaluated.trans (commit_elsewhere _ _ distinct)

/-- An operation scoped to one artifact leaves the chain, the evidence, the vetoes and the
reservation of every other artifact as they were. -/
theorem reachable_isolated (reachable : Reachable engine) :
    (∀ op reply next, engine.perform op = some (reply, next) → op.artifactScoped = true →
      ∀ id, op.artifact? engine ≠ some id → Undisturbed engine.state next.state id) ∧
    ∀ request now later id, id ≠ request.artifact →
      Undisturbed engine.state (engine.promote request now later).2.state id := by
  obtain ⟨start, trace, constructed, run⟩ := reachable
  have sound := EngineRun.sound run constructed.sound
  constructor
  · intro op reply next moved targeted id other
    exact perform_undisturbed sound moved targeted other
  · intro request now later id distinct
    exact promote_undisturbed sound distinct

def quarantinesBeside (engine : Engine) : Bool :=
  !(engine.state.chain ⟨0, 6⟩).isEmpty &&
    match (engine.quarantine ⟨0, 5⟩ (text "fault") [] {}).1 with
    | .ok result => result.outcome == .quarantined
    | .error _ => false

theorem reachable_isolated_quarantined :
    ∃ (engine : Engine) (result : TrustMutation) (next : Engine), Reachable engine ∧
      engine.perform (.quarantine ⟨0, 5⟩ (text "fault") [] {}) =
        some (.mutated (.ok result), next) ∧
      result.outcome = .quarantined ∧ engine.state.chain ⟨0, 6⟩ ≠ [] ∧
      Undisturbed engine.state next.state ⟨0, 6⟩ := by
  have evaluated : ((play step sampleEngine [fun _ => .registerArtifact (sampleRegistration 1) 0,
      fun _ => .registerArtifact { sampleRegistration 2 with id := ⟨0, 6⟩ } 0]).any fun played =>
        quarantinesBeside played.2) = true := by
    decide +kernel
  obtain ⟨engine, reachable, checked⟩ :=
    Reachable.of_play quarantinesBeside sampleEngine_constructed evaluated
  simp only [quarantinesBeside, Bool.and_eq_true, Bool.not_eq_true', List.isEmpty_eq_false_iff]
    at checked
  obtain ⟨registered, quarantines⟩ := checked
  split at quarantines
  · rename_i result answered
    have moved : engine.perform (.quarantine ⟨0, 5⟩ (text "fault") [] {}) =
        some (.mutated (.ok result), (engine.quarantine ⟨0, 5⟩ (text "fault") [] {}).2) := by
      rw [← answered]
      rfl
    exact ⟨engine, result, _, reachable, moved, by simpa using quarantines, registered,
      (reachable_isolated reachable).1 _ _ _ moved rfl _ (by simp [Op.artifact?])⟩
  · cases quarantines

end Engine

end ArtifactPromotion
