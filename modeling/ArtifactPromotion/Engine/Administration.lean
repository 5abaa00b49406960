import ArtifactPromotion.Engine.Isolation

/-! What only the operations of an administrator change: the rules under which requests are judged,
the authority, and whether requests are admitted at all. -/

namespace ArtifactPromotion

open Runs

/-- The operations that set the rules, besides the recovery that ends every reservation. -/
def Op.administers : Op → Bool
  | .publishPolicy _ | .restart _ | .recoverInFlight | .setSecurityVeto .. | .setDependencyVeto ..
  | .setCompatibilityGeneration _ | .closeAdmission | .openAdmission | .reload _ => true
  | _ => false

namespace Engine

structure SameRules (before after : Engine) : Prop where
  config : after.config = before.config
  admission : after.admissionOpen = before.admissionOpen
  authority : after.state.authority = before.state.authority
  compatibility : after.control.compatibility = before.control.compatibility
  policy : after.control.policy = before.control.policy
  active : after.control.activePolicy = before.control.activePolicy
  generation : after.control.policyGeneration = before.control.policyGeneration
  digest : after.control.policyDigest = before.control.policyDigest
  vetoes : after.state.vetoes = before.state.vetoes

theorem SameRules.refl (engine : Engine) : SameRules engine engine :=
  ⟨rfl, rfl, rfl, rfl, rfl, rfl, rfl, rfl, rfl⟩

theorem SameRules.trans {before middle after : Engine} (first : SameRules before middle)
    (second : SameRules middle after) : SameRules before after :=
  ⟨second.config.trans first.config, second.admission.trans first.admission,
    second.authority.trans first.authority, second.compatibility.trans first.compatibility,
    second.policy.trans first.policy, second.active.trans first.active,
    second.generation.trans first.generation, second.digest.trans first.digest,
    second.vetoes.trans first.vetoes⟩

variable {engine next : Engine}

def KeepsAdmission (engine next : Engine) : Prop := next.admissionOpen = engine.admissionOpen

theorem closeCommit_admission (plan : PromotionPlan) (outcome : PromotionOutcome)
    (decision : PromotionDecision) (released : Bool) :
    engine.KeepsAdmission (engine.closeCommit plan outcome decision released).2 := by
  cases released <;> rfl

theorem revalidate_admission (plan : PromotionPlan) (artifact : ArtifactRecord)
    (decision : PromotionDecision) (now : UInt64) :
    engine.KeepsAdmission (engine.revalidate plan artifact decision now).2 := by
  unfold revalidate
  dsimp only
  split
  · exact closeCommit_admission _ _ _ _
  split
  · exact closeCommit_admission _ _ _ _
  split
  · exact closeCommit_admission _ _ _ _
  · rfl

theorem commitStored_admission (plan : PromotionPlan) (now : UInt64) :
    engine.KeepsAdmission (engine.commitStored plan now).2 := by
  unfold commitStored
  dsimp only
  split
  · rfl
  split
  · exact @closeCommit_admission (engine.touch plan) plan _ _ _
  split
  · exact @closeCommit_admission (engine.touch plan) plan _ _ _
  · exact @revalidate_admission (engine.touch plan) plan _ _ _

theorem commit_admission (plan : PromotionPlan) (now : UInt64) :
    engine.KeepsAdmission (engine.commit plan now).2 := by
  unfold commit
  split
  · rfl
  split
  · rfl
  split
  · rfl
  split
  · rfl
  split
  · rfl
  · exact commitStored_admission plan now

theorem evaluate_admission (request : PromotionRequest) (now : UInt64) :
    engine.KeepsAdmission (engine.evaluate request now).2 := by
  unfold evaluate evaluateFresh
  dsimp only
  repeat' split
  all_goals rfl

theorem Applied.admission {id : ArtifactId} {now : UInt64} (applied : engine.Applied id now next) :
    engine.KeepsAdmission next := by
  rcases applied with rfl | ⟨_, _, _, _, _, _, rfl⟩
  · rfl
  · rfl

theorem perform_admission {op : Op} {reply : Reply} (moved : engine.perform op = some (reply, next))
    (plain : op.administers = false) : engine.KeepsAdmission next := by
  cases op with
  | publishPolicy | restart | recoverInFlight | setSecurityVeto | setDependencyVeto
  | setCompatibilityGeneration | closeAdmission | openAdmission | reload => cases plain
  | registerArtifact registration now =>
      rw [answerWith_after moved]
      unfold registerArtifact
      dsimp only
      repeat' split
      all_goals rfl
  | submitEvidence submission =>
      rw [answerWith_after moved]
      unfold submitEvidence
      dsimp only
      repeat' split
      all_goals rfl
  | evaluate request now =>
      rw [answerWith_after moved]
      exact evaluate_admission request now
  | commit plan now =>
      rw [answerWith_after moved]
      exact commit_admission plan now
  | quarantine id reasonClass detail authority =>
      rw [answerWith_after moved]
      unfold quarantine
      dsimp only
      repeat' split
      all_goals rfl
  | releaseQuarantine id authority now later =>
      rw [answerWith_after moved]
      unfold releaseQuarantine
      dsimp only
      repeat' split
      all_goals rfl
  | revoke id decision reasonClass detail authority cause now =>
      rw [answerWith_after moved]
      exact (revoke_applied id decision reasonClass detail authority cause now).admission
  | supersede id successor reason authority now =>
      rw [answerWith_after moved]
      exact (supersede_applied id successor reason authority now).admission
  | retire id authority now =>
      rw [answerWith_after moved]
      exact (retire_applied id authority now).admission
  | revokeEvidence id reason authority =>
      rw [answerWith_after moved]
      unfold revokeEvidence
      dsimp only
      repeat' split
      all_goals rfl

theorem plain_vetoes {op : Op} {reply : Reply} (moved : engine.perform op = some (reply, next))
    (plain : op.administers = false) : engine.KeepsVetoes next := by
  cases op with
  | publishPolicy | restart | recoverInFlight | setSecurityVeto | setDependencyVeto
  | setCompatibilityGeneration | closeAdmission | openAdmission | reload => cases plain
  | registerArtifact registration now =>
      rw [answerWith_after moved]
      exact registerArtifact_vetoes registration now
  | submitEvidence submission =>
      rw [answerWith_after moved]
      exact submitEvidence_vetoes submission
  | evaluate request now =>
      rw [answerWith_after moved]
      exact evaluate_vetoes request now
  | commit plan now =>
      rw [answerWith_after moved]
      exact commit_vetoes plan now
  | quarantine id reasonClass detail authority =>
      rw [answerWith_after moved]
      exact quarantine_vetoes id reasonClass detail authority
  | releaseQuarantine id authority now later =>
      rw [answerWith_after moved]
      exact releaseQuarantine_vetoes id authority now later
  | revoke id decision reasonClass detail authority cause now =>
      rw [answerWith_after moved]
      exact (revoke_applied id decision reasonClass detail authority cause now).vetoes
  | supersede id successor reason authority now =>
      rw [answerWith_after moved]
      exact (supersede_applied id successor reason authority now).vetoes
  | retire id authority now =>
      rw [answerWith_after moved]
      exact (retire_applied id authority now).vetoes
  | revokeEvidence id reason authority =>
      rw [answerWith_after moved]
      exact revokeEvidence_vetoes id reason authority

theorem plain_control {op : Op} {reply : Reply} (moved : engine.step op = some (reply, next))
    (plain : op.administers = false) :
    next.control.authority = engine.control.authority ∧
      next.control.compatibility = engine.control.compatibility ∧
      next.control.policy = engine.control.policy ∧
      next.control.activePolicy = engine.control.activePolicy ∧
      next.control.policyGeneration = engine.control.policyGeneration ∧
      next.control.policyDigest = engine.control.policyDigest := by
  cases step_effect moved with
  | published | restarted | recovered | compatibilityMoved | reloaded => cases plain
  | closed released _ _ _ _ changed =>
      rw [changed]
      cases released <;> exact ⟨rfl, rfl, rfl, rfl, rfl, rfl⟩
  | idle _ changed | registrationRefused _ _ changed | registered _ _ _ _ _ _ _ changed
  | submitted _ _ _ _ changed | undecided _ _ _ changed | decided _ _ _ _ _ _ changed
  | issued _ _ _ _ _ _ changed | committed _ _ _ _ _ changed | quarantined _ _ _ _ changed
  | releaseRefused _ _ changed | released _ _ _ _ _ _ _ _ changed | revoked _ _ _ _ _ _ changed
  | superseded _ _ _ _ _ _ changed | retired _ _ _ changed | evidenceRevoked _ _ changed =>
      rw [changed]
      exact ⟨rfl, rfl, rfl, rfl, rfl, rfl⟩

theorem step_sameRules {op : Op} {reply : Reply} (moved : engine.step op = some (reply, next))
    (plain : op.administers = false) : SameRules engine next := by
  have performed := (step_eq_some moved).1
  obtain ⟨authority, compatibility, policy, active, generation, digest⟩ := plain_control moved plain
  exact ⟨step_config moved, perform_admission performed plain, authority, compatibility, policy,
    active, generation, digest, plain_vetoes performed plain⟩

end Engine

end ArtifactPromotion
