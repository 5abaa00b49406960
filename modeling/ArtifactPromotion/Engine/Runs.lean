import ArtifactPromotion.Engine.Trust
import ArtifactPromotion.Persist.Snapshot
import ArtifactPromotion.Library.Runs

/-! The engine as a machine: one input for each public operation that can change the state, with
the clock readings it takes, and one output for what the caller gets back. -/

namespace ArtifactPromotion

open Runs

/-- The critical sections of the public operations. `promote` is `evaluate` followed by `commit`.
`reload` installs what a save of the current state decodes to, as a restarted process does; the
server advances the epoch of the decoded state before it installs it. -/
inductive Op where
  | publishPolicy (policy : PromotionPolicy)
  | restart (epoch : CoordinatorEpoch)
  | recoverInFlight
  | registerArtifact (registration : ArtifactRegistration) (now : UInt64)
  | submitEvidence (submission : EvidenceSubmission)
  | evaluate (request : PromotionRequest) (now : UInt64)
  | commit (plan : PromotionPlan) (now : UInt64)
  | quarantine (id : ArtifactId) (reasonClass detail : Text) (authority : CoordinatorAuthority)
  | releaseQuarantine (id : ArtifactId) (authority : CoordinatorAuthority) (now later : UInt64)
  | revoke (id : ArtifactId) (decision : PromotionDecisionId) (reasonClass detail : Text)
      (authority : CoordinatorAuthority) (cause : EvidenceId) (now : UInt64)
  | supersede (id successor : ArtifactId) (reason : Text) (authority : CoordinatorAuthority)
      (now : UInt64)
  | retire (id : ArtifactId) (authority : CoordinatorAuthority) (now : UInt64)
  | revokeEvidence (id : EvidenceId) (reason : Text) (authority : CoordinatorAuthority)
  | setSecurityVeto (id : ArtifactId) (active : Bool) (reason : Text)
  | setDependencyVeto (id : ArtifactId) (active : Bool) (reason : Text)
  | setCompatibilityGeneration (generation : CompatibilityGeneration)
  | closeAdmission
  | openAdmission
  | reload (advance : Bool)

inductive Reply where
  | published (result : Result PolicyGeneration)
  | restarted (result : Result CoordinatorEpoch)
  | recovered (released : Nat)
  | registered (result : Result ArtifactRecord)
  | submitted (result : Result EvidenceRecord)
  | evaluated (result : Result EvaluationResult)
  | committed (result : Result CommitResult)
  | mutated (result : Result TrustMutation)
  | vetoed (result : Result Unit)
  | generation (result : Result CompatibilityGeneration)
  | admission
  | reloaded (result : Result Unit)

namespace Engine

/-- Installs the decoded image of the engine's own snapshot. -/
def reload (engine : Engine) (advance : Bool) : Option (Result Unit × Engine) :=
  match StatePersistence.decode (StatePersistence.encode engine.snapshot) with
  | .error status => some (.error status, engine)
  | .ok state =>
      engine.installState (if advance then { state with epoch := state.epoch.next } else state)

/-- `std::map::max_size` is at most `PTRDIFF_MAX` over the size of a node, and every node holds
more than its key; an insertion beyond it throws. -/
def kMaxNodes : Nat := 2 ^ 59

/-- The maps that only ever grow fit the address space. -/
def representable (engine : Engine) : Bool :=
  engine.state.evidence.size ≤ kMaxNodes && engine.state.decisions.size ≤ kMaxNodes

def answerWith {α : Type} (reply : α → Reply) (outcome : α × Engine) : Option (Reply × Engine) :=
  some (reply outcome.1, outcome.2)

/-- One operation; `none` where the source's behaviour is undefined. -/
def perform (engine : Engine) : Op → Option (Reply × Engine)
  | .publishPolicy policy =>
      (engine.publishPolicy policy).bind (answerWith .published)
  | .restart epoch => answerWith .restarted (engine.restart epoch)
  | .recoverInFlight => answerWith .recovered engine.recoverInFlight
  | .registerArtifact registration now =>
      answerWith .registered (engine.registerArtifact registration now)
  | .submitEvidence submission => answerWith .submitted (engine.submitEvidence submission)
  | .evaluate request now => answerWith .evaluated (engine.evaluate request now)
  | .commit plan now => answerWith .committed (engine.commit plan now)
  | .quarantine id reasonClass detail authority =>
      answerWith .mutated (engine.quarantine id reasonClass detail authority)
  | .releaseQuarantine id authority now later =>
      answerWith .mutated (engine.releaseQuarantine id authority now later)
  | .revoke id decision reasonClass detail authority cause now =>
      answerWith .mutated (engine.revoke id decision reasonClass detail authority cause now)
  | .supersede id successor reason authority now =>
      answerWith .mutated (engine.supersede id successor reason authority now)
  | .retire id authority now => answerWith .mutated (engine.retire id authority now)
  | .revokeEvidence id reason authority =>
      answerWith .mutated (engine.revokeEvidence id reason authority)
  | .setSecurityVeto id active reason =>
      answerWith .vetoed (engine.setSecurityVeto id active reason)
  | .setDependencyVeto id active reason =>
      answerWith .vetoed (engine.setDependencyVeto id active reason)
  | .setCompatibilityGeneration generation =>
      answerWith .generation (engine.setCompatibilityGeneration generation)
  | .closeAdmission => some (.admission, engine.closeAdmission)
  | .openAdmission => some (.admission, engine.openAdmission)
  | .reload advance => (engine.reload advance).bind (answerWith .reloaded)

/-- One operation that completes: its result fits the address space. -/
def step (engine : Engine) (op : Op) : Option (Reply × Engine) :=
  (engine.perform op).filter fun next => next.2.representable

theorem step_eq_some {engine next : Engine} {op : Op} {reply : Reply}
    (moved : engine.step op = some (reply, next)) :
    engine.perform op = some (reply, next) ∧ next.representable = true := by
  simpa [step, Option.filter_eq_some_iff] using moved

theorem step_of_perform {engine next : Engine} {op : Op} {reply : Reply}
    (performed : engine.perform op = some (reply, next)) (roomy : next.representable = true) :
    engine.step op = some (reply, next) := by
  rw [step, performed, Option.filter_some, if_pos roomy]

end Engine

abbrev EngineStep := Step Engine Op Reply

abbrev EngineRun (start : Engine) (trace : List EngineStep) (final : Engine) : Prop :=
  Run Engine.step start trace final

def Constructed (engine : Engine) : Prop :=
  ∃ config epoch salting naming, engine = Engine.create config epoch salting naming

def Reachable (engine : Engine) : Prop :=
  ∃ start trace, Constructed start ∧ EngineRun start trace engine

theorem Reachable.of_play {start : Engine} {choices : List (Engine → Op)} (check : Engine → Bool)
    (constructed : Constructed start)
    (evaluated : ((play Engine.step start choices).any fun played => check played.2) = true) :
    ∃ engine, Reachable engine ∧ check engine = true := by
  obtain ⟨trace, engine, run, checked⟩ := run_of_checked evaluated
  exact ⟨engine, ⟨start, trace, constructed, run⟩, checked⟩

end ArtifactPromotion
