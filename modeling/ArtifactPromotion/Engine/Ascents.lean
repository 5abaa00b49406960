import ArtifactPromotion.Engine.Attribution
import ArtifactPromotion.Engine.Authority
import ArtifactPromotion.Engine.DecisionShapes
import ArtifactPromotion.Engine.ExpiredEvidence
import ArtifactPromotion.Engine.Lifecycle
import ArtifactPromotion.Library.Climbs

/-! How a revision came to the stage it is in: the operation that last placed it, and the commits
that took it from there. -/

namespace ArtifactPromotion

open Runs

structure Engine.StandsAs (record : ArtifactRecord) (id : ArtifactId) (index : Nat)
    (engine : Engine) (held : ArtifactRecord) : Prop where
  present : (engine.state.chain id)[index]? = some held
  revision : held.revision = record.revision
  kind : held.kind = record.kind
  digest : held.digest = record.digest

def Engine.AtStage (engine : Engine) (record : ArtifactRecord) (id : ArtifactId) (index : Nat)
    (stage : Stage) : Prop :=
  ∃ held, engine.StandsAs record id index held ∧ held.stage = stage

/-- The operations other than a commit that are to put the revision in a stage: its registration, at
the entry stage of the policy, and the acts of its administration. -/
inductive Placed (record : ArtifactRecord) (id : ArtifactId) (index : Nat) : EngineStep → Stage → Prop
  | registered {before registration now reply after} (named : registration.id = id)
      (last : index = (before.state.chain id).length) (kind : registration.kind = record.kind)
      (digest : registration.digest = record.digest) :
      Placed record id index ⟨before, .registerArtifact registration now, reply, after⟩
        before.state.policy.entryStage
  | overtaken {before registration now reply after} (named : registration.id = id)
      (last : before.Current id index) :
      Placed record id index ⟨before, .registerArtifact registration now, reply, after⟩ .superseded
  | quarantined {before reasonClass detail authority reply after} (last : before.Current id index) :
      Placed record id index ⟨before, .quarantine id reasonClass detail authority, reply, after⟩
        .quarantined
  | released {before authority now later reply after artifact} (last : before.Current id index)
      (releases : before.Releases id authority now artifact) :
      Placed record id index ⟨before, .releaseQuarantine id authority now later, reply, after⟩
        .candidate
  | revoked {before decision reasonClass detail authority cause now reply after}
      (last : before.Current id index) :
      Placed record id index
        ⟨before, .revoke id decision reasonClass detail authority cause now, reply, after⟩ .revoked
  | superseded {before successor reason authority now reply after}
      (last : before.Current id index) :
      Placed record id index ⟨before, .supersede id successor reason authority now, reply, after⟩
        .superseded
  | retired {before authority now reply after} (last : before.Current id index) :
      Placed record id index ⟨before, .retire id authority now, reply, after⟩ .retired

/-- The operation was not refused: it changed the revision, and left it in the stage. -/
structure Puts (record : ArtifactRecord) (id : ArtifactId) (index : Nat) (step : EngineStep)
    (stage : Stage) : Prop where
  placed : Placed record id index step stage
  changed : (step.after.state.chain id)[index]? ≠ (step.before.state.chain id)[index]?
  standing : step.after.AtStage record id index stage

/-- An acknowledged commit of a plan for the revision, along an edge of the active graph and with
every gate of the governing rule satisfied. -/
inductive Ascends (record : ArtifactRecord) (id : ArtifactId) (index : Nat) :
    EngineStep → Stage → Stage → Prop
  | committed {before plan now result after artifact} (named : plan.artifact = id)
      (planned : plan.artifactRevision = record.revision)
      (acknowledged : result.outcome = .promotionCommitted)
      (standing : before.StandsAs record id index artifact)
      (edge : before.state.policy.graph.hasEdge artifact.stage plan.target = true)
      (warranted : before.Warranted plan now artifact) :
      Ascends record id index ⟨before, .commit plan now, .committed (.ok result), after⟩
        artifact.stage plan.target

namespace Engine

variable {engine next : Engine} {record : ArtifactRecord} {id : ArtifactId} {index : Nat}

theorem StandsAs.before {op : Op} {reply : Reply} {old revised : ArtifactRecord}
    (stands : next.StandsAs record id index revised)
    (held : (engine.state.chain id)[index]? = some old)
    (change : Revised engine id index op reply old revised) :
    engine.StandsAs record id index old := by
  obtain ⟨_, _, kind, digest⟩ := revised_content change
  exact ⟨held, (revised_revision change).symm.trans stands.revision, kind.symm.trans stands.kind,
    digest.symm.trans stands.digest⟩

theorem step_moves (sound : engine.Sound) (valid : engine.PolicyValid) {op : Op} {reply : Reply}
    (moved : engine.step op = some (reply, next)) {revised : ArtifactRecord}
    (stands : next.StandsAs record id index revised) :
    (∃ old, engine.StandsAs record id index old ∧ old.stage = revised.stage) ∨
      (∃ old, engine.StandsAs record id index old ∧
        Ascends record id index ⟨engine, op, reply, next⟩ old.stage revised.stage) ∨
      Puts record id index ⟨engine, op, reply, next⟩ revised.stage := by
  by_cases same : (next.state.chain id)[index]? = (engine.state.chain id)[index]?
  · exact .inl ⟨revised, ⟨same ▸ stands.present, stands.revision, stands.kind, stands.digest⟩, rfl⟩
  suffices moves : (∃ old, engine.StandsAs record id index old ∧ old.stage = revised.stage) ∨
      (∃ old, engine.StandsAs record id index old ∧
        Ascends record id index ⟨engine, op, reply, next⟩ old.stage revised.stage) ∨
      Placed record id index ⟨engine, op, reply, next⟩ revised.stage from
    moves.imp_right (.imp_right fun placed => ⟨placed, same, revised, stands, rfl⟩)
  cases held : (engine.control.chain id)[index]? with
  | none =>
      obtain ⟨registration, now, stamped, rfl, named, last, policy, _, rfl⟩ :=
        (step_chains sound moved).2 id index revised held stands.present
      right; right
      change Placed record id index _ stamped.policy.entryStage
      rw [policy]
      exact .registered named last stands.kind stands.digest
  | some old =>
      have change := step_revised sound moved held stands.present
      have stood := stands.before held change
      cases change with
      | kept => exact .inl ⟨_, stood, rfl⟩
      | restored => exact .inl ⟨old, stood, rfl⟩
      | overtaken state revision named last =>
          unfold supersedeByRegistration
          dsimp only
          split
          · exact .inr (.inr (.overtaken named last))
          · exact .inl ⟨old, stood, rfl⟩
      | @applied plan now reply _ named first accepts =>
          obtain ⟨result, rfl, acknowledged⟩ := applied_acknowledged moved same
          subst named first
          have planned := (first_revision held).trans stood.revision
          rw [promotedArtifact_stage]
          exact .inr (.inl ⟨old, stood, .committed rfl planned acknowledged stood
            (commit_edge valid accepts) (accepts_warranted sound accepts)⟩)
      | quarantined last => exact .inr (.inr (.quarantined last))
      | released last =>
          rcases release_releases _ _ _ _ with ⟨unmoved, _⟩ | ⟨artifact, releases⟩
          · rw [mutated_next (step_eq_some moved).1] at unmoved
            have unchanged : (next.control.chain id)[index]? = (engine.control.chain id)[index]? := by
              rw [Control.chain, unmoved]
              rfl
            exact absurd unchanged same
          · exact .inr (.inr (.released last releases))
      | revoked _ last => exact .inr (.inr (.revoked last))
      | superseded _ last => exact .inr (.inr (.superseded last))
      | retired last => exact .inr (.inr (.retired last))

theorem created_stands (constructed : Constructed engine) (stage : Stage) :
    ¬engine.AtStage record id index stage := by
  obtain ⟨config, epoch, salting, naming, rfl⟩ := constructed
  rintro ⟨held, stands, _⟩
  have empty := stands.present
  rw [create_chain] at empty
  cases empty

theorem trace_moves {start final : Engine} {trace : List EngineStep}
    (constructed : Constructed start) (run : EngineRun start trace final) {step : EngineStep}
    (executed : step ∈ trace) {stage : Stage} (standing : step.after.AtStage record id index stage) :
    step.before.AtStage record id index stage ∨
      (∃ source, step.before.AtStage record id index source ∧
        Ascends record id index step source stage) ∨
      Puts record id index step stage := by
  obtain ⟨past, future, rfl⟩ := List.append_of_mem executed
  obtain ⟨before, moved, _⟩ := run.cut
  obtain ⟨other, stands, rfl⟩ := standing
  rcases step_moves (EngineRun.sound before constructed.sound)
    (run_policy_valid constructed before) moved stands with kept | ⟨old, stood, ascends⟩ | puts
  · exact .inl kept
  · exact .inr (.inl ⟨old.stage, ⟨old, stood, rfl⟩, ascends⟩)
  · exact .inr (.inr puts)

end Engine

end ArtifactPromotion
