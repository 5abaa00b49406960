import ArtifactPromotion.Engine.Generations

/-! Which operation a change of a revision can be attributed to, and how the stage generation counts
the moves of the stage. -/

namespace ArtifactPromotion

open Runs

/-- The lifecycle operations that may touch the revision at one position of the chain of `id`. -/
inductive Attributed (engine : Engine) (id : ArtifactId) (index : Nat) : Op → Reply → Prop
  | registered {registration now reply} (named : registration.id = id) :
      Attributed engine id index (.registerArtifact registration now) reply
  | committed {plan now result record} (named : plan.artifact = id)
      (held : (engine.state.chain id)[index]? = some record)
      (planned : plan.artifactRevision = record.revision)
      (acknowledged : result.outcome = .promotionCommitted) :
      Attributed engine id index (.commit plan now) (.committed (.ok result))
  | quarantined {reasonClass detail authority reply} (last : engine.Current id index) :
      Attributed engine id index (.quarantine id reasonClass detail authority) reply
  | released {authority now later reply} (last : engine.Current id index) :
      Attributed engine id index (.releaseQuarantine id authority now later) reply
  | revoked {decision reasonClass detail authority cause now reply}
      (last : engine.Current id index) :
      Attributed engine id index (.revoke id decision reasonClass detail authority cause now) reply
  | superseded {successor reason authority now reply} (last : engine.Current id index) :
      Attributed engine id index (.supersede id successor reason authority now) reply
  | retired {authority now reply} (last : engine.Current id index) :
      Attributed engine id index (.retire id authority now) reply

/-- What a step may do to the revision records. -/
structure LifecycleAttributed (step : EngineStep) : Prop where
  attributed : (∀ advance, step.input ≠ .reload advance) → ∀ (id : ArtifactId) (index : Nat),
    (step.after.state.chain id)[index]? ≠ (step.before.state.chain id)[index]? →
      Attributed step.before id index step.input step.output
  kept : ∀ (id : ArtifactId) (index : Nat) (record : ArtifactRecord),
    (step.before.state.chain id)[index]? = some record →
      ∃ revised, (step.after.state.chain id)[index]? = some revised ∧
        revised.revision = record.revision
  counted : ∀ (id : ArtifactId) (index : Nat) (record revised : ArtifactRecord),
    (step.before.state.chain id)[index]? = some record →
      (step.after.state.chain id)[index]? = some revised → revised.stage ≠ record.stage →
        revised.stageGeneration.value.toNat = record.stageGeneration.value.toNat + 1
  bounded : ∀ (id : ArtifactId) (index : Nat) (record revised : ArtifactRecord),
    (step.before.state.chain id)[index]? = some record →
      (step.after.state.chain id)[index]? = some revised →
        record.stageGeneration.value.toNat ≤ revised.stageGeneration.value.toNat ∧
          revised.stageGeneration.value.toNat ≤ record.stageGeneration.value.toNat + 1

namespace Engine

variable {engine next : Engine}

theorem revised_moves {id : ArtifactId} {index : Nat} {op : Op} {reply : Reply}
    {record revised : ArtifactRecord} (change : Revised engine id index op reply record revised) :
    (revised.stageGeneration = record.stageGeneration ∧ revised.stage = record.stage) ∨
      revised.stageGeneration = record.stageGeneration.next := by
  cases change with
  | kept => exact .inl ⟨rfl, rfl⟩
  | restored => exact .inl ⟨rfl, rfl⟩
  | overtaken state revision named current =>
      unfold supersedeByRegistration
      dsimp only
      split
      · exact .inr rfl
      · exact .inl ⟨rfl, rfl⟩
  | applied named first accepts =>
      right
      unfold promotedArtifact
      dsimp only
      split <;> rfl
  | _ => exact .inr rfl

theorem budgeted_room (sound : engine.Sound) (budget : engine.Budgeted) {id : ArtifactId}
    {index : Nat} {record : ArtifactRecord}
    (held : (engine.control.chain id)[index]? = some record) :
    record.stageGeneration.value.toNat < 2 ^ 64 - 1 := by
  have within := budget id index record held
  have stored := sound.roomy.2
  have potential : record.stageGeneration.value.toNat ≤ record.potential := by
    unfold ArtifactRecord.potential
    omega
  unfold kMaxNodes at stored
  omega

theorem next_generation {record : ArtifactRecord}
    (room : record.stageGeneration.value.toNat < 2 ^ 64 - 1) :
    record.stageGeneration.next.value.toNat = record.stageGeneration.value.toNat + 1 := by
  have moved := record.stageGeneration.next_value
  omega

theorem applied_acknowledged {plan : PromotionPlan} {now : UInt64} {reply : Reply}
    {id : ArtifactId} {index : Nat}
    (moved : engine.step (.commit plan now) = some (reply, next))
    (changes : (next.control.chain id)[index]? ≠ (engine.control.chain id)[index]?) :
    ∃ result, reply = .committed (.ok result) ∧ result.outcome = .promotionCommitted := by
  have unmoved (same : next.control.artifacts = engine.control.artifacts) : False := by
    apply changes
    rw [Control.chain, Control.chain, same]
  cases step_effect moved with
  | idle _ same => exact (unmoved (by rw [same])).elim
  | closed released _ _ _ _ changed =>
      refine (unmoved ?_).elim
      rw [changed]
      cases released <;> rfl
  | @committed _ _ _ result _ _ _ acknowledged _ _ _ _ => exact ⟨result, rfl, acknowledged⟩

theorem first_revision {id : ArtifactId} {revision : ArtifactRevision} {record : ArtifactRecord}
    (held : (engine.control.chain id)[engine.revisionIndex id revision]? = some record) :
    revision = record.revision := by
  obtain ⟨inside, same⟩ := List.getElem?_eq_some_iff.mp held
  have matching : ((engine.control.chain id)[engine.revisionIndex id revision].revision ==
      revision) = true := @List.findIdx_getElem _ _ _ inside
  rw [same, beq_iff_eq] at matching
  exact matching.symm

theorem revised_attributed {id : ArtifactId} {index : Nat} {op : Op} {reply : Reply}
    {record revised : ArtifactRecord} (moved : engine.step op = some (reply, next))
    (online : ∀ advance, op ≠ .reload advance)
    (held : (engine.control.chain id)[index]? = some record)
    (found : (next.control.chain id)[index]? = some revised) (differs : revised ≠ record)
    (change : Revised engine id index op reply record revised) :
    Attributed engine id index op reply := by
  cases change with
  | kept => exact absurd rfl differs
  | @restored advance => exact absurd rfl (online advance)
  | overtaken state revision named current => exact .registered named
  | @applied plan now _ _ named first accepts =>
      have changes : (next.control.chain id)[index]? ≠ (engine.control.chain id)[index]? := by
        rw [held, found]
        intro same
        exact differs (Option.some.inj same)
      obtain ⟨result, rfl, acknowledged⟩ := applied_acknowledged moved changes
      subst named first
      exact .committed rfl held (first_revision held) acknowledged
  | quarantined last => exact .quarantined last
  | released last => exact .released last
  | revoked _ last => exact .revoked last
  | superseded _ last => exact .superseded last
  | retired last => exact .retired last

theorem step_attributed (sound : engine.Sound) (budget : engine.Budgeted) {op : Op} {reply : Reply}
    (moved : engine.step op = some (reply, next)) :
    LifecycleAttributed ⟨engine, op, reply, next⟩ := by
  obtain ⟨revisedChains, grown⟩ := step_chains sound moved
  constructor
  case attributed =>
    intro online id index changes
    cases held : (engine.control.chain id)[index]? with
    | none =>
        cases found : (next.control.chain id)[index]? with
        | none => exact absurd (found.trans held.symm) changes
        | some record =>
            obtain ⟨registration, now, stamped, rfl, named, _⟩ := grown id index record held found
            exact .registered named
    | some record =>
        obtain ⟨revised, found, change⟩ := revisedChains id index record held
        refine revised_attributed moved online held found ?_ change
        rintro rfl
        exact changes (found.trans held.symm)
  case kept =>
    intro id index record held
    obtain ⟨revised, found, change⟩ := revisedChains id index record held
    exact ⟨revised, found, revised_revision change⟩
  case counted =>
    intro id index record revised held found moves
    rcases revised_moves (step_revised sound moved held found) with ⟨_, still⟩ | advanced
    · exact absurd still moves
    · rw [advanced]
      exact next_generation (budgeted_room sound budget held)
  case bounded =>
    intro id index record revised held found
    rcases revised_moves (step_revised sound moved held found) with ⟨same, _⟩ | advanced
    · rw [same]
      omega
    · rw [advanced, next_generation (budgeted_room sound budget held)]
      omega

/-- In every run every step that is not a reload changes a revision only as the lifecycle operation
of its artifact, and every step moves a stage together with its generation, one at a time. -/
theorem run_lifecycle_attributed {start final : Engine} {trace : List EngineStep}
    (constructed : Constructed start) (run : EngineRun start trace final) :
    ∀ step ∈ trace, LifecycleAttributed step := by
  intro step executed
  obtain ⟨past, future, rfl⟩ := List.append_of_mem executed
  obtain ⟨before, moved, _⟩ := run.cut
  exact step_attributed (EngineRun.sound before constructed.sound)
    (EngineRun.budgeted before constructed) moved

def promotesSample (step : EngineStep) : Bool :=
  match step.input with
  | .commit _ _ =>
      (step.before.state.chain ⟨0, 5⟩)[0]?.any (·.stage == .candidate) &&
        (step.after.state.chain ⟨0, 5⟩)[0]?.any (·.stage == .promoted)
  | _ => false

theorem run_lifecycle_attributed_promoted :
    ∃ (trace : List EngineStep) (final : Engine) (step : EngineStep),
      EngineRun sampleEngine trace final ∧ step ∈ trace ∧ promotesSample step = true ∧
        Attributed step.before ⟨0, 5⟩ 0 step.input step.output := by
  have evaluated : ((play step sampleEngine promoteChoices).any fun played =>
      played.1.any promotesSample) = true := by
    rw [promote_played]
    decide +kernel
  obtain ⟨trace, final, run, checked⟩ := run_of_checked evaluated
  obtain ⟨last, executed, promotes⟩ := List.any_eq_true.mp checked
  have lawful := run_lifecycle_attributed sampleEngine_constructed run last executed
  refine ⟨trace, final, last, run, executed, promotes, lawful.attributed ?_ _ _ ?_⟩
  all_goals
    unfold promotesSample at promotes
    split at promotes
  · rename_i plan now input
    intro advance reloaded
    rw [input] at reloaded
    cases reloaded
  · simp at promotes
  · simp only [Bool.and_eq_true, Option.any_eq_true, beq_iff_eq] at promotes
    obtain ⟨⟨before, held, candidate⟩, after, found, promoted⟩ := promotes
    intro same
    rw [held, found, Option.some.injEq] at same
    rw [same, candidate] at promoted
    cases promoted
  · simp at promotes

end Engine

end ArtifactPromotion
