import ArtifactPromotion.Engine.Cases

/-! Which reservations a commit releases. -/

namespace ArtifactPromotion

open Runs

namespace Engine

variable {engine : Engine}

def commitReleases (engine : Engine) (plan : PromotionPlan) (now : UInt64) : Prop :=
  engine.admissionOpen = true ∧ plan.valid = true ∧ engine.state.plans[plan.id]? = some plan ∧
    (policyMoved engine.state plan = true ∨
      ((engine.state.findRevision plan.artifact plan.artifactRevision).isSome = true ∧
        (expired plan now = true ∨ holdsReservation engine.state plan = true)))

theorem closeCommit_pending (plan : PromotionPlan) (outcome : PromotionOutcome)
    (decision : PromotionDecision) (released : Bool) :
    (engine.closeCommit plan outcome decision released).2.state.pending =
      if released then engine.state.pending.erase plan.artifact else engine.state.pending := by
  unfold closeCommit
  cases released <;> rfl

theorem revalidate_pending (plan : PromotionPlan) (artifact : ArtifactRecord)
    (decision : PromotionDecision) (now : UInt64) :
    (engine.revalidate plan artifact decision now).2.state.pending =
      engine.state.pending.erase plan.artifact := by
  unfold revalidate
  dsimp only
  split
  · rw [closeCommit_pending, if_pos rfl]
  split
  · rw [closeCommit_pending, if_pos rfl]
  split
  · rw [closeCommit_pending, if_pos rfl]
  · rfl

theorem commitStored_pending (plan : PromotionPlan) (now : UInt64) :
    (engine.commitStored plan now).2.state.pending =
      if (engine.state.findRevision plan.artifact plan.artifactRevision).isSome = true ∧
          (expired plan now = true ∨ holdsReservation engine.state plan = true) then
        engine.state.pending.erase plan.artifact
      else engine.state.pending := by
  have revisions : (engine.state.touchDecision plan.decision).findRevision plan.artifact
      plan.artifactRevision = engine.state.findRevision plan.artifact plan.artifactRevision := rfl
  have reservations : holdsReservation (engine.state.touchDecision plan.decision) plan =
      holdsReservation engine.state plan := rfl
  unfold commitStored
  simp only [revisions, reservations]
  cases engine.state.findRevision plan.artifact plan.artifactRevision with
  | none => simp; rfl
  | some artifact =>
      by_cases late : expired plan now = true
      · simp only [late, if_true, closeCommit_pending]
        simp
        rfl
      by_cases reserved : holdsReservation engine.state plan = true
      · simp only [late, reserved, Bool.not_true, Bool.false_eq_true, if_false, revalidate_pending]
        simp
        rfl
      · simp only [late, reserved, Bool.not_false, Bool.false_eq_true, if_false, if_true,
          closeCommit_pending]
        simp
        rfl

open Classical in
theorem commit_pending (plan : PromotionPlan) (now : UInt64) :
    (engine.commit plan now).2.state.pending =
      if engine.commitReleases plan now then engine.state.pending.erase plan.artifact
      else engine.state.pending := by
  unfold commit commitReleases
  by_cases admitted : engine.admissionOpen = true
  case neg => simp [admitted, shuttingDown, refuse]
  by_cases wellFormed : plan.valid = true
  case neg => simp [admitted, wellFormed, refuse]
  cases found : engine.state.plans[plan.id]? with
  | none => simp [admitted, wellFormed, refuse]
  | some stored =>
      by_cases same : stored = plan
      case neg => simp [admitted, wellFormed, same, refuse]
      subst same
      by_cases stale : policyMoved engine.state stored = true
      · simp only [admitted, wellFormed, stale, Bool.not_true, Bool.false_eq_true, if_false,
          ne_eq, not_true_eq_false, if_true, true_and, true_or]
        rfl
      · simp only [admitted, wellFormed, stale, Bool.not_true, Bool.false_eq_true, if_false,
          ne_eq, not_true_eq_false, true_and, false_or, commitStored_pending]

/-- A commit leaves every reservation of another plan exactly as it was unless it takes one of the
two exits that erase before they ask who holds the reservation: the policy moved, or the plan
expired. -/
theorem commit_keeps_strangers_iff (engine : Engine) (plan : PromotionPlan) (now : UInt64) :
    (∀ (id : ArtifactId) (reservation : PendingTransition),
      engine.state.pending[id]? = some reservation → reservation.plan ≠ plan.id →
      (engine.commit plan now).2.state.pending[id]? = some reservation) ↔
    ¬(engine.admissionOpen = true ∧ plan.valid = true ∧
      engine.state.plans[plan.id]? = some plan ∧
      (policyMoved engine.state plan = true ∨
        ((engine.state.findRevision plan.artifact plan.artifactRevision).isSome = true ∧
          expired plan now = true)) ∧
      ∃ reservation, engine.state.pending[plan.artifact]? = some reservation ∧
        reservation.plan ≠ plan.id) := by
  rw [commit_pending]
  constructor
  · rintro kept ⟨admitted, wellFormed, stored, exits, reservation, held, stranger⟩
    have releases : engine.commitReleases plan now := by
      refine ⟨admitted, wellFormed, stored, ?_⟩
      rcases exits with stale | ⟨found, late⟩
      · exact .inl stale
      · exact .inr ⟨found, .inl late⟩
    have still := kept plan.artifact reservation held stranger
    rw [if_pos releases] at still
    simp at still
  · intro spared id reservation held stranger
    split
    · rename_i releases
      obtain ⟨admitted, wellFormed, stored, exits⟩ := releases
      by_cases other : id = plan.artifact
      · subst other
        exfalso
        rcases exits with stale | ⟨found, late | reserved⟩
        · exact spared ⟨admitted, wellFormed, stored, .inl stale, reservation, held, stranger⟩
        · exact spared ⟨admitted, wellFormed, stored, .inr ⟨found, late⟩, reservation, held,
            stranger⟩
        · simp only [holdsReservation, held, beq_iff_eq] at reserved
          exact stranger reserved
      · rw [OrderedMaps.getElem?_erase_ne _ other, held]
    · exact held

def directPolicy : PromotionPolicy :=
  { id := ⟨7, 1⟩, generation := ⟨1⟩, name := text "direct",
    graph := { edges := [⟨.candidate, .promoted⟩, ⟨.promoted, .retired⟩] }
    rules := [{ source := .candidate, target := .promoted }] }

def sampleRegistration (content : UInt8) : ArtifactRegistration :=
  { id := ⟨0, 5⟩, kind := .executable, digest := ⟨List.replicate 32 content, by simp⟩,
    name := text "service" }

def sampleRequest (engine : Engine) (target : Stage) (number : UInt64) : PromotionRequest :=
  let current := (engine.state.findCurrent ⟨0, 5⟩).getD {}
  { artifact := ⟨0, 5⟩, expectedRevision := current.revision, expectedDigest := current.digest,
    requestedStage := target, request := ⟨0, number⟩, attempt := ⟨0, number⟩,
    authority := engine.state.authority }

def planFor (engine : Engine) (number : UInt64) : PromotionPlan :=
  ((engine.state.plans.toList.map Prod.snd).find? fun plan => plan.request == ⟨0, number⟩).getD {}

def strayRequest (engine : Engine) : PromotionRequest :=
  { artifact := ⟨0, 5⟩, expectedRevision := ⟨0, 1⟩, expectedDigest := ⟨List.replicate 32 1, by simp⟩,
    requestedStage := .promoted, request := ⟨0, 1⟩, attempt := ⟨0, 1⟩,
    authority := engine.state.authority }

def sampleEngine : Engine := create {} ⟨1⟩ 1 2

theorem sampleEngine_constructed : Constructed sampleEngine := ⟨_, _, _, _, rfl⟩

def strangerChoices : List (Engine → Op) :=
  [fun _ => .publishPolicy directPolicy,
    fun _ => .registerArtifact (sampleRegistration 1) 0,
    fun engine => .evaluate (engine.sampleRequest .promoted 1) 0,
    fun _ => .recoverInFlight,
    fun engine => .evaluate (engine.sampleRequest .promoted 2) 60000]

def losesStranger (engine : Engine) : Bool :=
  (engine.state.pending[(⟨0, 5⟩ : ArtifactId)]?.any fun reservation =>
    reservation.plan != (engine.planFor 1).id) &&
  ((engine.commit (engine.planFor 1) 60001).2.state.pending[(⟨0, 5⟩ : ArtifactId)]?).isNone

/-- The expired plan of the first request takes the second one's reservation with it. -/
theorem expired_commit_releases_stranger :
    ∃ (engine : Engine) (plan : PromotionPlan) (now : UInt64) (id : ArtifactId)
      (reservation : PendingTransition),
      Reachable engine ∧ engine.state.pending[id]? = some reservation ∧
        reservation.plan ≠ plan.id ∧
        (engine.commit plan now).2.state.pending[id]? ≠ some reservation := by
  have evaluated : ((play step sampleEngine strangerChoices).any fun played =>
      losesStranger played.2) = true := by
    decide +kernel
  obtain ⟨engine, reachable, checked⟩ :=
    Reachable.of_play losesStranger sampleEngine_constructed evaluated
  simp only [losesStranger, Bool.and_eq_true, Option.isNone_iff_eq_none, Option.any_eq_true,
    bne_iff_ne] at checked
  obtain ⟨⟨reservation, held, stranger⟩, lost⟩ := checked
  refine ⟨engine, engine.planFor 1, 60001, ⟨0, 5⟩, reservation, reachable, held, stranger, ?_⟩
  rw [lost]
  simp

end Engine

end ArtifactPromotion
