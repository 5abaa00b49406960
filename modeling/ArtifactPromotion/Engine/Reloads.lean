import ArtifactPromotion.Engine.Coherence
import ArtifactPromotion.Persist.Acceptance

/-! What a restarted process makes of the saved state. -/

namespace ArtifactPromotion

open Runs

namespace Engine

variable {engine next : Engine}

theorem reload_cases {advance : Bool} {reply : Reply}
    (moved : engine.step (.reload advance) = some (reply, next)) :
    (next = engine ∧ reply ≠ .reloaded (.ok ())) ∨
      (reply = .reloaded (.ok ()) ∧ ∃ image,
        StatePersistence.decode (StatePersistence.encode engine.snapshot) = .ok image ∧
        next.state = { image with
          epoch := if advance then image.epoch.next else image.epoch, pending := ∅ }) := by
  have performed := (step_eq_some moved).1
  rw [perform] at performed
  obtain ⟨outcome, installed, answered⟩ := Option.bind_eq_some_iff.mp performed
  simp only [answerWith, Option.some.injEq, Prod.mk.injEq] at answered
  obtain ⟨rfl, rfl⟩ := answered
  unfold reload at installed
  cases decoded : StatePersistence.decode (StatePersistence.encode engine.snapshot) with
  | error status =>
      simp only [decoded, Option.some.injEq] at installed
      subst installed
      exact .inl ⟨rfl, by simp⟩
  | ok image =>
      simp only [decoded, installState] at installed
      obtain ⟨consistency, _, answered⟩ := Option.map_eq_some_iff.mp installed
      subst answered
      cases consistency with
      | error status => exact .inl ⟨rfl, by simp⟩
      | ok done =>
          refine .inr ⟨rfl, image, rfl, ?_⟩
          cases advance <;> rfl

theorem reload_consistent {advance : Bool}
    (moved : engine.step (.reload advance) = some (.reloaded (.ok ()), next)) :
    next.state.verifyConsistency = some (.ok ()) := by
  have performed := (step_eq_some moved).1
  rw [perform] at performed
  obtain ⟨outcome, installed, answered⟩ := Option.bind_eq_some_iff.mp performed
  simp only [answerWith, Option.some.injEq, Prod.mk.injEq, Reply.reloaded.injEq] at answered
  obtain ⟨accepted, rfl⟩ := answered
  unfold reload at installed
  split at installed
  · cases installed
    cases accepted
  · obtain ⟨consistency, consistent, rfl⟩ := Option.map_eq_some_iff.mp installed
    cases consistency with
    | error status => cases accepted
    | ok done => exact consistent

def reloadedState (engine : Engine) : CoordinatorState :=
  { StatePersistence.observeState (StatePersistence.restoredState engine.snapshot) with
    pending := ∅ }

def reloadable (engine : Engine) : Bool :=
  StatePersistence.accepts engine.snapshot &&
    engine.reloadedState.verifyConsistency == some (.ok ()) &&
    (engine.dirty engine.reloadedState).representable

theorem reload_reloadable (sound : engine.Sound) (checked : engine.reloadable = true) :
    engine.step (.reload false) =
      some (.reloaded (.ok ()), engine.dirty engine.reloadedState) := by
  simp only [reloadable, Bool.and_eq_true, beq_iff_eq] at checked
  obtain ⟨⟨accepted, consistent⟩, representable⟩ := checked
  have decoded := StatePersistence.decode_encode_of_accepts (snapshot_keyed sound) accepted
  have installed : engine.reload false = some (.ok (), engine.dirty engine.reloadedState) := by
    unfold reload
    rw [decoded]
    change (engine.reloadedState.verifyConsistency.map _) = _
    rw [consistent]
    rfl
  simp [step, perform, installed, answerWith, representable]

end Engine

end ArtifactPromotion
