import ArtifactPromotion.Engine.PlannedStages

/-! Stage generations only grow, and no run is long enough to exhaust them: every move of a
revision is paid for by a decision, a reservation or a flag that is set once. -/

namespace ArtifactPromotion

open Runs

/-- The generation of a revision together with the moves its unset flags still allow. -/
def ArtifactRecord.potential (record : ArtifactRecord) : Nat :=
  record.stageGeneration.value.toNat + (if record.quarantine.active then 0 else 1) +
    (if record.revocation.active then 0 else 2) + (if record.supersession.active then 0 else 1) +
    (if record.stage = .retired then 0 else 1)

theorem Counter.next_bounds {tag : CounterTag} (counter : Counter tag) :
    counter.value.toNat ≤ counter.next.value.toNat ∧
      counter.next.value.toNat ≤ counter.value.toNat + 1 := by
  have value := counter.next_value
  have bound := counter.value.toNat_lt
  omega

namespace Engine

variable {engine next : Engine}

def charge (engine : Engine) (id : ArtifactId) : Nat :=
  if engine.control.pending.contains id then 2 else 0

def overtakable (engine : Engine) (id : ArtifactId) (index : Nat) : Nat :=
  if index + 1 = (engine.control.chain id).length then 1 else 0

def Budgeted (engine : Engine) : Prop :=
  ∀ (id : ArtifactId) (index : Nat) (record : ArtifactRecord),
    (engine.control.chain id)[index]? = some record →
      record.potential + engine.overtakable id index + engine.charge id ≤
        7 + 3 * engine.control.decisions.size

theorem overtaken_potential (state : CoordinatorState) (revision : ArtifactRevision)
    (record : ArtifactRecord) (id : ArtifactId) :
    (supersedeByRegistration state revision record id).potential ≤ record.potential + 1 := by
  have bounds := record.stageGeneration.next_bounds
  unfold supersedeByRegistration ArtifactRecord.potential
  dsimp only
  split
  · rename_i open_
    simp only [ne_eq, Bool.and_eq_true, decide_eq_true_eq] at open_
    simp only [open_.2, if_true, if_false, reduceCtorEq]
    split <;> omega
  · simp only [if_true]
    omega

theorem promoted_potential (state : CoordinatorState) (plan : PromotionPlan)
    (record : ArtifactRecord) :
    (promotedArtifact state plan record).potential ≤ record.potential + 2 := by
  have bounds := record.stageGeneration.next_bounds
  have target : (if plan.target = .retired then 0 else 1) ≤ 1 := by split <;> omega
  unfold promotedArtifact ArtifactRecord.potential
  dsimp only
  by_cases promotes : plan.target = .promoted
  · rw [if_pos promotes]
    dsimp only
    omega
  · rw [if_neg promotes]
    dsimp only
    omega

theorem quarantined_potential (state : CoordinatorState) {record : ArtifactRecord}
    (reasonClass detail : Text) (unquarantined : record.quarantine.active = false)
    (open_ : record.stage ≠ .retired) :
    (quarantinedArtifact state record reasonClass detail).potential ≤ record.potential := by
  have bounds := record.stageGeneration.next_bounds
  unfold quarantinedArtifact ArtifactRecord.potential
  simp only [unquarantined, open_, if_true, if_false, Bool.false_eq_true, reduceCtorEq]
  omega

theorem released_potential (state : CoordinatorState) (record : ArtifactRecord) :
    (releasedArtifact state record).potential ≤ record.potential + 3 := by
  have bounds := record.stageGeneration.next_bounds
  unfold releasedArtifact ArtifactRecord.potential
  simp only [if_false, Bool.false_eq_true, reduceCtorEq]
  omega

theorem revoked_potential (state : CoordinatorState) {record : ArtifactRecord}
    (target : PromotionDecisionId) (reasonClass detail : Text) (cause : EvidenceId)
    (unrevoked : record.revocation.active = false) :
    (revokedArtifact state record target reasonClass detail cause).potential ≤
      record.potential := by
  have bounds := record.stageGeneration.next_bounds
  unfold revokedArtifact ArtifactRecord.potential
  simp only [unrevoked, if_true, if_false, Bool.false_eq_true, reduceCtorEq]
  omega

theorem superseded_potential (state : CoordinatorState) {record : ArtifactRecord}
    (successorRecord : ArtifactRecord) (successor : ArtifactId) (reason : Text)
    (unsuperseded : record.supersession.active = false) (open_ : record.stage ≠ .retired) :
    (supersededArtifact state record successorRecord successor reason).potential ≤
      record.potential := by
  have bounds := record.stageGeneration.next_bounds
  unfold supersededArtifact ArtifactRecord.potential
  simp only [unsuperseded, open_, if_true, if_false, Bool.false_eq_true, reduceCtorEq]
  omega

theorem retired_potential (state : CoordinatorState) {record : ArtifactRecord}
    (unretired : record.stage ≠ .retired) :
    (retiredArtifact state record).potential ≤ record.potential := by
  have bounds := record.stageGeneration.next_bounds
  unfold retiredArtifact ArtifactRecord.potential
  simp only [unretired, if_true, if_false]
  omega

theorem registered_potential (state : CoordinatorState) (registration : ArtifactRegistration)
    (revision : ArtifactRevision) (now : UInt64) :
    (registrationRecord state registration revision now).potential ≤ 6 := by
  have entry : (if state.policy.entryStage = .retired then 0 else 1) ≤ 1 := by split <;> omega
  unfold registrationRecord ArtifactRecord.potential
  simp only [Bool.false_eq_true, if_false, UInt64.reduceToNat]
  omega

theorem step_decisionGenerator (sound : engine.Sound) {op : Op} {reply : Reply}
    (moved : engine.step op = some (reply, next)) :
    next.control.decisionGenerator = engine.control.decisionGenerator ∨
      next.control.decisionGenerator = engine.control.decisionGenerator.advance := by
  cases step_effect moved with
  | idle _ same => exact .inl (by rw [same])
  | undecided _ _ _ changed => exact .inr (by rw [changed]; rfl)
  | decided _ _ _ _ _ _ changed => exact .inr (by rw [changed]; rfl)
  | issued _ _ _ _ _ _ changed => exact .inr (by rw [changed]; rfl)
  | releaseRefused _ _ changed => exact .inr (by rw [changed]; rfl)
  | released _ _ _ _ _ _ _ _ changed => exact .inr (by rw [changed]; rfl)
  | reloaded decoded changed =>
      exact .inl (image_reloaded sound decoded changed).decisionGenerator
  | closed _ _ _ _ _ changed =>
      refine .inl ?_
      rw [changed]
      split <;> rfl
  | published _ _ changed | restarted _ changed | recovered changed
  | compatibilityMoved _ changed | registrationRefused _ _ changed
  | registered _ _ _ _ _ _ _ changed | submitted _ _ _ _ changed
  | committed _ _ _ _ _ changed | quarantined _ _ _ _ changed
  | revoked _ _ _ _ _ _ changed | superseded _ _ _ _ _ _ changed | retired _ _ _ changed
  | evidenceRevoked _ _ changed =>
      refine .inl ?_
      simp only [changed, Control.setPolicy, Control.replaceCurrent, Control.setChain,
        Control.addRecord, Control.setDecision, Control.releasePending]

theorem step_decisions_size (sound : engine.Sound) {op : Op} {reply : Reply}
    (moved : engine.step op = some (reply, next)) :
    engine.control.decisions.size ≤ next.control.decisions.size := by
  have before := sound.coherent.decisionsCounted
  have after := (sound_step sound moved).coherent.decisionsCounted
  have room := sound.coherent.decisionRoom sound.roomy
  rcases step_decisionGenerator sound moved with same | advanced
  · rw [same] at after
    omega
  · rw [advanced, IdentityGenerator.advance_counter room] at after
    omega

theorem opened_decisions_size (sound : engine.Sound) {op : Op} {reply : Reply}
    (moved : engine.step op = some (reply, next)) {id : PromotionDecisionId}
    (fresh : id = engine.control.decisionGenerator.next)
    (held : next.control.decisions.contains id = true) :
    next.control.decisions.size = engine.control.decisions.size + 1 := by
  have nextSound := sound_step sound moved
  have before := sound.coherent.decisionsCounted
  have after := nextSound.coherent.decisionsCounted
  have room := sound.coherent.decisionRoom sound.roomy
  obtain ⟨decision, present⟩ := OrderedMaps.contains_iff.mp held
  have issued := (nextSound.coherent.decisions id decision present).2
  rcases step_decisionGenerator sound moved with same | advanced
  · rw [same, fresh] at issued
    exact absurd issued (IdentityGenerator.next_not_issued room)
  · rw [advanced, IdentityGenerator.advance_counter room] at after
    omega

theorem step_charge (sound : engine.Sound) {op : Op} {reply : Reply}
    (moved : engine.step op = some (reply, next)) (id : ArtifactId) :
    next.charge id + 3 * engine.control.decisions.size ≤
      engine.charge id + 3 * next.control.decisions.size := by
  have grown := step_decisions_size sound moved
  unfold charge
  by_cases reserved : next.control.pending.contains id = true
  · rw [if_pos reserved]
    obtain ⟨reservation, held⟩ := OrderedMaps.contains_iff.mp reserved
    rcases step_pending moved held with old | ⟨plan, _, _, _, issues⟩
    · have contained : engine.control.pending.contains id = true :=
        OrderedMaps.contains_iff.mpr ⟨reservation, old⟩
      rw [if_pos contained]
      omega
    · have stored := issues.stored
      obtain ⟨request, now, artifact, result, _, _, _, _, _, plan_eq, _⟩ := issues.evaluated
      have opened := opened_decisions_size sound moved
        (by rw [plan_eq]; exact planOf_decision request artifact now)
        ((sound_step sound moved).coherent.plans _ _ stored).2.2.2
      split <;> omega
  · rw [if_neg reserved]
    split <;> omega

theorem charge_le (sound : engine.Sound) (id : ArtifactId) :
    engine.charge id ≤ 3 * engine.control.decisions.size := by
  unfold charge
  by_cases reserved : engine.control.pending.contains id = true
  · obtain ⟨reservation, held⟩ := OrderedMaps.contains_iff.mp reserved
    obtain ⟨_, positive, low⟩ := (sound.coherent.reservations id reservation held).2.1
    have counted := sound.coherent.decisionsCounted
    have plans := sound.coherent.plansCounted
    split <;> omega
  · rw [if_neg reserved]
    omega

theorem overtakable_le (sound : engine.Sound) {op : Op} {reply : Reply}
    (moved : engine.step op = some (reply, next)) {id : ArtifactId} {index : Nat}
    {record : ArtifactRecord} (held : (engine.control.chain id)[index]? = some record) :
    next.overtakable id index ≤ engine.overtakable id index := by
  have inside := (List.getElem?_eq_some_iff.mp held).1
  have longer : (engine.control.chain id).length ≤ (next.control.chain id).length := by
    by_contra shorter
    obtain ⟨last, lastHeld⟩ : ∃ last, (engine.control.chain id)[(next.control.chain id).length]? =
        some last := ⟨_, List.getElem?_eq_getElem (by omega)⟩
    obtain ⟨revised, found, _⟩ := (step_chains sound moved).1 id _ last lastHeld
    simp at found
  unfold overtakable
  split
  · rw [if_pos (by omega)]
  · omega

theorem registered_overtakable {registration : ArtifactRegistration} {now : UInt64}
    {added : ArtifactRecord}
    (moved : engine.step (.registerArtifact registration now) =
      some (.registered (.ok added), next)) {index : Nat}
    (current : engine.Current registration.id index) :
    next.control = engine.control ∨ next.overtakable registration.id index = 0 := by
  cases step_effect moved with
  | idle _ same => exact .inl same
  | registered _ _ _ _ _ _ _ changed =>
      refine .inr ?_
      have chain : next.control.chain registration.id =
          supersededChain engine.state.advanceSequence engine.control.revisionGenerator.next
            registration.id (engine.control.chain registration.id) ++ [added] := by
        rw [changed]
        exact Std.ExtTreeMap.getD_insert_self
      have length := supersededChain_length engine.state.advanceSequence
        engine.control.revisionGenerator.next registration.id
        (engine.control.chain registration.id)
      unfold overtakable
      unfold Current at current
      rw [chain, List.length_append, List.length_singleton, length, if_neg (by omega)]

theorem step_budgeted (sound : engine.Sound) {op : Op} {reply : Reply}
    (moved : engine.step op = some (reply, next)) (budget : engine.Budgeted) : next.Budgeted := by
  obtain ⟨revisedChains, grown⟩ := step_chains sound moved
  intro id index record held
  have charged := step_charge sound moved id
  cases before : (engine.control.chain id)[index]? with
  | none =>
      obtain ⟨registration, now, stamped, _, _, _, _, _, rfl⟩ :=
        grown id index record before held
      have fresh := registered_potential stamped registration engine.control.revisionGenerator.next
        now
      have bound := charge_le (sound_step sound moved) id
      have last : next.overtakable id index ≤ 1 := by
        unfold overtakable
        split <;> omega
      omega
  | some old =>
      obtain ⟨revised, found, change⟩ := revisedChains id index old before
      have same : revised = record := Option.some.inj (found.symm.trans held)
      subst same
      have bound := budget id index old before
      have last := overtakable_le sound moved before
      have unmoved (artifacts : next.control.artifacts = engine.control.artifacts) :
          revised.potential + next.overtakable id index + next.charge id ≤
            7 + 3 * next.control.decisions.size := by
        have chains : next.control.chain id = engine.control.chain id := by
          rw [Control.chain, artifacts, Control.chain]
        rw [chains, before, Option.some.injEq] at found
        subst found
        omega
      cases change with
      | kept => omega
      | restored =>
          have potential : old.restored.potential = old.potential := rfl
          omega
      | @overtaken registration _ _ _ state revision named current =>
          subst named
          rcases registered_overtakable moved current with same | taken
          · exact unmoved (by rw [same])
          · have potential := overtaken_potential state revision old registration.id
            have one : engine.overtakable registration.id index = 1 := if_pos current
            omega
      | @applied plan _ _ _ named first accepts =>
          have potential := promoted_potential engine.state.advanceSequence plan old
          cases step_effect moved with
          | idle _ same => exact unmoved (by rw [same])
          | closed released _ _ _ _ changed =>
              refine unmoved ?_
              rw [changed]
              split <;> rfl
          | committed _ _ _ _ _ changed =>
              have reserved : engine.charge id = 2 := by
                have holds := accepts.reserved
                unfold holdsReservation at holds
                split at holds
                · simp at holds
                · rename_i reservation present
                  refine if_pos ?_
                  rw [named] at present
                  exact OrderedMaps.contains_iff.mpr ⟨reservation, present⟩
              have freed : next.charge id = 0 := by
                refine if_neg ?_
                rw [changed]
                simp [Control.releasePending, named]
              have kept := step_decisions_size sound moved
              omega
      | @quarantined reasonClass detail _ _ _ current unquarantined open_ =>
          have potential := quarantined_potential engine.state.advanceSequence reasonClass detail
            unquarantined open_.2
          omega
      | released current active granted =>
          have potential := released_potential engine.state.advanceSequence old
          cases step_effect moved with
          | idle _ same => exact unmoved (by rw [same])
          | releaseRefused _ _ changed => exact unmoved (by rw [changed]; rfl)
          | @released _ _ _ _ _ _ decision _ _ _ _ _ named _ _ _ changed =>
              have opened := opened_decisions_size sound moved named
                (by rw [changed]; exact Std.ExtTreeMap.contains_insert_self)
              have kept : next.charge id = engine.charge id := by
                unfold charge
                rw [changed]
                rfl
              omega
      | @revoked _ reasonClass detail _ cause _ _ _ target current unrevoked =>
          have potential := revoked_potential engine.state.advanceSequence target reasonClass detail
            cause unrevoked
          omega
      | @superseded successor reason _ _ _ _ successorRecord current unsuperseded open_ =>
          have potential := superseded_potential engine.state.advanceSequence successorRecord
            successor reason unsuperseded open_.2
          omega
      | retired current unretired =>
          have potential := retired_potential engine.state.advanceSequence unretired
          omega

end Engine

theorem EngineRun.budgeted {start final : Engine} {trace : List EngineStep}
    (run : EngineRun start trace final) (constructed : Constructed start) : final.Budgeted := by
  have initially : start.Sound ∧ start.Budgeted := by
    refine ⟨constructed.sound, ?_⟩
    obtain ⟨config, epoch, salting, naming, rfl⟩ := constructed
    intro id index record held
    have empty : (Engine.create config epoch salting naming).control.chain id = [] :=
      Engine.create_chain config epoch salting naming id
    rw [empty] at held
    simp at held
  have kept := run.invariant (fun engine => engine.Sound ∧ engine.Budgeted)
    (fun _ _ _ _ holds moved =>
      ⟨Engine.sound_step holds.1 moved, Engine.step_budgeted holds.1 moved holds.2⟩) initially
  exact kept.2

end ArtifactPromotion
