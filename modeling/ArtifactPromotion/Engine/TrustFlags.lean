import ArtifactPromotion.Engine.Decisions
import ArtifactPromotion.Engine.Freshness

/-! Whether the stage of a revision and the trust records beside it tell the same story. -/

namespace ArtifactPromotion

open Runs

/-- The stages in which the quarantine record of a revision no longer matters. -/
def Stage.closed : Stage → Bool
  | .revoked | .superseded | .retired => true
  | _ => false

/-- A revision that is neither revoked, superseded nor retired is marked as quarantined exactly
while it is in that stage. -/
def ArtifactRecord.QuarantineMarked (artifact : ArtifactRecord) : Prop :=
  artifact.stage.closed = false →
    (artifact.quarantine.active = true ↔ artifact.stage = .quarantined)

namespace Engine

variable {engine next : Engine}

structure Enrolls (engine : Engine) (registration : ArtifactRegistration) : Prop where
  validated : registration.validate = .ok ()
  admitted : engine.admissionOpen = true
  room : engine.state.artifacts.contains registration.id = true ∨
    engine.state.artifacts.size < engine.config.maxArtifacts.toNat
  classed : classConflict engine.state registration = none
  bounded : (engine.state.chain registration.id).length <
    engine.config.maxArtifactRevisionsPerId.toNat
  renewed : ∀ last, (engine.state.chain registration.id).getLast? = some last →
    last.digest ≠ registration.digest

theorem registered_enrolls {registration : ArtifactRegistration} {now : UInt64}
    {record : ArtifactRecord}
    (moved : engine.step (.registerArtifact registration now) =
      some (.registered (.ok record), next)) : engine.Enrolls registration := by
  have performed := (step_eq_some moved).1
  simp only [perform, answerWith, Option.some.injEq, Prod.mk.injEq, Reply.registered.injEq]
    at performed
  have answered := performed.1
  unfold registerArtifact at answered
  split at answered
  · simp at answered
  · rename_i validated
    split at answered
    · simp [shuttingDown, refuse] at answered
    · rename_i admitted
      split at answered
      · simp [refuse] at answered
      · rename_i room
        split at answered
        · simp [refuse] at answered
        · rename_i classed
          dsimp only at answered
          split at answered
          · simp [refuse] at answered
          · rename_i bounded
            split at answered
            · simp [refuse] at answered
            · rename_i renewed
              refine ⟨validated, by simpa using admitted, ?_, classed, by omega, ?_⟩
              · rw [or_iff_not_imp_left]
                intro unknown
                simpa [unknown] using room
              · intro last held same
                simp [held, same] at renewed

theorem grown_enrolls {registration : ArtifactRegistration} {now : UInt64} {reply : Reply}
    (moved : engine.step (.registerArtifact registration now) = some (reply, next))
    {id : ArtifactId} {index : Nat} {record : ArtifactRecord}
    (absent : (engine.control.chain id)[index]? = none)
    (held : (next.control.chain id)[index]? = some record) : engine.Enrolls registration := by
  have grown (same : next.control.chain id = engine.control.chain id) : False := by
    rw [same, absent] at held
    simp at held
  cases step_effect moved with
  | idle _ same => exact (grown (by rw [same])).elim
  | registrationRefused _ _ changed =>
      have chains := Control.chain_setChain engine.control registration.id id
        (engine.control.chain registration.id)
      refine (grown ?_).elim
      rw [changed]
      refine chains.trans ?_
      split
      · rename_i same
        rw [same]
      · rfl
  | registered _ _ _ _ _ _ _ _ => exact registered_enrolls moved

theorem step_newest (sound : engine.Sound) {op : Op} {reply : Reply}
    (moved : engine.step op = some (reply, next)) {id : ArtifactId} {artifact : ArtifactRecord}
    (found : next.state.findCurrent id = some artifact) :
    (∃ index record, engine.state.findCurrent id = some record ∧
        Revised engine id index op reply record artifact) ∨
      ∃ registration now stamped, op = .registerArtifact registration now ∧
        engine.Enrolls registration ∧ stamped.policy = engine.state.policy ∧
        artifact = registrationRecord stamped registration
          engine.control.revisionGenerator.next now := by
  obtain ⟨revised, grown⟩ := step_chains sound moved
  have last : (next.control.chain id).getLast? = some artifact := found
  rw [List.getLast?_eq_getElem?] at last
  cases before : (engine.control.chain id)[(next.control.chain id).length - 1]? with
  | none =>
      obtain ⟨registration, now, stamped, rfl, _, _, policy, _, made⟩ :=
        grown id _ artifact before last
      exact .inr ⟨registration, now, stamped, rfl, grown_enrolls moved before last, policy, made⟩
  | some record =>
      have change := step_revised sound moved before last
      have inside := (List.getElem?_eq_some_iff.mp before).1
      -- No chain loses a position, so the newest position is the same one.
      have shorter : (engine.control.chain id).length ≤ (next.control.chain id).length := by
        by_contra longer
        obtain ⟨lost, present, _⟩ := revised id (next.control.chain id).length _
          (List.getElem?_eq_getElem (by omega))
        simp at present
      have current : engine.Current id ((next.control.chain id).length - 1) := by
        unfold Current
        omega
      exact .inl ⟨_, record, current_found current before, change⟩

/-- The current revision of every artifact is marked. -/
def QuarantineCoherent (engine : Engine) : Prop :=
  ∀ id artifact, engine.state.findCurrent id = some artifact → artifact.QuarantineMarked

/-- The operation moves a current revision into or out of `Quarantined` without its record: a
commit that will apply a plan across that border, or a registration under a policy that enters new
revisions there. -/
def CrossesQuarantine (engine : Engine) (op : Op) : Prop :=
  (∃ plan now artifact, op = .commit plan now ∧ engine.Accepts plan now artifact ∧
    engine.state.findCurrent plan.artifact = some artifact ∧ plan.target.closed = false ∧
    ¬(artifact.quarantine.active = true ↔ plan.target = .quarantined)) ∨
  ∃ registration now, op = .registerArtifact registration now ∧ engine.Enrolls registration ∧
    engine.state.policy.entryStage = .quarantined

theorem revised_marked {id : ArtifactId} {index : Nat} {op : Op} {reply : Reply}
    {record revised : ArtifactRecord} (change : Revised engine id index op reply record revised)
    (found : engine.state.findCurrent id = some record) (marked : record.QuarantineMarked)
    (uncrossed : ¬engine.CrossesQuarantine op) : revised.QuarantineMarked := by
  cases change with
  | kept => exact marked
  | restored => exact marked
  | overtaken state revision named current fresh =>
      intro open_
      unfold supersedeByRegistration at open_ ⊢
      dsimp only at open_ ⊢
      split at open_
      · simp [Stage.closed] at open_
      · rename_i kept
        rw [if_neg kept]
        exact marked open_
  | @applied plan now _ _ named first accepts =>
      subst named
      have target : (promotedArtifact engine.state.advanceSequence plan record).stage =
          plan.target := by
        unfold promotedArtifact
        dsimp only
        split <;> rfl
      have mark : (promotedArtifact engine.state.advanceSequence plan record).quarantine =
          record.quarantine := by
        unfold promotedArtifact
        dsimp only
        split <;> rfl
      intro open_
      rw [target] at open_
      rw [target, mark]
      by_contra crossed
      exact uncrossed (.inl ⟨plan, now, record, rfl, accepts, found, open_, crossed⟩)
  | quarantined current unquarantined open_ => exact fun _ => ⟨fun _ => rfl, fun _ => rfl⟩
  | released current held granted =>
      intro _
      simp [releasedArtifact]
  | revoked target current unrevoked held =>
      intro open_
      simp [revokedArtifact, Stage.closed] at open_
  | superseded successorRecord current unsuperseded open_ successorFound =>
      intro stageOpen
      simp [supersededArtifact, Stage.closed] at stageOpen
  | retired current unretired =>
      intro open_
      simp [retiredArtifact, Stage.closed] at open_

theorem step_quarantine_coherent (sound : engine.Sound) {op : Op} {reply : Reply}
    (moved : engine.step op = some (reply, next)) (coherent : engine.QuarantineCoherent)
    (uncrossed : ¬engine.CrossesQuarantine op) : next.QuarantineCoherent := by
  intro id artifact found
  rcases step_newest sound moved found with ⟨index, record, held, change⟩ | registered
  · exact revised_marked change held (coherent id record held) uncrossed
  · obtain ⟨registration, now, stamped, rfl, enrolls, policy, made⟩ := registered
    intro _
    have entered : artifact.stage = engine.state.policy.entryStage := by
      rw [made, ← policy]
      rfl
    have unmarked : artifact.quarantine.active = false := by
      rw [made]
      rfl
    rw [entered, unmarked]
    constructor
    · simp
    · intro quarantined
      exact absurd (.inr ⟨registration, now, rfl, enrolls, quarantined⟩) uncrossed

/-- In every run none of whose steps moves a current revision across the border of `Quarantined`
without its record, every state reached is coherent. -/
theorem run_quarantine_coherent {start final : Engine} {trace : List EngineStep}
    (constructed : Constructed start) (run : EngineRun start trace final)
    (condition : ∀ step ∈ trace, ¬step.before.CrossesQuarantine step.input) :
    final.QuarantineCoherent := by
  have initially : start.Sound ∧ start.QuarantineCoherent := by
    refine ⟨constructed.sound, ?_⟩
    obtain ⟨config, epoch, salting, naming, rfl⟩ := constructed
    intro id artifact found
    rw [CoordinatorState.findCurrent, create_chain] at found
    simp at found
  have kept := run.guarded (fun engine => engine.Sound ∧ engine.QuarantineCoherent)
    (fun step => ¬step.before.CrossesQuarantine step.input)
    (fun _ held uncrossed moved => ⟨sound_step held.1 moved,
      step_quarantine_coherent held.1 moved held.2 uncrossed⟩) initially condition
  exact kept.2

def quarantineChoices : List (Engine → Op) :=
  [fun _ => .publishPolicy releasingPolicy, fun _ => .registerArtifact (sampleRegistration 1) 0,
    fun engine => .quarantine ⟨0, 5⟩ (text "audit") [] engine.state.authority]

def entersCandidates (step : EngineStep) : Bool :=
  match step.input with
  | .commit _ _ => false
  | .registerArtifact _ _ => step.before.state.policy.entryStage == .candidate
  | _ => true

def quarantinesQuietly (played : List EngineStep × Engine) : Bool :=
  played.1.all entersCandidates &&
    (played.2.state.findCurrent ⟨0, 5⟩).any fun artifact => artifact.stage == .quarantined

theorem run_quarantine_coherent_quarantined :
    ∃ (trace : List EngineStep) (final : Engine), EngineRun sampleEngine trace final ∧
      (∀ step ∈ trace, ¬step.before.CrossesQuarantine step.input) ∧
      (∃ artifact, final.state.findCurrent ⟨0, 5⟩ = some artifact ∧
        artifact.stage = .quarantined) ∧ final.QuarantineCoherent := by
  have evaluated : (play step sampleEngine quarantineChoices).any quarantinesQuietly = true := by
    decide +kernel
  obtain ⟨trace, final, run, checked⟩ := run_of_checked evaluated
  simp only [quarantinesQuietly, Bool.and_eq_true, List.all_eq_true, Option.any_eq_true,
    beq_iff_eq] at checked
  obtain ⟨quiet, artifact, found, quarantined⟩ := checked
  have condition : ∀ step ∈ trace, ¬step.before.CrossesQuarantine step.input := by
    intro step executed crosses
    have alone := quiet step executed
    rcases crosses with ⟨plan, now, _, input, _⟩ | ⟨registration, now, input, _, entry⟩
    · simp [entersCandidates, input] at alone
    · simp [entersCandidates, input, entry] at alone
  exact ⟨trace, final, run, condition, ⟨artifact, found, quarantined⟩,
    run_quarantine_coherent sampleEngine_constructed run condition⟩

def leaveQuarantineChoices : List (Engine → Op) :=
  quarantineChoices ++
    [fun engine => .evaluate (engine.sampleRequest .candidate 1) 0,
      fun engine => .commit (engine.planFor 1) 0]

def quarantinedCandidate (engine : Engine) : Bool :=
  (engine.state.findCurrent ⟨0, 5⟩).any fun artifact =>
    artifact.stage == .candidate && artifact.quarantine.active

/-- A commit leaves a candidate that is still marked as quarantined. -/
theorem promoted_candidate_quarantined :
    ∃ engine, Reachable engine ∧ ¬engine.QuarantineCoherent := by
  have evaluated : ((play step sampleEngine leaveQuarantineChoices).any fun played =>
      quarantinedCandidate played.2) = true := by
    decide +kernel
  obtain ⟨engine, reachable, checked⟩ :=
    Reachable.of_play quarantinedCandidate sampleEngine_constructed evaluated
  simp only [quarantinedCandidate, Option.any_eq_true, Bool.and_eq_true, beq_iff_eq] at checked
  obtain ⟨artifact, found, candidate, marked⟩ := checked
  refine ⟨engine, reachable, fun coherent => ?_⟩
  have agrees := coherent _ artifact found (by rw [candidate]; rfl)
  rw [candidate] at agrees
  simp [marked] at agrees

end Engine

/-- A revision in a terminal stage carries the record that put it there: a revocation decision the
coordinator holds, or a successor revision that exists. -/
structure ArtifactRecord.Recorded (engine : Engine) (artifact : ArtifactRecord) : Prop where
  revoked : artifact.stage = .revoked → artifact.revocation.active = true ∧
    engine.state.decisions.contains artifact.revocation.decision = true
  superseded : artifact.stage = .superseded → artifact.supersession.active = true ∧
    ∃ successor, engine.state.findRevision artifact.supersession.successor
      artifact.supersession.successorRevision = some successor

namespace Engine

variable {engine next : Engine}

def TerminalRecorded (engine : Engine) : Prop :=
  ∀ id, ∀ artifact ∈ engine.state.chain id, artifact.Recorded engine

/-- The operation takes a revision into a terminal stage without its record: a commit that will
apply a plan there, or a registration under a policy that enters new revisions there. -/
def EntersUnrecorded (engine : Engine) (op : Op) : Prop :=
  (∃ plan now artifact, op = .commit plan now ∧ engine.Accepts plan now artifact ∧
    ((plan.target = .revoked ∧ artifact.revocation.active = false) ∨
      (plan.target = .superseded ∧ artifact.supersession.active = false))) ∨
  ∃ registration now, op = .registerArtifact registration now ∧ engine.Enrolls registration ∧
    (engine.state.policy.entryStage = .revoked ∨ engine.state.policy.entryStage = .superseded)

theorem registered_chain {registration : ArtifactRegistration} {now : UInt64}
    {added : ArtifactRecord}
    (moved : engine.step (.registerArtifact registration now) =
      some (.registered (.ok added), next)) :
    ∃ stamped : CoordinatorState, stamped.policy = engine.state.policy ∧
      (stamped.chain registration.id).length = (engine.state.chain registration.id).length ∧
      stamped.commitSequence.valid = true ∧
      added = registrationRecord stamped registration engine.control.revisionGenerator.next now ∧
      ∀ id, next.state.chain id = if id = registration.id then
        supersededChain engine.state.advanceSequence engine.control.revisionGenerator.next
          registration.id (engine.state.chain registration.id) ++ [added]
        else engine.state.chain id := by
  cases step_effect moved with
  | idle quiet _ => simp [Reply.confirmsChange] at quiet
  | registered stamped _ _ policyKept length sequenced made changed =>
      refine ⟨stamped, policyKept, length, sequenced, made, ?_⟩
      intro id
      have chains := Control.chain_setChain engine.control registration.id id
        (supersededChain engine.state.advanceSequence engine.control.revisionGenerator.next
          registration.id (engine.control.chain registration.id) ++ [added])
      refine Eq.trans ?_ chains
      change next.control.chain id = _
      rw [changed]
      rfl

theorem registered_found {registration : ArtifactRegistration} {now : UInt64}
    {added : ArtifactRecord}
    (moved : engine.step (.registerArtifact registration now) =
      some (.registered (.ok added), next)) :
    ∃ record, next.state.findRevision registration.id engine.control.revisionGenerator.next =
      some record := by
  obtain ⟨stamped, _, _, _, made, chains⟩ := registered_chain moved
  rw [← Option.isSome_iff_exists, CoordinatorState.findRevision, chains, if_pos rfl,
    List.find?_isSome]
  refine ⟨added, by simp, ?_⟩
  rw [made]
  exact beq_self_eq_true _

end Engine

/-- Every trust record of the revision refers to something the coordinator holds. -/
structure ArtifactRecord.Resolves (engine : Engine) (artifact : ArtifactRecord) : Prop where
  decided : artifact.revocation.active = true →
    engine.state.decisions.contains artifact.revocation.decision = true
  succeeded : artifact.supersession.active = true → ∃ successor,
    engine.state.findRevision artifact.supersession.successor
      artifact.supersession.successorRevision = some successor

namespace Engine

variable {engine next : Engine}

theorem current_revision_found {id : ArtifactId} {record : ArtifactRecord}
    (found : engine.state.findCurrent id = some record) :
    ∃ held, engine.state.findRevision id record.revision = some held := by
  rw [← Option.isSome_iff_exists, CoordinatorState.findRevision, List.find?_isSome]
  exact ⟨record, List.mem_of_getLast? found, beq_self_eq_true _⟩

theorem step_resolves (sound : engine.Sound) {op : Op} {reply : Reply}
    (moved : engine.step op = some (reply, next)) {artifact : ArtifactRecord}
    (resolves : artifact.Resolves engine) : artifact.Resolves next where
  decided := fun active => step_decisions_held sound moved (resolves.decided active)
  succeeded := by
    intro active
    obtain ⟨successor, found⟩ := resolves.succeeded active
    obtain ⟨revised, still, _⟩ := step_findRevision sound moved found
    exact ⟨revised, still⟩

theorem revised_resolves (sound : engine.Sound) {id : ArtifactId} {index : Nat} {op : Op}
    {reply : Reply} (moved : engine.step op = some (reply, next)) {record revised : ArtifactRecord}
    (change : Revised engine id index op reply record revised) (before : record.Resolves engine) :
    revised.Resolves next := by
  have resolves := step_resolves sound moved before
  cases change with
  | kept => exact resolves
  | restored | quarantined | released | retired => exact ⟨resolves.decided, resolves.succeeded⟩
  | @overtaken registration now added _ state revision named current fresh =>
      have found := registered_found moved
      rw [← fresh] at found
      unfold supersedeByRegistration
      dsimp only
      split <;> exact ⟨resolves.decided, fun _ => found⟩
  | applied named first accepts =>
      unfold promotedArtifact
      dsimp only
      split <;> exact ⟨resolves.decided, resolves.succeeded⟩
  | revoked target current unrevoked held =>
      exact ⟨fun _ => step_decisions_held sound moved held, resolves.succeeded⟩
  | superseded successorRecord current unsuperseded open_ found =>
      obtain ⟨successor, held⟩ := current_revision_found found
      obtain ⟨later, still, _⟩ := step_findRevision sound moved held
      exact ⟨resolves.decided, fun _ => ⟨later, still⟩⟩

def AllResolve (engine : Engine) : Prop :=
  ∀ id, ∀ artifact ∈ engine.state.chain id, artifact.Resolves engine

theorem step_all_resolve (sound : engine.Sound) {op : Op} {reply : Reply}
    (moved : engine.step op = some (reply, next)) (all : engine.AllResolve) :
    next.AllResolve := by
  intro id artifact inside
  obtain ⟨index, held⟩ := List.mem_iff_getElem?.mp inside
  cases before : (engine.control.chain id)[index]? with
  | some record =>
      exact revised_resolves sound moved (step_revised sound moved before held)
        (all id record (List.mem_of_getElem? before))
  | none =>
      obtain ⟨_, _, _, _, _, _, _, _, rfl⟩ := (step_chains sound moved).2 id index artifact before held
      exact ⟨nofun, nofun⟩

theorem reachable_resolve (reachable : Reachable engine) : engine.AllResolve := by
  obtain ⟨start, trace, ⟨config, epoch, salting, naming, rfl⟩, run⟩ := reachable
  have kept := run.invariant (fun engine => engine.Sound ∧ engine.AllResolve)
    (fun _ _ _ _ held moved => ⟨sound_step held.1 moved, step_all_resolve held.1 moved held.2⟩)
    ⟨create_sound config epoch salting naming, by
      intro id artifact inside
      rw [create_chain] at inside
      simp at inside⟩
  exact kept.2

end Engine

/-- Every trust record of the revision refers to something the coordinator holds, and the terminal
stages have theirs. -/
structure ArtifactRecord.Backed (engine : Engine) (artifact : ArtifactRecord) : Prop where
  decided : artifact.revocation.active = true →
    engine.state.decisions.contains artifact.revocation.decision = true
  succeeded : artifact.supersession.active = true → ∃ successor,
    engine.state.findRevision artifact.supersession.successor
      artifact.supersession.successorRevision = some successor
  revoked : artifact.stage = .revoked → artifact.revocation.active = true
  superseded : artifact.stage = .superseded → artifact.supersession.active = true

theorem ArtifactRecord.Backed.recorded {engine : Engine} {artifact : ArtifactRecord}
    (backed : artifact.Backed engine) : artifact.Recorded engine where
  revoked := fun stage => ⟨backed.revoked stage, backed.decided (backed.revoked stage)⟩
  superseded := fun stage =>
    ⟨backed.superseded stage, backed.succeeded (backed.superseded stage)⟩

namespace Engine

variable {engine next : Engine}

theorem revised_backed (sound : engine.Sound) {id : ArtifactId} {index : Nat} {op : Op}
    {reply : Reply} (moved : engine.step op = some (reply, next)) {record revised : ArtifactRecord}
    (change : Revised engine id index op reply record revised) (before : record.Backed engine)
    (recorded : ¬engine.EntersUnrecorded op) : revised.Backed next := by
  obtain ⟨decided, succeeded⟩ := revised_resolves sound moved change
    ⟨before.decided, before.succeeded⟩
  refine ⟨decided, succeeded, ?_, ?_⟩
  · cases change with
    | kept | restored => exact before.revoked
    | overtaken state revision named current fresh =>
        unfold supersedeByRegistration
        dsimp only
        split
        · simp
        · exact before.revoked
    | @applied plan now _ _ named first accepts =>
        have revoked (target : plan.target = .revoked) : record.revocation.active = true := by
          by_contra inactive
          exact recorded (.inl ⟨plan, now, record, rfl, accepts,
            .inl ⟨target, by simpa using inactive⟩⟩)
        unfold promotedArtifact
        dsimp only
        split <;> exact revoked
    | quarantined => simp [quarantinedArtifact]
    | released => simp [releasedArtifact]
    | revoked => exact fun _ => rfl
    | superseded => simp [supersededArtifact]
    | retired => simp [retiredArtifact]
  · cases change with
    | kept | restored => exact before.superseded
    | overtaken state revision named current fresh =>
        unfold supersedeByRegistration
        dsimp only
        split <;> exact fun _ => rfl
    | @applied plan now _ _ named first accepts =>
        have superseded (target : plan.target = .superseded) :
            record.supersession.active = true := by
          by_contra inactive
          exact recorded (.inl ⟨plan, now, record, rfl, accepts,
            .inr ⟨target, by simpa using inactive⟩⟩)
        unfold promotedArtifact
        dsimp only
        split <;> exact superseded
    | quarantined => simp [quarantinedArtifact]
    | released => simp [releasedArtifact]
    | revoked => simp [revokedArtifact]
    | superseded => exact fun _ => rfl
    | retired => simp [retiredArtifact]

def AllBacked (engine : Engine) : Prop :=
  ∀ id, ∀ artifact ∈ engine.state.chain id, artifact.Backed engine

theorem step_all_backed (sound : engine.Sound) {op : Op} {reply : Reply}
    (moved : engine.step op = some (reply, next)) (backed : engine.AllBacked)
    (recorded : ¬engine.EntersUnrecorded op) : next.AllBacked := by
  intro id artifact inside
  obtain ⟨index, held⟩ := List.mem_iff_getElem?.mp inside
  cases before : (engine.control.chain id)[index]? with
  | some record =>
      exact revised_backed sound moved (step_revised sound moved before held)
        (backed id record (List.mem_of_getElem? before)) recorded
  | none =>
      obtain ⟨registration, now, stamped, rfl, _, _, policy, _, made⟩ :=
        (step_chains sound moved).2 id index artifact before held
      have enrolls := grown_enrolls moved before held
      have entered : artifact.stage = engine.state.policy.entryStage := by
        rw [made, ← policy]
        rfl
      have bare : artifact.revocation.active = false ∧ artifact.supersession.active = false := by
        rw [made]
        exact ⟨rfl, rfl⟩
      have enters (terminal : engine.state.policy.entryStage = .revoked ∨
          engine.state.policy.entryStage = .superseded) : False :=
        recorded (.inr ⟨registration, now, rfl, enrolls, terminal⟩)
      rw [← entered] at enters
      refine ⟨?_, ?_, fun stage => (enters (.inl stage)).elim, fun stage => (enters (.inr stage)).elim⟩
      · simp [bare]
      · simp [bare]

/-- In every run none of whose steps enters a terminal stage without its record, every revision of
every state reached that is revoked or superseded carries a record that resolves. -/
theorem run_terminal_recorded {start final : Engine} {trace : List EngineStep}
    (constructed : Constructed start) (run : EngineRun start trace final)
    (condition : ∀ step ∈ trace, ¬step.before.EntersUnrecorded step.input) :
    final.TerminalRecorded := by
  have initially : start.Sound ∧ start.AllBacked := by
    refine ⟨constructed.sound, ?_⟩
    obtain ⟨config, epoch, salting, naming, rfl⟩ := constructed
    intro id artifact inside
    rw [create_chain] at inside
    simp at inside
  have kept := run.guarded (fun engine => engine.Sound ∧ engine.AllBacked)
    (fun step => ¬step.before.EntersUnrecorded step.input)
    (fun _ held recorded moved => ⟨sound_step held.1 moved,
      step_all_backed held.1 moved held.2 recorded⟩) initially condition
  exact fun id artifact inside => (kept.2 id artifact inside).recorded

def recordedChoices : List (Engine → Op) :=
  [fun _ => .publishPolicy retiringPolicy,
    fun _ => .registerArtifact (sampleRegistration 1) 0,
    fun _ => .registerArtifact (sampleRegistration 2) 0]

def supersedesQuietly (played : List EngineStep × Engine) : Bool :=
  played.1.all entersCandidates &&
    (played.2.state.chain ⟨0, 5⟩).any fun artifact => artifact.stage == .superseded

theorem run_terminal_recorded_superseded :
    ∃ (trace : List EngineStep) (final : Engine), EngineRun sampleEngine trace final ∧
      (∀ step ∈ trace, ¬step.before.EntersUnrecorded step.input) ∧
      (∃ artifact ∈ final.state.chain ⟨0, 5⟩, artifact.stage = .superseded) ∧
      final.TerminalRecorded := by
  have evaluated : (play step sampleEngine recordedChoices).any supersedesQuietly = true := by
    decide +kernel
  obtain ⟨trace, final, run, checked⟩ := run_of_checked evaluated
  simp only [supersedesQuietly, Bool.and_eq_true, List.all_eq_true, List.any_eq_true,
    beq_iff_eq] at checked
  obtain ⟨quiet, superseded⟩ := checked
  have condition : ∀ step ∈ trace, ¬step.before.EntersUnrecorded step.input := by
    intro step executed enters
    have alone := quiet step executed
    rcases enters with ⟨plan, now, _, input, _⟩ | ⟨registration, now, input, _, entry⟩
    · simp [entersCandidates, input] at alone
    · rcases entry with entry | entry <;> simp [entersCandidates, input, entry] at alone
  exact ⟨trace, final, run, condition, superseded,
    run_terminal_recorded sampleEngine_constructed run condition⟩

def revokingPolicy : PromotionPolicy :=
  { id := ⟨7, 4⟩, generation := ⟨1⟩, name := text "revoking",
    graph := { edges := [⟨.candidate, .revoked⟩, ⟨.candidate, .retired⟩, ⟨.revoked, .retired⟩] }
    rules := [{ source := .candidate, target := .revoked }] }

def revokeByRequestChoices : List (Engine → Op) :=
  [fun _ => .publishPolicy revokingPolicy, fun _ => .registerArtifact (sampleRegistration 1) 0,
    fun engine => .evaluate (engine.sampleRequest .revoked 1) 0,
    fun engine => .commit (engine.planFor 1) 0]

def revokedUnrecorded (engine : Engine) : Bool :=
  (engine.state.findCurrent ⟨0, 5⟩).any fun artifact =>
    artifact.stage == .revoked && !artifact.revocation.active

/-- A commit takes a revision to `Revoked` without a revocation record. -/
theorem promoted_revocation_unrecorded :
    ∃ engine, Reachable engine ∧ ¬engine.TerminalRecorded := by
  have evaluated : ((play step sampleEngine revokeByRequestChoices).any fun played =>
      revokedUnrecorded played.2) = true := by
    decide +kernel
  obtain ⟨engine, reachable, checked⟩ :=
    Reachable.of_play revokedUnrecorded sampleEngine_constructed evaluated
  simp only [revokedUnrecorded, Option.any_eq_true, Bool.and_eq_true, beq_iff_eq,
    Bool.not_eq_true'] at checked
  obtain ⟨artifact, found, revoked, inactive⟩ := checked
  refine ⟨engine, reachable, fun recorded => ?_⟩
  have active := ((recorded _ artifact (List.mem_of_getLast? found)).revoked revoked).1
  simp [inactive] at active

end Engine

end ArtifactPromotion
