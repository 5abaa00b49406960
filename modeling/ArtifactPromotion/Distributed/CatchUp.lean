import ArtifactPromotion.Distributed.WriteBehind
import ArtifactPromotion.Engine.Refusals
import ArtifactPromotion.Engine.Restarts

/-! When the state file has caught up with the engine: which operations change what the file is to
hold without a word to the listener, and what the file holds once no call is under way. -/

namespace ArtifactPromotion

open Runs

/-- What the file is to hold is as before, or a change was counted. -/
def Tallied (before after : Engine) : Prop :=
  after.snapshot = before.snapshot ∨ after.persistEpoch = before.persistEpoch + 1

namespace Engine

variable {engine next : Engine}

structure Presents (engine : Engine) (plan : PromotionPlan) : Prop where
  admitted : engine.admissionOpen = true
  wellFormed : plan.valid = true
  stored : engine.state.plans[plan.id]? = some plan

/-- The operation changes what the file is to hold and returns without calling the listener. -/
inductive Bypasses (engine : Engine) : Op → Prop
  /-- A refused commit rewrites the decision of its plan. -/
  | refused {plan now} (presents : engine.Presents plan)
      (refused : ∀ artifact, ¬engine.Accepts plan now artifact) : Bypasses engine (.commit plan now)
  /-- The registration is refused after its revision identity was allocated. -/
  | allocated {registration now} (validated : registration.validate = .ok ())
      (admitted : engine.admissionOpen = true)
      (unclaimed : classConflict engine.state registration = none)
      (late : engine.config.maxArtifactRevisionsPerId.toNat ≤
          (engine.state.chain registration.id).length ∨
        ∃ last, (engine.state.chain registration.id).getLast? = some last ∧
          last.digest = registration.digest) :
      Bypasses engine (.registerArtifact registration now)

theorem commit_unpresented {plan : PromotionPlan} (absent : ¬engine.Presents plan) (now : UInt64) :
    (engine.commit plan now).2 = engine := by
  unfold commit
  split
  · rfl
  rename_i admitted
  split
  · rfl
  rename_i wellFormed
  cases found : engine.state.plans[plan.id]? with
  | none => rfl
  | some stored =>
      dsimp only
      split
      · rfl
      rename_i same
      rw [not_not] at same
      subst same
      exact absurd ⟨by simpa using admitted, by simpa using wellFormed, found⟩ absent

theorem commit_accepted {plan : PromotionPlan} {now : UInt64} {artifact : ArtifactRecord}
    (accepts : engine.Accepts plan now artifact) :
    ∃ result state, engine.commit plan now = (.ok result, engine.dirty state) ∧
      result.outcome = .promotionCommitted := by
  rw [commit_of_accepts accepts]
  exact ⟨_, _, rfl, rfl⟩

theorem commit_announced {plan : PromotionPlan} {now : UInt64}
    (announced : ¬engine.Bypasses (.commit plan now)) :
    (engine.commit plan now).2 = engine ∨
      ∃ result state, engine.commit plan now = (.ok result, engine.dirty state) ∧
        result.outcome = .promotionCommitted := by
  by_cases presents : engine.Presents plan
  · by_cases accepted : ∃ artifact, engine.Accepts plan now artifact
    · obtain ⟨artifact, accepts⟩ := accepted
      exact .inr (commit_accepted accepts)
    · exact absurd (.refused presents (not_exists.mp accepted)) announced
  · exact .inl (commit_unpresented presents now)

theorem recoverInFlight_tallied : Tallied engine engine.recoverInFlight.2 := by
  by_cases idle : engine.state.pending = ∅
  · left
    rw [CoordinatorServer.recoverInFlight_idle idle]
  · have held : engine.state.pending.size > 0 := by
      rw [gt_iff_lt, Nat.pos_iff_ne_zero]
      intro empty
      apply idle
      rw [← Std.ExtTreeMap.isEmpty_iff, Std.ExtTreeMap.isEmpty_eq_size_beq_zero, empty]
      rfl
    right
    simp only [recoverInFlight, held, if_true]
    rfl

theorem registerArtifact_transacts {registration : ArtifactRegistration} {now : UInt64}
    (announced : ¬engine.Bypasses (.registerArtifact registration now)) :
    Transacts engine (engine.registerArtifact registration now) := by
  unfold registerArtifact
  split
  · exact .unchanged _
  rename_i validated
  split
  · exact .unchanged _
  rename_i admitted
  rw [Bool.not_eq_true', Bool.not_eq_false] at admitted
  refine .guard ?_
  split
  · exact .unchanged _
  rename_i unclaimed
  dsimp only
  split
  · rename_i full
    exact absurd (.allocated validated admitted unclaimed (.inl full)) announced
  split
  · rename_i repeated
    simp only [Option.any_eq_true, beq_iff_eq] at repeated
    exact absurd (.allocated validated admitted unclaimed (.inr repeated)) announced
  · exact .counted _ _

theorem perform_tallied {op : Op} {reply : Reply} (announced : ¬engine.Bypasses op)
    (moved : engine.perform op = some (reply, next)) : Tallied engine next := by
  by_cases transacts : op.transacts = true
  · rcases perform_transacts transacts moved with rfl | ⟨_, state, rfl⟩
    · exact .inl rfl
    · exact .inr rfl
  cases op with
  | registerArtifact registration now =>
      have transacts := @registerArtifact_transacts engine registration now announced
      cases moved
      generalize engine.registerArtifact registration now = outcome at transacts ⊢
      cases transacts with
      | unchanged answer => exact .inl rfl
      | counted record state => exact .inr rfl
  | commit plan now =>
      cases moved
      rcases commit_announced announced with same | ⟨result, state, granted, _⟩
      · rw [same]
        exact .inl rfl
      · rw [granted]
        exact .inr rfl
  | recoverInFlight =>
      cases moved
      exact recoverInFlight_tallied
  | closeAdmission | openAdmission =>
      cases moved
      exact .inl rfl
  | _ => exact absurd rfl transacts

theorem announced_after {op : Op} {reply : Reply} (announced : ¬engine.Bypasses op)
    (moved : engine.perform op = some (reply, next)) (online : op.online = true)
    (counted : next.persistEpoch ≠ engine.persistEpoch) (answer : Reply) :
    CoordinatorProcess.afterSection engine next op reply ≠ .returning answer := by
  by_cases notifies : op.notifies = true
  · rw [CoordinatorServer.afterSection_counted notifies counted]
    simp
  cases op with
  | commit plan now =>
      cases moved
      rcases commit_announced announced with same | ⟨result, state, granted, outcome⟩
      · rw [same] at counted
        exact absurd rfl counted
      · rw [granted]
        simp [CoordinatorProcess.afterSection, outcome]
  | reload advance => cases online
  | _ => exact absurd rfl notifies

end Engine

/-- The limits of the file format, as conditions on the state. -/
structure Legible (state : CoordinatorState) : Prop where
  size : (StatePersistence.encodePayload state).length ≤ kMaxSnapshotBytes
  readable : ∀ part, StatePersistence.SectionReadable state part
  unabridged : Unabridged state

/-- The state file decodes to the engine's current snapshot. -/
def CoordinatorServer.CaughtUp (server : CoordinatorServer) (engine : Engine) : Prop :=
  ∃ file image, server.disk = some file ∧
    StatePersistence.decode (StatePersistence.encode file) = .ok image ∧
    Agrees engine.snapshot image

/-- The move is a call that bypasses the listener of the engine it finds. -/
def CoordinatorServer.Bypasses (server : CoordinatorServer) (move : ServerMove) : Prop :=
  ∃ process thread op, server.process = some process ∧ move = .call thread op ∧
    process.engine.Bypasses op

def Changes (call : ServerStep) : Prop :=
  ∃ thread op before after, call.input = .call thread op ∧ call.before.process = some before ∧
    call.after.process = some after ∧ after.engine.persistEpoch ≠ before.engine.persistEpoch

namespace CoordinatorServer

variable {config : EngineConfig} {server next : CoordinatorServer}

/-- Some thread has not returned before the current snapshot is in the file. -/
def Catching (server : CoordinatorServer) : Prop :=
  ∃ process, server.process = some process ∧
    ((∃ mark thread, Awaiting (· = process.engine.snapshot) mark thread server process) ∨
      server.Secured (· = process.engine.snapshot))

theorem snapshot_step {move : ServerMove} {event : ServerEvent} {process after : CoordinatorProcess}
    (moved : server.step config move = some (event, next)) (up : server.process = some process)
    (running : next.process = some after) (announced : ¬server.Bypasses move) :
    after.engine.snapshot = process.engine.snapshot ∨
      ∃ thread op, move = .call thread op ∧
        after.engine.persistEpoch ≠ process.engine.persistEpoch := by
  have same {other : CoordinatorProcess} (found : server.process = some other) :
      other = process := by
    rw [up, Option.some.injEq] at found
    exact found.symm
  cases step_effect moved with
  | refused down | founded down _ | resumed down _ _ _ => cases up.symm.trans down
  | @called thread op _ reply engine found idle online performed =>
      cases same found
      cases running
      have keeps : ¬process.engine.Bypasses op := fun bypasses =>
        announced ⟨process, thread, op, up, rfl, bypasses⟩
      rcases Engine.perform_tallied keeps (Engine.step_eq_some performed).1 with kept | grown
      · exact .inl kept
      · right
        refine ⟨thread, op, rfl, ?_⟩
        change engine.persistEpoch ≠ process.engine.persistEpoch
        rw [grown]
        simp
  | settled found phase | notified found phase | marked found phase | wrote found phase
  | returned found phase =>
      cases same found
      cases running
      exact .inl rfl
  | clean found phase written =>
      cases same found
      cases running
      exact .inl rfl
  | captured found phase free =>
      cases same found
      cases running
      exact .inl rfl
  | stopped found quiet => cases running
  | crashed found => cases running

theorem called_announced {thread : Nat} {op : Op} {event : ServerEvent}
    {process after : CoordinatorProcess}
    (moved : server.step config (.call thread op) = some (event, next))
    (up : server.process = some process) (running : next.process = some after)
    (announced : ¬server.Bypasses (.call thread op))
    (counted : after.engine.persistEpoch ≠ process.engine.persistEpoch) (reply : Reply) :
    after.threads[thread]? ≠ some (.returning reply) := by
  cases step_effect moved with
  | @called _ _ other answer engine found idle online performed =>
      cases up.symm.trans found
      cases running
      have keeps : ¬process.engine.Bypasses op := fun bypasses =>
        announced ⟨process, thread, op, up, rfl, bypasses⟩
      have later := Engine.announced_after keeps (Engine.step_eq_some performed).1 online counted
      change (process.threads.insert thread (CoordinatorProcess.afterSection process.engine
          engine op answer))[thread]? ≠ some (.returning reply)
      rw [Std.ExtTreeMap.getElem?_insert_self]
      exact fun returning => later reply (Option.some.inj returning)

theorem changes_catching (counting : server.Counting) {thread : Nat} {op : Op} {event : ServerEvent}
    {process after : CoordinatorProcess}
    (moved : server.step config (.call thread op) = some (event, next))
    (up : server.process = some process) (running : next.process = some after)
    (unwrapped : ¬server.Wraps (.call thread op)) (announced : ¬server.Bypasses (.call thread op))
    (counted : after.engine.persistEpoch ≠ process.engine.persistEpoch) : next.Catching :=
  ⟨after, running, .inl ⟨_, thread, called_awaiting counting up moved unwrapped running counted
    (called_announced moved up running announced counted)⟩⟩

theorem catching_step (catching : server.Catching) (exclusive : server.Exclusive)
    (counting : server.Counting) {move : ServerMove} {event : ServerEvent}
    (moved : server.step config move = some (event, next)) (saves : move.saves = true)
    (unwrapped : ¬server.Wraps move) (announced : ¬server.Bypasses move)
    (alive : next.process.isSome = true) : next.Catching := by
  obtain ⟨process, up, caught⟩ := catching
  obtain ⟨after, running⟩ := Option.isSome_iff_exists.mp alive
  rcases snapshot_step moved up running announced with kept | ⟨thread, op, rfl, counted⟩
  · refine ⟨after, running, ?_⟩
    rw [kept]
    rcases caught with ⟨mark, thread, awaits⟩ | secured
    · have later := awaiting_step awaits exclusive moved saves unwrapped rfl running
      exact later.imp_left fun awaits => ⟨mark, thread, awaits⟩
    · refine .inr (secured_step secured moved ?_)
      intro other found
      rw [up, Option.some.injEq] at found
      rw [found]
  · exact changes_catching counting moved up running unwrapped announced counted

theorem catching_quiet (catching : server.Catching) {process : CoordinatorProcess}
    (up : server.process = some process) (quiet : process.threads = ∅) :
    server.disk = some process.engine.snapshot := by
  obtain ⟨other, found, caught⟩ := catching
  cases up.symm.trans found
  rcases caught with ⟨mark, thread, awaits⟩ | secured
  · obtain ⟨phase, present, _⟩ := awaits.due
    exact (Engine.no_entry quiet present).elim
  · obtain ⟨snapshot, top, same⟩ := secured.disk
    rw [top, same]

theorem run_catching {past future : List ServerStep} {call : ServerStep}
    {final : CoordinatorServer} (run : ServerRun config (past ++ call :: future) final)
    (saves : ∀ step ∈ past ++ call :: future, step.input.saves = true)
    (room : ∀ step ∈ past ++ call :: future, ¬step.before.Wraps step.input)
    (changes : Changes call)
    (announced : ∀ step ∈ call :: future, ¬step.before.Bypasses step.input)
    (alive : ∀ step ∈ future, step.after.process.isSome = true) : final.Catching := by
  obtain ⟨before, called, later⟩ := run.cut
  simp only [List.forall_mem_append, List.forall_mem_cons] at saves room announced
  have counting := run_counting before room.1
  have exclusive := exclusive_step (run_exclusive before) called
  have counted := counting_step counting called room.2.1
  have starts : call.after.Catching := by
    obtain ⟨thread, op, process, after, input, up, running, grown⟩ := changes
    have unwrapped := room.2.1
    have hands := announced.1
    rw [input] at called unwrapped hands
    exact changes_catching counting called up running unwrapped hands grown
  -- Each later step keeps up with the snapshot it leaves behind.
  have kept := later.guarded
    (fun server => server.Exclusive ∧ server.Counting ∧ server.Catching)
    (fun step => step.input.saves = true ∧ ¬step.before.Wraps step.input ∧
      ¬step.before.Bypasses step.input ∧ step.after.process.isSome = true)
    ?_ ⟨exclusive, counted, starts⟩ ?_
  · exact kept.2.2
  · rintro step ⟨exclusive, counting, catching⟩ ⟨saves, unwrapped, announced, alive⟩ moved
    exact ⟨exclusive_step exclusive moved, counting_step counting moved unwrapped,
      catching_step catching exclusive counting moved saves unwrapped announced alive⟩
  · intro step inside
    exact ⟨saves.2.2 step inside, room.2.2 step inside, announced.2 step inside, alive step inside⟩

/-- A written snapshot is read back as it was exactly when it keeps the limits of the format. -/
theorem written_agrees_iff {engine : Engine} (sound : engine.Sound) :
    (∃ image, StatePersistence.decode (StatePersistence.encode engine.snapshot) = .ok image ∧
      Agrees engine.snapshot image) ↔ Legible engine.snapshot := by
  have keyed := Engine.snapshot_keyed sound
  constructor
  · rintro ⟨image, decoded, agrees⟩
    obtain ⟨size, readable, rfl⟩ := (StatePersistence.decode_encode_eq_ok keyed).mp decoded
    exact ⟨size, readable, (Engine.restores_iff _).mp (Engine.image_agrees_iff.mp agrees)⟩
  · intro legible
    have restores := (Engine.restores_iff _).mpr legible.unabridged
    exact ⟨_, (StatePersistence.decode_encode_eq_ok keyed).mpr
      ⟨legible.size, legible.readable, rfl⟩, Engine.image_agrees_iff.mpr restores⟩

/-- In every run in which every write succeeds and no counter wraps: once a call of the running
process has counted a change, and as long as no call bypasses the listener from then on, the file
holds the current snapshot whenever no call is under way, and it is read back as it was exactly when
it keeps the limits of the format. -/
theorem run_disk_catches_up {past future : List ServerStep} {call : ServerStep}
    {final : CoordinatorServer} {process : CoordinatorProcess}
    (run : ServerRun config (past ++ call :: future) final)
    (saves : ∀ step ∈ past ++ call :: future, step.input.saves = true)
    (room : ∀ step ∈ past ++ call :: future, ¬step.before.Wraps step.input)
    (changes : Changes call)
    (announced : ∀ step ∈ call :: future, ¬step.before.Bypasses step.input)
    (alive : ∀ step ∈ future, step.after.process.isSome = true)
    (up : final.process = some process) (quiet : process.threads = ∅) :
    final.disk = some process.engine.snapshot ∧
      (final.CaughtUp process.engine ↔ Legible process.engine.snapshot) := by
  have held := catching_quiet (run_catching run saves room changes announced alive) up quiet
  have sane := run.invariant Sane (fun _ _ _ _ sane moved => sane_step sane moved) sane_initially
  refine ⟨held, ?_⟩
  rw [← written_agrees_iff (sane.engine process up)]
  constructor
  · rintro ⟨file, image, top, decoded, agrees⟩
    rw [held, Option.some.injEq] at top
    subst top
    exact ⟨image, decoded, agrees⟩
  · rintro ⟨image, decoded, agrees⟩
    exact ⟨_, image, held, decoded, agrees⟩

def plainCall (step : ServerStep) : Bool :=
  match step.input with
  | .call _ (.commit _ _) | .call _ (.registerArtifact _ _) => false
  | _ => true

theorem plainCall_sound {step : ServerStep} (checked : plainCall step = true) :
    ¬step.before.Bypasses step.input := by
  rintro ⟨process, thread, op, _, input, bypasses⟩
  cases bypasses with
  | refused presents refused => simp [plainCall, input] at checked
  | allocated validated admitted unclaimed late => simp [plainCall, input] at checked

def changesBy (call : ServerStep) : Bool :=
  match call.input with
  | .call _ _ => call.before.process.any fun before => call.after.process.any fun after =>
      after.engine.persistEpoch != before.engine.persistEpoch
  | _ => false

theorem changesBy_sound {call : ServerStep} (checked : changesBy call = true) : Changes call := by
  unfold changesBy at checked
  split at checked
  · rename_i thread op input
    simp only [Option.any_eq_true, bne_iff_ne] at checked
    obtain ⟨before, up, after, running, counted⟩ := checked
    exact ⟨thread, op, before, after, input, up, running, counted⟩
  · cases checked

def settlesPlainly (trace : List ServerStep) (final : CoordinatorServer) : Bool :=
  (trace.all fun step => unhurried step && step.input.saves) &&
    (match trace.drop 13 with
    | call :: future => changesBy call && (call :: future).all plainCall &&
        future.all fun step => step.after.process.isSome
    | [] => false) &&
    final.process.any fun process => process.threads.isEmpty &&
      Engine.storable process.engine.snapshot

theorem run_disk_catches_up_evaluated :
    ∃ (trace : List ServerStep) (final : CoordinatorServer) (process : CoordinatorProcess),
      ServerRun {} trace final ∧ final.process = some process ∧ process.threads = ∅ ∧
        final.disk = some process.engine.snapshot ∧ final.CaughtUp process.engine := by
  have evaluated : (play (step {}) {} preparations).any
      (fun played => settlesPlainly played.1 played.2) = true := by
    decide +kernel
  obtain ⟨trace, final, run, checked⟩ := run_of_checked evaluated
  simp only [settlesPlainly, Bool.and_eq_true, List.all_eq_true, Option.any_eq_true] at checked
  obtain ⟨⟨quiet, shape⟩, process, up, empty, kept⟩ := checked
  have room : ∀ step ∈ trace, ¬step.before.Wraps step.input := by
    intro step inside wraps
    exact unhurried_sound (quiet step inside).1 (.inr (.inr (.inr wraps)))
  have saves : ∀ step ∈ trace, step.input.saves = true := fun step inside => (quiet step inside).2
  have storable := Engine.storable_spec kept
  rw [Std.ExtTreeMap.isEmpty_iff] at empty
  split at shape
  · rename_i call future rest
    simp only [Bool.and_eq_true, List.all_eq_true] at shape
    obtain ⟨⟨changes, plain⟩, alive⟩ := shape
    have whole : trace = trace.take 13 ++ call :: future := by
      rw [← rest, List.take_append_drop]
    rw [whole] at run saves room
    obtain ⟨held, caught⟩ := run_disk_catches_up run saves room (changesBy_sound changes)
      (fun step inside => plainCall_sound (plain step inside)) alive up empty
    exact ⟨_, final, process, run, up, empty, held,
      caught.mpr ⟨storable.size, storable.readable, storable.unabridged⟩⟩
  · cases shape

def restsBehind (trace : List ServerStep) (final : CoordinatorServer) : Bool :=
  (trace.all fun step => step.input.saves) &&
    final.process.any fun process => process.threads.isEmpty && final.disk.any fun file =>
      let decision := (process.engine.planFor 1).decision
      (process.engine.state.decisions[decision]?.map PromotionDecision.outcome) !=
        file.decisions[decision]?.map PromotionDecision.outcome

/-- A commit of an expired plan is refused; its outcome is not written when the call returns. -/
theorem refused_commit_unwritten :
    ¬∀ (trace : List ServerStep) (final : CoordinatorServer) (process : CoordinatorProcess),
      ServerRun {} trace final → (∀ step ∈ trace, step.input.saves = true) →
      final.process = some process → process.threads = ∅ → final.CaughtUp process.engine := by
  intro catches
  have evaluated : (play (step {}) {} (preparations ++
      serves (fun engine => .commit (engine.planFor 1) 60001) [true])).any
        (fun played => restsBehind played.1 played.2) = true := by
    have accepts := prepared_accepts
    have moved : preparedEngine.step (.commit Engine.samplePlan 60001) =
        some (.committed (preparedEngine.commitStored Engine.samplePlan 60001).1,
          (preparedEngine.commitStored Engine.samplePlan 60001).2) := by
      refine Engine.step_of_perform ?_ rfl
      rw [Engine.perform, Engine.commit_presented 60001 accepts.admitted accepts.wellFormed
        accepts.stored accepts.policyCurrent]
      rfl
    rw [serves, play_append prepared_played, List.map_cons, play, prepared_asks,
      prepared_calls rfl moved]
    decide +kernel
  obtain ⟨trace, final, run, checked⟩ := run_of_checked evaluated
  simp only [restsBehind, Bool.and_eq_true, List.all_eq_true, Option.any_eq_true, bne_iff_ne,
    Std.ExtTreeMap.isEmpty_iff] at checked
  obtain ⟨saves, process, up, quiet, file, top, differs⟩ := checked
  obtain ⟨stored, image, held, decoded, agrees⟩ := catches trace final process run saves up quiet
  rw [top, Option.some.injEq] at held
  subst held
  have sane := run.invariant Sane (fun _ _ _ _ sane moved => sane_step sane moved) sane_initially
  have filed : file ∈ final.files := List.mem_of_mem_head? top
  obtain ⟨source, sound, rfl⟩ := sane.files file filed
  obtain ⟨_, _, rfl⟩ :=
    (StatePersistence.decode_encode_eq_ok (Engine.snapshot_keyed sound)).mp decoded
  have decisions : (source.snapshot.decisions.map fun _ => PromotionDecision.restored) =
      process.engine.snapshot.decisions := by
    rw [← agrees.decisions, StatePersistence.restoredState_eq]
    rfl
  apply differs
  change Option.map _ process.engine.snapshot.decisions[_]? = _
  rw [← decisions, Std.ExtTreeMap.getElem?_map, Option.map_map]
  rfl

end CoordinatorServer

end ArtifactPromotion
