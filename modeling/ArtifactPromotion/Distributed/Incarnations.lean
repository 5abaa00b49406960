import ArtifactPromotion.Distributed.DiskContents
import ArtifactPromotion.Engine.Reloads

/-! The epochs under which successive processes on one state path serve. -/

namespace ArtifactPromotion

open Runs

namespace Engine

variable {engine next : Engine}

theorem step_epoch {op : Op} {reply : Reply} (moved : engine.step op = some (reply, next))
    (online : op.online = true) :
    engine.state.epoch.value.toNat ≤ next.state.epoch.value.toNat := by
  have kept (same : next.control.authority = engine.control.authority) :
      engine.state.epoch.value.toNat ≤ next.state.epoch.value.toNat := by
    have epoch : next.state.epoch = engine.state.epoch := congrArg CoordinatorAuthority.epoch same
    rw [epoch]
  cases step_effect moved with
  | restarted advances changed =>
      have authority := congrArg Control.authority changed
      have epoch : next.state.epoch = _ := congrArg CoordinatorAuthority.epoch authority
      rw [epoch]
      exact Nat.le_of_lt (UInt64.lt_iff_toNat_lt.mp advances)
  | closed released _ _ _ _ changed =>
      refine kept ?_
      rw [changed]
      cases released <;> rfl
  | reloaded _ _ => simp [Op.online] at online
  | idle _ changed | published _ _ changed | recovered changed
  | compatibilityMoved _ changed | registrationRefused _ _ changed
  | registered _ _ _ _ _ _ _ changed | submitted _ _ _ _ changed | undecided _ _ _ changed
  | decided _ _ _ _ _ _ changed | issued _ _ _ _ _ _ changed | committed _ _ _ _ _ changed
  | quarantined _ _ _ _ changed | releaseRefused _ _ changed | released _ _ _ _ _ _ _ _ changed
  | revoked _ _ _ _ _ _ changed | superseded _ _ _ _ _ _ changed | retired _ _ _ changed
  | evidenceRevoked _ _ changed =>
      have same := congrArg Control.authority changed
      exact kept same

theorem booted_epoch {source : Engine} {config : EngineConfig} {salting naming : UInt64}
    {state : CoordinatorState} (sound : source.Sound)
    (decoded : StatePersistence.decode (StatePersistence.encode source.snapshot) = .ok state) :
    (booted config salting naming state).state.epoch = source.state.epoch.next := by
  have image := decoded_image sound decoded
  rw [StatePersistence.restoredState_eq] at image
  subst image
  rfl

end Engine

namespace CoordinatorServer

variable {config : EngineConfig} {server next : CoordinatorServer}

def ForgetsEpoch (server : CoordinatorServer) (move : ServerMove) : Prop :=
  ∃ process, server.process = some process ∧ move = .crash ∧
    ∀ snapshot, server.disk = some snapshot → snapshot.epoch ≠ process.engine.state.epoch

def ExhaustsEpoch (server : CoordinatorServer) (move : ServerMove) : Prop :=
  ∃ salting naming snapshot, move = .start salting naming ∧ server.disk = some snapshot ∧
    snapshot.epoch.value.toNat + 1 = UInt64.size

/-- The process, or else the file, has reached the bound. -/
structure Beyond (bound : Nat) (server : CoordinatorServer) : Prop where
  serving : ∀ process, server.process = some process →
    bound ≤ process.engine.state.epoch.value.toNat
  resting : server.process = none →
    ∃ snapshot, server.disk = some snapshot ∧ bound ≤ snapshot.epoch.value.toNat

theorem beyond_run {process : CoordinatorProcess} {bound : Nat}
    (reached : bound ≤ process.engine.state.epoch.value.toNat) : Beyond bound (server.run process) :=
  ⟨fun _ up => Option.some.inj up ▸ reached, by simp [run]⟩

theorem booted_beyond {bound : Nat} {salting naming : UInt64} {snapshot state : CoordinatorState}
    (taken : Taken snapshot) (reached : bound ≤ snapshot.epoch.value.toNat)
    (room : snapshot.epoch.value.toNat + 1 ≠ UInt64.size)
    (decoded : StatePersistence.decode (StatePersistence.encode snapshot) = .ok state) :
    bound + 1 ≤ (Engine.booted config salting naming state).state.epoch.value.toNat := by
  obtain ⟨source, sound, rfl⟩ := taken
  have small := source.state.epoch.value.toNat_lt
  have moved := source.state.epoch.next_value
  have room : source.state.epoch.value.toNat + 1 ≠ 18446744073709551616 := room
  have reached : bound ≤ source.state.epoch.value.toNat := reached
  rw [Engine.booted_epoch sound decoded, moved]
  omega

theorem Beyond.weaken {bound : Nat} (beyond : Beyond (bound + 1) server) : Beyond bound server := by
  refine ⟨fun process up => Nat.le_of_succ_le (beyond.serving process up), ?_⟩
  intro down
  obtain ⟨snapshot, top, reached⟩ := beyond.resting down
  exact ⟨snapshot, top, Nat.le_of_succ_le reached⟩

theorem beyond_start {bound : Nat} (beyond : Beyond bound server) (sane : Sane server)
    {move : ServerMove} (moved : server.step config move = some (.started (.ok ()), next))
    (room : ¬server.ExhaustsEpoch move) : Beyond (bound + 1) next := by
  cases step_effect moved with
  | founded down empty =>
      obtain ⟨snapshot, top, _⟩ := beyond.resting down
      simp [disk, empty] at top
  | @resumed salting naming snapshot older state down held decoded _ =>
      have newest : server.disk = some snapshot := by rw [disk, held, List.head?_cons]
      obtain ⟨file, top, reached⟩ := beyond.resting down
      rw [newest, Option.some.injEq] at top
      subst top
      have taken := sane.files snapshot (by rw [held]; exact List.mem_cons_self)
      refine beyond_run (booted_beyond taken reached ?_ decoded)
      intro full
      exact room ⟨salting, naming, snapshot, rfl, newest, full⟩

theorem beyond_step {bound : Nat} (beyond : Beyond bound server) (sane : Sane server)
    {move : ServerMove} {event : ServerEvent}
    (moved : server.step config move = some (event, next)) (saves : move.saves = true)
    (remembers : ¬server.ForgetsEpoch move) (room : ¬server.ExhaustsEpoch move) :
    Beyond bound next := by
  cases step_effect moved with
  | refused down => exact beyond
  | founded down empty => exact (beyond_start beyond sane moved room).weaken
  | resumed down held decoded consistent => exact (beyond_start beyond sane moved room).weaken
  | @called thread op process reply engine up idle online performed =>
      exact beyond_run (Nat.le_trans (beyond.serving process up)
        (Engine.step_epoch performed online))
  | settled up _ | clean up _ _ | notified up _ | captured up _ _ | wrote up _ | marked up _
  | returned up _ =>
      have reached := beyond.serving _ up
      exact beyond_run reached
  | @stopped saved process up quiet =>
      cases saved with
      | false => simp [ServerMove.saves] at saves
      | true =>
          refine ⟨by simp, fun _ => ⟨process.engine.snapshot, rfl, ?_⟩⟩
          exact beyond.serving process up
  | @crashed process up =>
      refine ⟨by simp, fun _ => ?_⟩
      by_contra behind
      refine remembers ⟨process, up, rfl, ?_⟩
      intro snapshot top same
      refine behind ⟨snapshot, top, ?_⟩
      rw [same]
      exact beyond.serving process up

theorem beyond_during {bound : Nat} {trace : List ServerStep} {start final : CoordinatorServer}
    (run : Run (step config) start trace final) (saves : ∀ step ∈ trace, step.input.saves = true)
    (condition : ∀ step ∈ trace,
      ¬step.before.ForgetsEpoch step.input ∧ ¬step.before.ExhaustsEpoch step.input)
    (beyond : Beyond bound start) (sane : Sane start) : Beyond bound final ∧ Sane final := by
  refine run.guarded (fun server => Beyond bound server ∧ Sane server)
    (fun step => step.input.saves = true ∧ ¬step.before.ForgetsEpoch step.input ∧
      ¬step.before.ExhaustsEpoch step.input) ?_ ⟨beyond, sane⟩
      fun step inside => ⟨saves step inside, condition step inside⟩
  intro step held sound moved
  exact ⟨beyond_step held.1 held.2 moved sound.1 sound.2.1 sound.2.2, sane_step held.2 moved⟩

/-- In every run in which every write succeeds, no process crashes before a file carries its epoch
and the epochs are not used up, a later process always serves under a larger epoch. -/
theorem run_incarnations_apart {trace : List ServerStep} {final : CoordinatorServer}
    (run : ServerRun config trace final) (saves : ∀ step ∈ trace, step.input.saves = true)
    (condition : ∀ step ∈ trace,
      ¬step.before.ForgetsEpoch step.input ∧ ¬step.before.ExhaustsEpoch step.input) :
    ∀ (past between future : List ServerStep) (first second : ServerStep)
      (former latter : CoordinatorProcess),
      trace = past ++ first :: (between ++ second :: future) →
      first.before.process = some former → second.before.process = some latter →
      (∃ boot ∈ between, boot.output = .started (.ok ())) →
      former.engine.state.epoch.value.toNat < latter.engine.state.epoch.value.toNat := by
  rintro past between future first second former latter rfl serves follows ⟨boot, inside, booted⟩
  obtain ⟨before, after, rfl⟩ := List.append_of_mem inside
  obtain ⟨earlier, moved, later⟩ := run.cut
  obtain ⟨reached, _, _⟩ := later.cut
  obtain ⟨resting, started, serving⟩ := reached.cut
  rw [booted] at started
  simp only [List.forall_mem_append, List.forall_mem_cons] at saves condition
  obtain ⟨_, firstSaves, ⟨beforeSave, _, afterSave⟩, _⟩ := saves
  obtain ⟨_, firstKeeps, ⟨beforeKeep, bootKeeps, afterKeep⟩, _⟩ := condition
  have sane := earlier.invariant Sane (fun _ _ _ _ sane moved => sane_step sane moved)
    sane_initially
  have initially : Beyond former.engine.state.epoch.value.toNat first.before := by
    refine ⟨?_, by simp [serves]⟩
    intro process up
    rw [serves, Option.some.injEq] at up
    rw [up]
  obtain ⟨ended, saneThen⟩ := beyond_during (.cons moved resting)
    (List.forall_mem_cons.mpr ⟨firstSaves, beforeSave⟩)
    (List.forall_mem_cons.mpr ⟨firstKeeps, beforeKeep⟩) initially sane
  have succeeded := beyond_start ended saneThen started bootKeeps.2
  have carried := beyond_during serving afterSave afterKeep succeeded (sane_step saneThen started)
  exact carried.1.serving latter follows

def resumedState (snapshot : CoordinatorState) : CoordinatorState :=
  let image := StatePersistence.observeState (StatePersistence.restoredState snapshot)
  { image with epoch := image.epoch.next, pending := ∅ }

/-- Whether the file is read back and passes the consistency check. -/
def bootable (snapshot : CoordinatorState) : Bool :=
  StatePersistence.accepts snapshot &&
    (resumedState snapshot).verifyConsistency == some (.ok ())

theorem start_decoded {snapshot state : CoordinatorState} {older : List CoordinatorState}
    {salting naming : UInt64} (down : server.process = none)
    (held : server.files = snapshot :: older)
    (decoded : StatePersistence.decode (StatePersistence.encode snapshot) = .ok state)
    (consistent : (Engine.booted config salting naming state).state.verifyConsistency =
      some (.ok ())) :
    server.step config (.start salting naming) =
      some (.started (.ok ()), server.run { engine := Engine.booted config salting naming state }) := by
  have installed : (Engine.create config ⟨1⟩ salting naming).installState
      { state with epoch := state.epoch.next } =
        some (.ok (), Engine.booted config salting naming state) := by
    unfold Engine.installState
    dsimp only
    exact congrArg (Option.map _) consistent
  have recovered : (Engine.booted config salting naming state).recoverInFlight.2 =
      Engine.booted config salting naming state := recoverInFlight_idle rfl
  simp only [step, down, start, disk, held, List.head?_cons, decoded]
  rw [installed, Option.map_some]
  simp only [recovered]

theorem start_bootable {snapshot : CoordinatorState} {older : List CoordinatorState}
    (down : server.process = none) (held : server.files = snapshot :: older)
    (taken : Taken snapshot) (checked : bootable snapshot = true) (salting naming : UInt64) :
    ∃ engine : Engine, engine.Sound ∧ engine.state = resumedState snapshot ∧
      server.step config (.start salting naming) =
        some (.started (.ok ()), server.run { engine }) := by
  simp only [bootable, Bool.and_eq_true, beq_iff_eq] at checked
  obtain ⟨accepted, consistent⟩ := checked
  obtain ⟨source, sound, rfl⟩ := taken
  have decoded := StatePersistence.decode_encode_of_accepts (Engine.snapshot_keyed sound) accepted
  exact ⟨_, Engine.booted_sound sound decoded consistent, rfl,
    start_decoded down held decoded consistent⟩

theorem step_rejects {engine : Engine} (sound : engine.Sound) :
    ∃ reply, engine.step (.registerArtifact {} 0) = some (reply, engine) := by
  have roomy : engine.representable = true := by
    simp only [Engine.representable, Bool.and_eq_true, decide_eq_true_eq]
    exact sound.roomy
  have kept : (engine.registerArtifact {} 0).2 = engine := rfl
  refine ⟨.registered (engine.registerArtifact {} 0).1, ?_⟩
  simp only [Engine.step, Engine.perform, Engine.answerWith, kept, Option.filter_some, roomy,
    if_true]

theorem serves_once {snapshot : CoordinatorState} {older : List CoordinatorState}
    (down : server.process = none) (held : server.files = snapshot :: older)
    (taken : Taken snapshot) (checked : bootable snapshot = true) (salting naming : UInt64) :
    ∃ (boot call : ServerStep) (process : CoordinatorProcess),
      Run (step config) server [boot, call] call.after ∧ boot.before = server ∧
        boot.input = .start salting naming ∧ boot.output = .started (.ok ()) ∧
        call.input = .call 1 (.registerArtifact {} 0) ∧ call.before.process = some process ∧
        process.engine.state = resumedState snapshot ∧ call.after.files = server.files ∧
        call.after.process.isSome = true := by
  obtain ⟨engine, sound, state, started⟩ :=
    start_bootable down held taken checked salting naming
  obtain ⟨reply, rejected⟩ := step_rejects sound
  let idle : CoordinatorProcess := { engine }
  let phase := CoordinatorProcess.afterSection engine engine (.registerArtifact {} 0) reply
  have called : (server.run idle).step config (.call 1 (.registerArtifact {} 0)) =
      some (.working, server.run { idle.park 1 phase with engine }) := by
    have free : idle.threads.contains 1 = false := Std.ExtTreeMap.contains_empty
    simp only [step, run, free, Op.online, Bool.not_true, Bool.or_self, Bool.false_eq_true,
      if_false]
    exact congrArg (Option.map _) rejected
  exact ⟨⟨server, _, _, _⟩, ⟨server.run idle, _, _, _⟩, idle,
    .cons started (.cons called (.nil _)), rfl, rfl, rfl, rfl, rfl, state, rfl, rfl⟩

def firstLife : List (CoordinatorServer → ServerMove) :=
  (fun _ => .start 1 2) :: serves (fun _ => .publishPolicy Engine.directPolicy)
    (List.replicate 5 true) ++ [fun _ => .crash]

def endsRemembered (played : List ServerStep × CoordinatorServer) : Bool :=
  (played.1.all fun step => step.input.saves && match step.input with
    | .start _ _ => step.before.files.isEmpty
    | .crash => step.before.process.any fun process => step.before.disk.any fun snapshot =>
        snapshot.epoch == process.engine.state.epoch
    | _ => true) &&
  played.1.getLast?.any (fun step => step.before.process.isSome) && played.2.process.isNone &&
    match played.2.files with
    | [] => false
    | snapshot :: _ => bootable snapshot && snapshot.epoch.value == 1

theorem first_life :
    ∃ (past : List ServerStep) (last : ServerStep) (process : CoordinatorProcess)
      (server : CoordinatorServer) (snapshot : CoordinatorState) (older : List CoordinatorState),
      ServerRun {} (past ++ [last]) server ∧ last.before.process = some process ∧
        (∀ step ∈ past ++ [last], step.input.saves = true ∧
          ¬step.before.ForgetsEpoch step.input ∧ ¬step.before.ExhaustsEpoch step.input) ∧
        server.process = none ∧ server.files = snapshot :: older ∧ Taken snapshot ∧
        bootable snapshot = true ∧ snapshot.epoch.value = 1 := by
  have evaluated : (play (step {}) {} firstLife).any endsRemembered = true := by
    decide +kernel
  obtain ⟨trace, server, run, checked⟩ := run_of_checked evaluated
  simp only [endsRemembered, Bool.and_eq_true, List.all_eq_true, Option.any_eq_true,
    Option.isSome_iff_exists, Option.isNone_iff_eq_none] at checked
  obtain ⟨⟨⟨quiet, last, final, process, up⟩, down⟩, files⟩ := checked
  obtain ⟨past, rfl⟩ : ∃ past, trace = past ++ [last] :=
    ⟨_, (List.dropLast_append_getLast? _ final).symm⟩
  have sane := run.invariant Sane (fun _ _ _ _ sane moved => sane_step sane moved) sane_initially
  cases held : server.files with
  | nil => simp [held] at files
  | cons snapshot older =>
      simp only [held, Bool.and_eq_true, beq_iff_eq] at files
      refine ⟨past, last, process, server, snapshot, older, run, up, ?_, down, held,
        sane.files snapshot (by rw [held]; exact List.mem_cons_self), files.1, files.2⟩
      intro step inside
      obtain ⟨saves, alone⟩ := quiet step inside
      refine ⟨saves, ?_, ?_⟩
      · rintro ⟨process, serving, crashes, forgets⟩
        simp only [crashes, serving, Option.any_some, Option.any_eq_true, beq_iff_eq] at alone
        obtain ⟨file, top, same⟩ := alone
        exact forgets file top same
      · rintro ⟨salting, naming, file, starts, top, _⟩
        simp only [starts, List.isEmpty_iff] at alone
        simp [disk, alone] at top

theorem run_incarnations_apart_resumed :
    ∃ (trace past between future : List ServerStep) (final : CoordinatorServer)
      (first second : ServerStep) (former latter : CoordinatorProcess), ServerRun {} trace final ∧
        (∀ step ∈ trace, step.input.saves = true) ∧
        (∀ step ∈ trace,
          ¬step.before.ForgetsEpoch step.input ∧ ¬step.before.ExhaustsEpoch step.input) ∧
        trace = past ++ first :: (between ++ second :: future) ∧
        first.before.process = some former ∧ second.before.process = some latter ∧
        (∃ boot ∈ between, boot.output = .started (.ok ())) ∧
        former.engine.state.epoch.value.toNat < latter.engine.state.epoch.value.toNat := by
  obtain ⟨past, last, former, server, snapshot, older, run, serving, quiet, down, held, taken,
    checked, epoch⟩ := first_life
  obtain ⟨boot, call, latter, resumed, at_, starts, started, asks, serves, _, _, _⟩ :=
    serves_once down held taken checked 3 4
  have condition : ∀ step ∈ past ++ [last] ++ [boot, call], step.input.saves = true ∧
      ¬step.before.ForgetsEpoch step.input ∧ ¬step.before.ExhaustsEpoch step.input := by
    intro step inside
    rcases List.mem_append.mp inside with old | new
    · exact quiet step old
    simp only [List.mem_cons, List.not_mem_nil, or_false] at new
    rcases new with rfl | rfl
    · refine ⟨by rw [starts]; rfl, ?_, ?_⟩
      · rintro ⟨process, _, crashes, _⟩
        simp [starts] at crashes
      · rintro ⟨salting, naming, file, _, top, full⟩
        rw [at_, disk, held, List.head?_cons, Option.some.injEq] at top
        rw [← top, epoch] at full
        simp [UInt64.size] at full
    · refine ⟨by rw [asks]; rfl, ?_, ?_⟩
      · rintro ⟨process, _, crashes, _⟩
        simp [asks] at crashes
      · rintro ⟨salting, naming, file, starting, _⟩
        simp [asks] at starting
  have whole := run.append resumed
  have split : past ++ [last] ++ [boot, call] = past ++ last :: ([boot] ++ call :: []) := by simp
  have increases := run_incarnations_apart whole (fun step inside => (condition step inside).1)
    (fun step inside => (condition step inside).2) past [boot] [] last call former latter split
    serving serves ⟨boot, List.mem_singleton_self _, started⟩
  exact ⟨_, past, [boot], [], _, last, call, former, latter, whole,
    fun step inside => (condition step inside).1, fun step inside => (condition step inside).2,
    split, serving, serves, ⟨boot, List.mem_singleton_self _, started⟩, increases⟩

/-- A process that changed nothing before it crashed is succeeded by one with its own authority. -/
theorem incarnations_share_epoch :
    ∃ (trace past between future : List ServerStep) (final : CoordinatorServer)
      (first second : ServerStep) (former latter : CoordinatorProcess), ServerRun {} trace final ∧
        (∀ step ∈ trace, step.input.saves = true) ∧
        trace = past ++ first :: (between ++ second :: future) ∧
        first.before.process = some former ∧ second.before.process = some latter ∧
        (∃ boot ∈ between, boot.output = .started (.ok ())) ∧
        (∃ thread op, first.input = .call thread op) ∧
        (∃ thread op, second.input = .call thread op) ∧
        former.engine.state.authority = latter.engine.state.authority := by
  obtain ⟨past, last, _, server, snapshot, older, run, _, quiet, down, held, taken, checked, _⟩ :=
    first_life
  obtain ⟨boot, call, former, resumed, _, starts, _, asks, serves, state, kept, up⟩ :=
    serves_once down held taken checked 3 4
  obtain ⟨process, running⟩ := Option.isSome_iff_exists.mp up
  let fallen : CoordinatorServer := { call.after with process := none }
  have crashes : call.after.step {} .crash = some (.ended, fallen) := by
    simp only [step, running]
    rfl
  have ended : fallen.process = none := rfl
  obtain ⟨again, second, latter, reborn, _, restarts, restarted, repeats, follows, same, _, _⟩ :=
    serves_once ended (kept.trans held) taken checked 5 6
  let fall : ServerStep := ⟨call.after, .crash, .ended, fallen⟩
  have whole := (run.append resumed).append (.cons crashes reborn)
  refine ⟨_, past ++ [last] ++ [boot], [fall, again], [], _, call, second, former, latter, whole,
    ?_, by simp [fall], serves, follows, ⟨again, by simp, restarted⟩, ⟨_, _, asks⟩,
    ⟨_, _, repeats⟩, ?_⟩
  · intro step inside
    simp only [List.mem_append, List.mem_cons, List.not_mem_nil, or_false] at inside
    rcases inside with ((old | rfl) | rfl | rfl) | rfl | rfl | rfl
    · exact (quiet step (List.mem_append_left _ old)).1
    · exact (quiet step (by simp)).1
    · rw [starts]
      rfl
    · rw [asks]
      rfl
    · rfl
    · rw [restarts]
      rfl
    · rw [repeats]
      rfl
  · rw [CoordinatorState.authority, state, CoordinatorState.authority, same]

end CoordinatorServer

end ArtifactPromotion
