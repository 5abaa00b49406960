import ArtifactPromotion.Engine.Bookkeeping

/-! The coordinator server around the engine: client threads that run critical sections, the change
listener that writes the state file, and the life of the process. Each mutex-protected block is one
step, and the scheduler is the input. -/

namespace ArtifactPromotion

open Runs

/-- Where a thread is once the critical section of its call is over. `own` is the listener call of
`commit` itself, made under a shared `persist_mutex_`; the other one is made by `notify_change`. -/
inductive Phase where
  /-- `commit` has applied its plan and is about to read the listener. -/
  | settling (reply : Reply)
  | notifying (reply : Reply)
  /-- The listener was called and waits for the mutex of `persist_now`. -/
  | listening (own : Bool) (target : UInt64) (reply : Reply)
  /-- `persist_now` holds its mutex and a snapshot. -/
  | saving (own : Bool) (target : UInt64) (snapshot : CoordinatorState) (reply : Reply)
  /-- The listener has returned. -/
  | marking (own : Bool) (target : UInt64) (reply : Reply)
  | returning (reply : Reply)

/-- Whether the thread holds the engine's `persist_mutex_` shared. -/
def Phase.shares : Phase → Bool
  | .listening own _ _ | .saving own _ _ _ | .marking own _ _ => own
  | _ => false

structure CoordinatorProcess where
  engine : Engine
  persistMutex : Option Nat := none
  threads : OrderedMap Nat Phase := ∅

/-- The state path and the process that uses it. `files` lists the snapshots whose encodings the
file has held, the newest first. -/
structure CoordinatorServer where
  files : List CoordinatorState := []
  process : Option CoordinatorProcess := none

/-- What the scheduler, the disk and the environment decide. `saved` is whether the write that the
step makes, if it makes one, succeeds. -/
inductive ServerMove where
  | start (salting naming : UInt64)
  | call (thread : Nat) (op : Op)
  | proceed (thread : Nat) (saved : Bool)
  | stop (saved : Bool)
  | crash

inductive ServerEvent where
  | started (result : Result Unit)
  | working
  | answered (reply : Reply)
  | ended

/-- The engine remembers that the mutations counted up to `target` were handed to the listener. -/
def Engine.markClean (engine : Engine) (target : UInt64) : Engine :=
  { engine with
    persistCleanEpoch := if target > engine.persistCleanEpoch then target
      else engine.persistCleanEpoch }

namespace CoordinatorProcess

def park (process : CoordinatorProcess) (thread : Nat) (phase : Phase) : CoordinatorProcess :=
  { process with threads := process.threads.insert thread phase }

def shared (process : CoordinatorProcess) : Bool :=
  process.threads.toList.any fun entry => entry.2.shares

/-- Where a call goes from its critical section. A refused commit returns from inside it, and so
does every other operation that counted no change. -/
def afterSection (before after : Engine) (op : Op) (reply : Reply) : Phase :=
  match op, reply with
  | .commit _ _, .committed (.ok result) =>
      if result.outcome = .promotionCommitted then .settling reply else .returning reply
  | .commit _ _, _ => .returning reply
  | _, _ =>
      if after.persistEpoch = before.persistEpoch then .returning reply else .notifying reply

end CoordinatorProcess

namespace CoordinatorServer

def disk (server : CoordinatorServer) : Option CoordinatorState := server.files.head?

def write (server : CoordinatorServer) (saved : Bool) (snapshot : CoordinatorState) :
    CoordinatorServer :=
  if saved then { server with files := snapshot :: server.files } else server

def run (server : CoordinatorServer) (process : CoordinatorProcess) : CoordinatorServer :=
  { server with process := some process }

/-- `start` on a new server object: what the file holds is installed under the next epoch. -/
def start (config : EngineConfig) (server : CoordinatorServer) (salting naming : UInt64) :
    Option (ServerEvent × CoordinatorServer) :=
  let engine := Engine.create config ⟨1⟩ salting naming
  match server.disk with
  | none => some (.started (.ok ()), server.run { engine })
  | some snapshot =>
      match StatePersistence.decode (StatePersistence.encode snapshot) with
      | .error status => some (.started (.error status), server)
      | .ok state =>
          (engine.installState { state with epoch := state.epoch.next }).map fun installed =>
            match installed.1 with
            | .error status => (.started (.error status), server)
            | .ok () =>
                (.started (.ok ()), server.run { engine := installed.2.recoverInFlight.2 })

def proceed (server : CoordinatorServer) (process : CoordinatorProcess) (thread : Nat)
    (saved : Bool) : Phase → Option (ServerEvent × CoordinatorServer)
  | .settling reply =>
      some (.working, server.run (process.park thread
        (.listening true process.engine.persistEpoch reply)))
  | .notifying reply =>
      if process.shared then none
      else if process.engine.persistCleanEpoch = process.engine.persistEpoch then
        some (.working, server.run (process.park thread (.returning reply)))
      else
        some (.working, server.run (process.park thread
          (.listening false process.engine.persistEpoch reply)))
  | .listening own target reply =>
      match process.persistMutex with
      | some _ => none
      | none =>
          some (.working, server.run { process.park thread
            (.saving own target process.engine.snapshot reply) with persistMutex := some thread })
  | .saving own target snapshot reply =>
      some (.working, (server.write saved snapshot).run
        { process.park thread (.marking own target reply) with persistMutex := none })
  | .marking own target reply =>
      if !own && process.shared then none
      else
        some (.working, server.run { process.park thread
          (if own then .notifying reply else .returning reply) with
          engine := process.engine.markClean target })
  | .returning reply =>
      some (.answered reply, server.run { process with threads := process.threads.erase thread })

/-- One step of the server; `none` where the move is not possible. -/
def step (config : EngineConfig) (server : CoordinatorServer) :
    ServerMove → Option (ServerEvent × CoordinatorServer)
  | .start salting naming =>
      match server.process with
      | some _ => none
      | none => server.start config salting naming
  | .call thread op =>
      match server.process with
      | none => none
      | some process =>
          if process.threads.contains thread || !op.online then none
          else
            (process.engine.step op).map fun next =>
              (.working, server.run { process.park thread
                (CoordinatorProcess.afterSection process.engine next.2 op next.1) with
                engine := next.2 })
  | .proceed thread saved =>
      match server.process with
      | none => none
      | some process => process.threads[thread]?.bind (server.proceed process thread saved)
  | .stop saved =>
      match server.process with
      | none => none
      | some process =>
          if process.threads.isEmpty then
            some (.ended, { server.write saved process.engine.snapshot with process := none })
          else none
  | .crash =>
      match server.process with
      | none => none
      | some _ => some (.ended, { server with process := none })

end CoordinatorServer

abbrev ServerStep := Step CoordinatorServer ServerMove ServerEvent

abbrev ServerRun (config : EngineConfig) (trace : List ServerStep) (final : CoordinatorServer) :
    Prop :=
  Run (CoordinatorServer.step config) {} trace final

def Engine.booted (config : EngineConfig) (salting naming : UInt64) (state : CoordinatorState) :
    Engine :=
  (Engine.create config ⟨1⟩ salting naming).dirty
    { state with epoch := state.epoch.next, pending := ∅ }

open CoordinatorServer in
inductive ServerEffect (config : EngineConfig) (server : CoordinatorServer) :
    ServerMove → ServerEvent → CoordinatorServer → Prop
  | refused {salting naming status} (down : server.process = none) :
      ServerEffect config server (.start salting naming) (.started (.error status)) server
  | founded {salting naming} (down : server.process = none) (empty : server.files = []) :
      ServerEffect config server (.start salting naming) (.started (.ok ()))
        (server.run { engine := Engine.create config ⟨1⟩ salting naming })
  | resumed {salting naming snapshot older state} (down : server.process = none)
      (disk : server.files = snapshot :: older)
      (decoded : StatePersistence.decode (StatePersistence.encode snapshot) = .ok state)
      (consistent : (Engine.booted config salting naming state).state.verifyConsistency =
        some (.ok ())) :
      ServerEffect config server (.start salting naming) (.started (.ok ()))
        (server.run { engine := Engine.booted config salting naming state })
  | called {thread op process reply next} (up : server.process = some process)
      (idle : process.threads[thread]? = none) (online : op.online = true)
      (moved : process.engine.step op = some (reply, next)) :
      ServerEffect config server (.call thread op) .working
        (server.run { process.park thread
          (CoordinatorProcess.afterSection process.engine next op reply) with engine := next })
  | settled {thread saved process reply} (up : server.process = some process)
      (phase : process.threads[thread]? = some (.settling reply)) :
      ServerEffect config server (.proceed thread saved) .working
        (server.run (process.park thread (.listening true process.engine.persistEpoch reply)))
  | clean {thread saved process reply} (up : server.process = some process)
      (phase : process.threads[thread]? = some (.notifying reply))
      (written : process.engine.persistCleanEpoch = process.engine.persistEpoch) :
      ServerEffect config server (.proceed thread saved) .working
        (server.run (process.park thread (.returning reply)))
  | notified {thread saved process reply} (up : server.process = some process)
      (phase : process.threads[thread]? = some (.notifying reply)) :
      ServerEffect config server (.proceed thread saved) .working
        (server.run (process.park thread (.listening false process.engine.persistEpoch reply)))
  | captured {thread saved process own target reply} (up : server.process = some process)
      (phase : process.threads[thread]? = some (.listening own target reply))
      (free : process.persistMutex = none) :
      ServerEffect config server (.proceed thread saved) .working
        (server.run { process.park thread (.saving own target process.engine.snapshot reply) with
          persistMutex := some thread })
  | wrote {thread saved process own target snapshot reply} (up : server.process = some process)
      (phase : process.threads[thread]? = some (.saving own target snapshot reply)) :
      ServerEffect config server (.proceed thread saved) .working
        ((server.write saved snapshot).run
          { process.park thread (.marking own target reply) with persistMutex := none })
  | marked {thread saved process own target reply} (up : server.process = some process)
      (phase : process.threads[thread]? = some (.marking own target reply)) :
      ServerEffect config server (.proceed thread saved) .working
        (server.run { process.park thread
          (if own then .notifying reply else .returning reply) with
          engine := process.engine.markClean target })
  | returned {thread saved process reply} (up : server.process = some process)
      (phase : process.threads[thread]? = some (.returning reply)) :
      ServerEffect config server (.proceed thread saved) (.answered reply)
        (server.run { process with threads := process.threads.erase thread })
  | stopped {saved process} (up : server.process = some process)
      (quiet : process.threads = ∅) :
      ServerEffect config server (.stop saved) .ended
        { server.write saved process.engine.snapshot with process := none }
  | crashed {process} (up : server.process = some process) :
      ServerEffect config server .crash .ended { server with process := none }

namespace Engine

variable {source : Engine} {config : EngineConfig} {salting naming : UInt64}
  {state : CoordinatorState}

theorem booted_reloaded (sound : source.Sound)
    (decoded : StatePersistence.decode (StatePersistence.encode source.snapshot) = .ok state) :
    Coherent.Reloaded source.control (booted config salting naming state).control :=
  image_reloaded sound decoded rfl

theorem booted_sound (sound : source.Sound)
    (decoded : StatePersistence.decode (StatePersistence.encode source.snapshot) = .ok state)
    (consistent : (booted config salting naming state).state.verifyConsistency = some (.ok ())) :
    (booted config salting naming state).Sound := by
  have reloaded : Coherent.Reloaded source.control (booted config salting naming state).control :=
    booted_reloaded sound decoded
  refine ⟨sound.coherent.reload reloaded, ?_, verifyConsistency_history consistent,
    create_config_valid config ⟨1⟩ salting naming⟩
  rw [Control.Roomy, reloaded.evidence, reloaded.decisions, Std.ExtTreeMap.size_map,
    Std.ExtTreeMap.size_map]
  exact sound.roomy

end Engine

namespace CoordinatorServer

variable {config : EngineConfig} {server next : CoordinatorServer}

theorem recoverInFlight_idle {engine : Engine} (idle : engine.state.pending = ∅) :
    engine.recoverInFlight.2 = engine := by
  have released : engine.state.pending.size = 0 := by rw [idle, Std.ExtTreeMap.size_empty]
  have none_held : engine.state.pending.keys = [] := by
    rw [← List.length_eq_zero_iff, Std.ExtTreeMap.length_keys, released]
  unfold Engine.recoverInFlight Engine.releaseAll
  simp [released, none_held]

theorem start_effect {salting naming : UInt64} {event : ServerEvent}
    (down : server.process = none) (moved : server.start config salting naming = some (event, next)) :
    ServerEffect config server (.start salting naming) event next := by
  unfold start at moved
  dsimp only at moved
  unfold disk at moved
  cases held : server.files with
  | nil =>
      simp only [held, List.head?_nil, Option.some.injEq, Prod.mk.injEq] at moved
      obtain ⟨rfl, rfl⟩ := moved
      exact .founded down held
  | cons snapshot older =>
      simp only [held, List.head?_cons] at moved
      cases decoded : StatePersistence.decode (StatePersistence.encode snapshot) with
      | error status =>
          simp only [decoded, Option.some.injEq, Prod.mk.injEq] at moved
          obtain ⟨rfl, rfl⟩ := moved
          exact .refused down
      | ok state =>
          simp only [decoded, Engine.installState, Option.map_map] at moved
          obtain ⟨consistency, consistent, answered⟩ := Option.map_eq_some_iff.mp moved
          cases consistency with
          | error status =>
              simp only [Function.comp_apply, Prod.mk.injEq] at answered
              obtain ⟨rfl, rfl⟩ := answered
              exact .refused down
          | ok done =>
              simp only [Function.comp_apply, Prod.mk.injEq] at answered
              obtain ⟨rfl, rfl⟩ := answered
              rw [recoverInFlight_idle rfl]
              exact .resumed down held decoded consistent

theorem proceed_effect {process : CoordinatorProcess} {thread : Nat} {saved : Bool} {phase : Phase}
    {event : ServerEvent} (up : server.process = some process)
    (at_ : process.threads[thread]? = some phase)
    (moved : server.proceed process thread saved phase = some (event, next)) :
    ServerEffect config server (.proceed thread saved) event next := by
  cases phase with
  | settling reply =>
      simp only [proceed, Option.some.injEq, Prod.mk.injEq] at moved
      obtain ⟨rfl, rfl⟩ := moved
      exact .settled up at_
  | notifying reply =>
      rw [proceed] at moved
      split at moved
      · simp at moved
      split at moved
      all_goals
        rename_i bookkeeping
        simp only [Option.some.injEq, Prod.mk.injEq] at moved
        obtain ⟨rfl, rfl⟩ := moved
      · exact .clean up at_ bookkeeping
      · exact .notified up at_
  | listening own target reply =>
      rw [proceed] at moved
      cases free : process.persistMutex with
      | some holder => simp [free] at moved
      | none =>
          simp only [free, Option.some.injEq, Prod.mk.injEq] at moved
          obtain ⟨rfl, rfl⟩ := moved
          exact .captured up at_ free
  | saving own target snapshot reply =>
      simp only [proceed, Option.some.injEq, Prod.mk.injEq] at moved
      obtain ⟨rfl, rfl⟩ := moved
      exact .wrote up at_
  | marking own target reply =>
      rw [proceed] at moved
      split at moved
      · simp at moved
      simp only [Option.some.injEq, Prod.mk.injEq] at moved
      obtain ⟨rfl, rfl⟩ := moved
      exact .marked up at_
  | returning reply =>
      simp only [proceed, Option.some.injEq, Prod.mk.injEq] at moved
      obtain ⟨rfl, rfl⟩ := moved
      exact .returned up at_

theorem step_effect {move : ServerMove} {event : ServerEvent}
    (moved : server.step config move = some (event, next)) :
    ServerEffect config server move event next := by
  cases move with
  | start salting naming =>
      rw [step] at moved
      cases down : server.process with
      | some process => simp [down] at moved
      | none =>
          simp only [down] at moved
          exact start_effect down moved
  | call thread op =>
      rw [step] at moved
      cases up : server.process with
      | none => simp [up] at moved
      | some process =>
          simp only [up] at moved
          split at moved
          · simp at moved
          rename_i admitted
          simp only [Bool.or_eq_true, Bool.not_eq_true', not_or, Bool.not_eq_true,
            Bool.not_eq_false] at admitted
          obtain ⟨⟨reply, engine⟩, performed, answered⟩ := Option.map_eq_some_iff.mp moved
          simp only [Prod.mk.injEq] at answered
          obtain ⟨rfl, rfl⟩ := answered
          have idle : process.threads[thread]? = none := by
            rw [← Option.isNone_iff_eq_none, ← Option.not_isSome,
              ← Std.ExtTreeMap.contains_eq_isSome_getElem?, admitted.1]
            rfl
          exact .called up idle admitted.2 performed
  | proceed thread saved =>
      rw [step] at moved
      cases up : server.process with
      | none => simp [up] at moved
      | some process =>
          simp only [up] at moved
          obtain ⟨phase, at_, advanced⟩ := Option.bind_eq_some_iff.mp moved
          exact proceed_effect up at_ advanced
  | stop saved =>
      rw [step] at moved
      cases up : server.process with
      | none => simp [up] at moved
      | some process =>
          simp only [up] at moved
          by_cases quiet : process.threads.isEmpty = true
          · rw [if_pos quiet, Option.some.injEq, Prod.mk.injEq] at moved
            obtain ⟨rfl, rfl⟩ := moved
            exact .stopped up (Std.ExtTreeMap.isEmpty_iff.mp quiet)
          · simp [quiet] at moved
  | crash =>
      rw [step] at moved
      cases up : server.process with
      | none => simp [up] at moved
      | some process =>
          simp only [up, Option.some.injEq, Prod.mk.injEq] at moved
          obtain ⟨rfl, rfl⟩ := moved
          exact .crashed up

theorem answered_phase {move : ServerMove} {reply : Reply}
    (moved : server.step config move = some (.answered reply, next)) :
    ∃ (process : CoordinatorProcess) (thread : Nat), server.process = some process ∧
      process.threads[thread]? = some (.returning reply) := by
  cases step_effect moved with
  | returned up phase => exact ⟨_, _, up, phase⟩

end CoordinatorServer

def Taken (snapshot : CoordinatorState) : Prop :=
  ∃ source : Engine, source.Sound ∧ snapshot = source.snapshot

def Phase.Sane : Phase → Prop
  | .saving _ _ snapshot _ => Taken snapshot
  | _ => True

structure Sane (server : CoordinatorServer) : Prop where
  files : ∀ snapshot ∈ server.files, Taken snapshot
  engine : ∀ process, server.process = some process → process.engine.Sound
  threads : ∀ process, server.process = some process → ∀ (thread : Nat) (phase : Phase),
    process.threads[thread]? = some phase → phase.Sane

namespace CoordinatorServer

variable {config : EngineConfig} {server next : CoordinatorServer}

theorem write_taken {saved : Bool} {snapshot : CoordinatorState}
    (files : ∀ file ∈ server.files, Taken file) (taken : Taken snapshot) :
    ∀ file ∈ (server.write saved snapshot).files, Taken file := by
  intro file inside
  cases saved with
  | false => exact files file inside
  | true =>
      rcases List.mem_cons.mp inside with rfl | old
      · exact taken
      · exact files file old

theorem markClean_sound {engine : Engine} (sound : engine.Sound) (target : UInt64) :
    (engine.markClean target).Sound :=
  ⟨sound.coherent, sound.roomy, sound.history, sound.config⟩

theorem afterSection_sane (before after : Engine) (op : Op) (reply : Reply) :
    (CoordinatorProcess.afterSection before after op reply).Sane := by
  unfold CoordinatorProcess.afterSection
  repeat' split
  all_goals trivial

theorem sane_step (sane : Sane server) {move : ServerMove} {event : ServerEvent}
    (moved : server.step config move = some (event, next)) : Sane next := by
  have starts {engine : Engine} (sound : engine.Sound) : Sane (server.run { engine }) := by
    refine ⟨sane.files, fun process up => Option.some.inj up ▸ sound, ?_⟩
    intro process up thread phase present
    rw [← Option.some.inj up] at present
    exact (Engine.no_entry rfl present).elim
  have parks {process : CoordinatorProcess} {engine : Engine} {thread : Nat} {phase : Phase}
      {mutex : Option Nat} {files : List CoordinatorState} (up : server.process = some process)
      (taken : ∀ file ∈ files, Taken file) (sound : engine.Sound) (settled : phase.Sane) :
      Sane ⟨files, some { process.park thread phase with engine, persistMutex := mutex }⟩ := by
    refine ⟨taken, fun other same => Option.some.inj same ▸ sound, ?_⟩
    intro other same another held present
    rw [← Option.some.inj same] at present
    rcases OrderedMaps.insert_cases present with ⟨rfl, rfl⟩ | ⟨_, old⟩
    · exact settled
    · exact sane.threads process up another held old
  cases step_effect moved with
  | refused down => exact sane
  | founded down empty => exact starts (Engine.create_sound config ⟨1⟩ _ _)
  | @resumed salting naming snapshot older state down disk decoded consistent =>
      obtain ⟨source, sound, rfl⟩ := sane.files snapshot (by rw [disk]; exact List.mem_cons_self)
      exact starts (Engine.booted_sound sound decoded consistent)
  | @called thread op process reply engine up idle online performed =>
      exact parks up sane.files (Engine.sound_step (sane.engine process up) performed)
        (afterSection_sane _ _ _ _)
  | @settled thread saved process reply up phase =>
      exact parks up sane.files (sane.engine process up) trivial
  | @clean thread saved process reply up phase _ =>
      exact parks up sane.files (sane.engine process up) trivial
  | @notified thread saved process reply up phase =>
      exact parks up sane.files (sane.engine process up) trivial
  | @captured thread saved process own target reply up phase _ =>
      have sound := sane.engine process up
      exact parks up sane.files sound ⟨process.engine, sound, rfl⟩
  | @wrote thread saved process own target snapshot reply up phase =>
      have taken : Taken snapshot := sane.threads process up thread _ phase
      exact parks up (write_taken sane.files taken) (sane.engine process up) trivial
  | @marked thread saved process own target reply up phase =>
      refine parks up sane.files (markClean_sound (sane.engine process up) target) ?_
      cases own <;> trivial
  | @returned thread saved process reply up phase =>
      refine ⟨sane.files, fun other same => Option.some.inj same ▸ sane.engine process up, ?_⟩
      intro other same another held present
      rw [← Option.some.inj same] at present
      exact sane.threads process up another held (OrderedMaps.erase_cases present).2
  | @stopped saved process up quiet =>
      have sound := sane.engine process up
      exact ⟨write_taken sane.files ⟨process.engine, sound, rfl⟩, by simp, by simp⟩
  | crashed up => exact ⟨sane.files, by simp, by simp⟩

theorem sane_initially : Sane {} := ⟨by simp, by simp, by simp⟩

end CoordinatorServer

end ArtifactPromotion
