import ArtifactPromotion.Distributed.WriteBehind
import ArtifactPromotion.Library.Simulations
import ArtifactPromotion.Persist.StateFiles

/-! The coordinator server on a volume of files, where a write is made call by call: it refines the
server whose writes replace the state file in one step. -/

namespace ArtifactPromotion

open Runs

structure FileWriter where
  thread : Option Nat
  snapshot : CoordinatorState
  phase : WritePhase := .opening

structure FileServer where
  volume : Volume
  process : Option CoordinatorProcess := none
  writer : Option FileWriter := none

inductive FileMove where
  | start (salting naming : UInt64) (answers : ReadAnswers)
  /-- A step that makes no write. -/
  | serve (move : ServerMove)
  /-- A thread that holds a snapshot enters `save`. -/
  | enter (thread : Nat)
  | write (answer : WriteAnswer)
  | stop
  | crash

namespace FileServer

def plain (process : CoordinatorProcess) : ServerMove → Bool
  | .call _ _ => true
  | .proceed thread _ =>
      match process.threads[thread]? with
      | some (.saving _ _ _ _) => false
      | _ => true
  | _ => false

def start (config : EngineConfig) (path : FilePath) (server : FileServer)
    (salting naming : UInt64) (answers : ReadAnswers) : Option (ServerEvent × FileServer) :=
  let engine := Engine.create config ⟨1⟩ salting naming
  match server.volume path.target with
  | none => some (.started (.ok ()), { server with process := some { engine } })
  | some _ =>
      match StatePersistence.load server.volume path answers with
      | .error status => some (.started (.error status), server)
      | .ok state =>
          (engine.installState { state with epoch := state.epoch.next }).map fun installed =>
            match installed.1 with
            | .error status => (.started (.error status), server)
            | .ok () =>
                (.started (.ok ()),
                  { server with process := some { engine := installed.2.recoverInFlight.2 } })

def finish (process : CoordinatorProcess) :
    Option Nat → Option (ServerEvent × Option CoordinatorProcess)
  | none => some (.ended, none)
  | some thread =>
      match process.threads[thread]? with
      | some (.saving own target _ reply) =>
          some (.working, some { process.park thread (.marking own target reply) with
            persistMutex := none })
      | _ => none

def step (config : EngineConfig) (path : FilePath) (server : FileServer) :
    FileMove → Option (ServerEvent × FileServer)
  | .start salting naming answers =>
      match server.process with
      | some _ => none
      | none => server.start config path salting naming answers
  | .serve move =>
      match server.process with
      | none => none
      | some process =>
          if plain process move && !server.writer.any (·.thread.isNone) then
            (CoordinatorServer.step config { process := some process } move).map fun next =>
              (next.1, { server with process := next.2.process })
          else none
  | .enter thread =>
      match server.process, server.writer with
      | some process, none =>
          match process.threads[thread]? with
          | some (.saving _ _ snapshot _) =>
              some (.working, { server with writer := some { thread := some thread, snapshot } })
          | _ => none
      | _, _ => none
  | .write answer =>
      match server.process, server.writer with
      | some process, some writer =>
          (writer.phase.step path (StatePersistence.encode writer.snapshot) server.volume
              answer).bind fun (volume, phase) =>
            match phase with
            | .finished _ =>
                (finish process writer.thread).map fun (event, process) =>
                  (event, { volume, process })
            | _ => some (.working, { server with volume, writer := some { writer with phase } })
      | _, _ => none
  | .stop =>
      match server.process, server.writer with
      | some process, none =>
          if process.threads.isEmpty then
            some (.working, { server with
              writer := some { thread := none, snapshot := process.engine.snapshot } })
          else none
      | _, _ => none
  | .crash =>
      match server.process with
      | none => none
      | some _ => some (.ended, { server with process := none, writer := none })

end FileServer

abbrev FileStep := Step FileServer FileMove ServerEvent

abbrev FileRun (config : EngineConfig) (path : FilePath) (volume : Volume) (trace : List FileStep)
    (final : FileServer) : Prop :=
  Run (FileServer.step config path) { volume } trace final

def ServerEvent.seen : ServerEvent → List ServerEvent
  | .started (.error _) | .working => []
  | event => [event]

namespace FileServer

variable {config : EngineConfig} {path : FilePath} {server next : FileServer}
  {coordinator : CoordinatorServer}

def Saving (process : CoordinatorProcess) (thread : Nat) (snapshot : CoordinatorState) : Prop :=
  ∃ own target reply, process.threads[thread]? = some (Phase.saving own target snapshot reply)

def Writes (process : CoordinatorProcess) (writer : FileWriter) : Prop :=
  match writer.thread with
  | none => process.threads = ∅ ∧ writer.snapshot = process.engine.snapshot
  | some thread => Saving process thread writer.snapshot

/-- The state file is the encoding of what the server with atomic writes has on disk. -/
structure Backs (path : FilePath) (server : FileServer) (coordinator : CoordinatorServer) :
    Prop where
  process : coordinator.process = server.process
  file : server.volume path.target = coordinator.disk.map StatePersistence.encode
  writer : ∀ writer, server.writer = some writer → ∃ process, server.process = some process ∧
    Writes process writer ∧
    writer.phase.Holds path (StatePersistence.encode writer.snapshot) server.volume

theorem plain_step {process : CoordinatorProcess} {move : ServerMove} {event : ServerEvent}
    {files : List CoordinatorState} {after : CoordinatorServer} (calm : plain process move = true)
    (moved : CoordinatorServer.step config ⟨files, some process⟩ move = some (event, after)) :
    ∃ later, after = ⟨files, some later⟩ ∧ ∀ thread snapshot,
      Saving process thread snapshot → Saving later thread snapshot := by
  have parked {thread : Nat} {phase : Phase} {engine : Engine} {mutex : Option Nat}
      (idle : ∀ snapshot, ¬Saving process thread snapshot) :
      ∀ other snapshot, Saving process other snapshot →
        Saving { process.park thread phase with engine, persistMutex := mutex } other snapshot := by
    rintro other snapshot ⟨own, target, reply, saving⟩
    have apart : thread ≠ other := by
      rintro rfl
      exact idle snapshot ⟨own, target, reply, saving⟩
    exact ⟨own, target, reply,
      by simpa [CoordinatorProcess.park, Std.ExtTreeMap.getElem?_insert, apart] using saving⟩
  cases CoordinatorServer.step_effect moved with
  | @called thread op process' reply engine up idle online performed =>
      cases up
      exact ⟨_, rfl, parked (by simp [Saving, idle])⟩
  | @settled thread saved process' reply up phase =>
      cases up
      exact ⟨_, rfl, parked (by simp [Saving, phase])⟩
  | @clean thread saved process' reply up phase written =>
      cases up
      exact ⟨_, rfl, parked (by simp [Saving, phase])⟩
  | @notified thread saved process' reply up phase =>
      cases up
      exact ⟨_, rfl, parked (by simp [Saving, phase])⟩
  | @captured thread saved process' own target reply up phase free =>
      cases up
      exact ⟨_, rfl, parked (by simp [Saving, phase])⟩
  | @wrote thread saved process' own target snapshot reply up phase =>
      cases up
      simp [plain, phase] at calm
  | @marked thread saved process' own target reply up phase =>
      cases up
      exact ⟨_, rfl, parked (by simp [Saving, phase])⟩
  | @returned thread saved process' reply up phase =>
      cases up
      refine ⟨_, rfl, ?_⟩
      rintro other snapshot ⟨own, target, reply, saving⟩
      have apart : thread ≠ other := by
        rintro rfl
        simp [phase] at saving
      exact ⟨own, target, reply, by simpa [Std.ExtTreeMap.getElem?_erase, apart] using saving⟩
  | refused down | founded down | resumed down => cases down
  | stopped up | crashed up => cases calm

theorem plain_files {process : CoordinatorProcess} {move : ServerMove}
    (files : List CoordinatorState) (calm : plain process move = true) :
    CoordinatorServer.step config ⟨files, some process⟩ move =
      (CoordinatorServer.step config ⟨[], some process⟩ move).map fun next =>
        (next.1, { next.2 with files }) := by
  cases move with
  | call thread op =>
      simp only [CoordinatorServer.step]
      split
      · rfl
      · rw [Option.map_map]
        rfl
  | proceed thread saved =>
      simp only [CoordinatorServer.step]
      cases found : process.threads[thread]? with
      | none => rfl
      | some phase =>
          simp only [Option.bind_some]
          cases phase with
          | saving own target snapshot reply => simp [plain, found] at calm
          | settling reply | returning reply => rfl
          | notifying reply | listening own target reply | marking own target reply =>
              simp only [CoordinatorServer.proceed]
              repeat' split
              all_goals rfl
  | start salting naming | stop saved | crash => cases calm

theorem start_matched (backs : Backs path server coordinator)
    {salting naming : UInt64} {answers : ReadAnswers} {event : ServerEvent}
    (moved : server.start config path salting naming answers = some (event, next)) :
    (∃ status, event = .started (.error status) ∧ next = server) ∨
    event = .started (.ok ()) ∧ ∃ process, next = { server with process := some process } ∧
      coordinator.start config salting naming =
        some (.started (.ok ()), coordinator.run process) := by
  unfold start at moved
  dsimp only at moved
  split at moved
  · rename_i absent
    have empty : coordinator.disk = none := by
      have none := backs.file.symm.trans absent
      simpa using none
    cases moved
    refine .inr ⟨rfl, _, rfl, ?_⟩
    simp only [CoordinatorServer.start, empty]
  · rename_i content present
    obtain ⟨snapshot, disk, encoded⟩ := Option.map_eq_some_iff.mp (backs.file.symm.trans present)
    split at moved
    · cases moved
      exact .inl ⟨_, rfl, rfl⟩
    · rename_i state loaded
      obtain ⟨held, found, _, decoded⟩ := StatePersistence.load_eq_ok loaded
      rw [present, Option.some.injEq] at found
      subst found
      obtain ⟨installed, installs, same⟩ := Option.map_eq_some_iff.mp moved
      split at same
      · cases same
        exact .inl ⟨_, rfl, rfl⟩
      · rename_i accepted
        cases same
        refine .inr ⟨rfl, _, rfl, ?_⟩
        simp only [CoordinatorServer.start, disk]
        rw [encoded, decoded]
        simp only [installs, Option.map_some, accepted]

theorem finish_matched {process : CoordinatorProcess} {writer : FileWriter} (saved : Bool)
    {event : ServerEvent} {after : Option CoordinatorProcess} (up : coordinator.process = some process)
    (writes : Writes process writer) (ended : finish process writer.thread = some (event, after)) :
    ∃ move, CoordinatorServer.step config coordinator move =
      some (event, { coordinator.write saved writer.snapshot with process := after }) := by
  unfold finish at ended
  unfold Writes at writes
  cases mine : writer.thread with
  | none =>
      simp only [mine, Option.some.injEq, Prod.mk.injEq] at ended writes
      obtain ⟨⟨rfl, rfl⟩, quiet, same⟩ := And.intro ended writes
      refine ⟨.stop saved, ?_⟩
      simp [CoordinatorServer.step, up, quiet, same]
  | some thread =>
      simp only [mine] at ended writes
      obtain ⟨own, target, reply, saving⟩ := writes
      simp only [saving, Option.some.injEq, Prod.mk.injEq] at ended
      obtain ⟨rfl, rfl⟩ := ended
      refine ⟨.proceed thread saved, ?_⟩
      simp [CoordinatorServer.step, CoordinatorServer.proceed, CoordinatorServer.run, up, saving]

theorem write_disk (saved : Bool) (snapshot : CoordinatorState) (after : Option CoordinatorProcess) :
    ({ coordinator.write saved snapshot with process := after } : CoordinatorServer).disk =
      if saved then some snapshot else coordinator.disk := by
  cases saved <;> rfl

/-- Every step of the server on files is a step of the server with atomic writes, or none. -/
theorem step_matched (backs : Backs path server coordinator) {move : FileMove}
    {event : ServerEvent} (moved : server.step config path move = some (event, next)) :
    (event.seen = [] ∧ Backs path next coordinator) ∨
    ∃ move' after, CoordinatorServer.step config coordinator move' = some (event, after) ∧
      Backs path next after := by
  cases move with
  | start salting naming answers =>
      simp only [step] at moved
      split at moved
      · cases moved
      rename_i down
      obtain ⟨status, rfl, rfl⟩ | ⟨rfl, process, rfl, started⟩ := start_matched backs moved
      · exact .inl ⟨rfl, backs⟩
      · refine .inr ⟨.start salting naming, coordinator.run process, ?_, rfl, backs.file, ?_⟩
        · simp only [CoordinatorServer.step, backs.process.trans down, started]
        · intro writer busy
          obtain ⟨other, up, _⟩ := backs.writer writer busy
          simp [down] at up
  | serve move =>
      simp only [step] at moved
      split at moved
      · cases moved
      rename_i process up
      split at moved
      · rename_i allowed
        simp only [Bool.and_eq_true, Bool.not_eq_true'] at allowed
        obtain ⟨calm, open_⟩ := allowed
        obtain ⟨⟨shown, after⟩, served, same⟩ := Option.map_eq_some_iff.mp moved
        simp only [Prod.mk.injEq] at same
        obtain ⟨rfl, rfl⟩ := same
        obtain ⟨later, rfl, kept⟩ := plain_step calm served
        refine .inr ⟨move, ⟨coordinator.files, some later⟩, ?_, rfl, backs.file, ?_⟩
        · have lifted := @plain_files config _ _ coordinator.files calm
          rw [served] at lifted
          have same : coordinator = ⟨coordinator.files, some process⟩ := by
            rw [← up, ← backs.process]
          exact (congrArg (CoordinatorServer.step config · move) same).trans lifted
        · intro writer busy
          obtain ⟨other, present, writes, holds⟩ := backs.writer writer busy
          rw [up, Option.some.injEq] at present
          subst present
          refine ⟨later, rfl, ?_, holds⟩
          cases mine : writer.thread with
          | none =>
              rw [busy] at open_
              simp [mine] at open_
          | some thread =>
              simp only [Writes, mine] at writes ⊢
              exact kept thread _ writes
      · cases moved
  | enter thread =>
      simp only [step] at moved
      split at moved
      · rename_i process up free
        split at moved
        · rename_i own target snapshot reply saving
          cases moved
          refine .inl ⟨rfl, backs.process, backs.file, ?_⟩
          rintro writer ⟨rfl⟩
          exact ⟨process, up, ⟨own, target, reply, saving⟩, trivial⟩
        · cases moved
      · cases moved
  | write answer =>
      simp only [step] at moved
      split at moved
      · rename_i process writer up busy
        obtain ⟨⟨volume, phase⟩, written, moved⟩ := Option.bind_eq_some_iff.mp moved
        obtain ⟨other, present, writes, holds⟩ := backs.writer writer busy
        rw [up, Option.some.injEq] at present
        subst present
        obtain ⟨promised, replaced⟩ := WritePhase.step_spec holds written
        cases phase with
        | finished result =>
            obtain ⟨⟨shown, after⟩, ended, same⟩ := Option.map_eq_some_iff.mp moved
            simp only [Prod.mk.injEq] at same
            obtain ⟨rfl, rfl⟩ := same
            have matched := @finish_matched config _ _ _ (WritePhase.replaced (.finished result)) _ _
              (backs.process.trans up) writes ended
            obtain ⟨move, stepped⟩ := matched
            refine .inr ⟨move, _, stepped, rfl, ?_, by simp⟩
            rw [write_disk]
            refine replaced.trans ?_
            rw [backs.file]
            cases WritePhase.replaced (.finished result) <;> rfl
        | opening | writing count | verifying | replacing | cleaning failure =>
            cases moved
            refine .inl ⟨rfl, backs.process, replaced.trans backs.file, ?_⟩
            rintro busy ⟨rfl⟩
            exact ⟨process, up, writes, promised⟩
      · cases moved
  | stop =>
      simp only [step] at moved
      split at moved
      · rename_i process up free
        split at moved
        · rename_i quiet
          cases moved
          refine .inl ⟨rfl, backs.process, backs.file, ?_⟩
          rintro writer ⟨rfl⟩
          exact ⟨process, up, ⟨Std.ExtTreeMap.isEmpty_iff.mp quiet, rfl⟩, trivial⟩
        · cases moved
      · cases moved
  | crash =>
      simp only [step] at moved
      split at moved
      · cases moved
      · rename_i process up
        cases moved
        refine .inr ⟨.crash, { coordinator with process := none }, ?_, rfl, backs.file, by simp⟩
        simp only [CoordinatorServer.step, backs.process.trans up]

theorem simulates (config : EngineConfig) (path : FilePath) :
    Simulation (FileServer.step config path) (CoordinatorServer.step config)
      (fun step => step.output.seen) (fun step => step.output.seen) (Backs path) where
  matched step before backs moved := by
    obtain ⟨unseen, kept⟩ | ⟨move, after, matched, kept⟩ := step_matched backs moved
    · exact ⟨[], before, .nil before, kept, unseen.symm⟩
    · exact ⟨[⟨before, move, step.output, after⟩], after, .cons matched (.nil after), kept,
        by simp⟩

/-- No step touches a file that is neither the state file nor its temporary copy. -/
theorem step_elsewhere {move : FileMove} {event : ServerEvent}
    (moved : server.step config path move = some (event, next)) {file : FileName}
    (apart : file ≠ path.target) (other : file ≠ path.temporary) :
    next.volume file = server.volume file := by
  cases move with
  | start salting naming answers =>
      simp only [step, start] at moved
      split at moved
      · cases moved
      split at moved
      · cases moved
        rfl
      split at moved
      · cases moved
        rfl
      · obtain ⟨installed, _, same⟩ := Option.map_eq_some_iff.mp moved
        split at same
        all_goals
          cases same
          rfl
  | serve move =>
      simp only [step] at moved
      split at moved
      · cases moved
      split at moved
      · obtain ⟨served, _, same⟩ := Option.map_eq_some_iff.mp moved
        cases same
        rfl
      · cases moved
  | write answer =>
      simp only [step] at moved
      split at moved
      · obtain ⟨⟨volume, phase⟩, written, moved⟩ := Option.bind_eq_some_iff.mp moved
        have kept := WritePhase.step_elsewhere written apart other
        dsimp only at moved
        split at moved
        · obtain ⟨ended, _, same⟩ := Option.map_eq_some_iff.mp moved
          cases same
          exact kept
        · cases moved
          exact kept
      · cases moved
  | enter thread =>
      simp only [step] at moved
      split at moved
      · split at moved
        · cases moved
          rfl
        · cases moved
      · cases moved
  | stop =>
      simp only [step] at moved
      split at moved
      · split at moved
        · cases moved
          rfl
        · cases moved
      · cases moved
  | crash =>
      simp only [step] at moved
      split at moved
      · cases moved
      · cases moved
        rfl

/-- In every run, however the writes of the state file fail and whenever the process dies, the state
file is whole, and the server behaves as one whose writes are single steps. -/
theorem file_runs_refine {volume : Volume} {trace : List FileStep} {final : FileServer}
    (fresh : volume path.target = none) (run : FileRun config path volume trace final) :
    ∃ (trace' : List ServerStep) (after : CoordinatorServer), ServerRun config trace' after ∧
      after.process = final.process ∧
      final.volume path.target = after.disk.map StatePersistence.encode ∧
      trace'.flatMap (·.output.seen) = trace.flatMap (·.output.seen) ∧
      ∀ file, file ≠ path.target → file ≠ path.temporary → final.volume file = volume file := by
  have initially : Backs path { volume } {} := ⟨rfl, fresh, by simp⟩
  obtain ⟨trace', after, mirrored, backs, events⟩ := (simulates config path).run run initially
  refine ⟨trace', after, mirrored, backs.process, backs.file, events, ?_⟩
  intro file apart other
  refine run.invariant (fun server => server.volume file = volume file) ?_ rfl
  intro before move event server kept moved
  exact (step_elsewhere moved apart other).trans kept

/-- The mutex of `persist_now` leaves the temporary file to one writer at a time. -/
theorem writer_alone {volume : Volume} {trace : List FileStep} {final : FileServer}
    {process : CoordinatorProcess} {thread : Nat} {snapshot : CoordinatorState}
    (fresh : volume path.target = none) (run : FileRun config path volume trace final)
    (up : final.process = some process) (saving : Saving process thread snapshot) :
    ∀ writer, final.writer = some writer → writer.thread = some thread := by
  have initially : Backs path { volume } {} := ⟨rfl, fresh, by simp⟩
  obtain ⟨trace', after, mirrored, backs, -⟩ := (simulates config path).run run initially
  have exclusive := CoordinatorServer.run_exclusive mirrored process (backs.process.trans up)
  intro writer busy
  obtain ⟨other, present, writes, -⟩ := backs.writer writer busy
  rw [up, Option.some.injEq] at present
  subst present
  obtain ⟨own, target, reply, saving⟩ := saving
  cases mine : writer.thread with
  | none =>
      simp only [Writes, mine] at writes
      simp [writes.1] at saving
  | some other =>
      simp only [Writes, mine] at writes
      obtain ⟨_, _, _, writing⟩ := writes
      have same := (exclusive _ _ _ _ _ saving).symm.trans (exclusive _ _ _ _ _ writing)
      exact same.symm

theorem stop_replaces {process : CoordinatorProcess} (volume : Volume)
    (quiet : process.threads = ∅) : ∃ trace final,
      Run (FileServer.step config path) { volume, process := some process } trace final ∧
      final.process = none ∧
      final.volume path.target = some (StatePersistence.encode process.engine.snapshot) := by
  let data := StatePersistence.encode process.engine.snapshot
  let writer (phase : WritePhase) : Option FileWriter :=
    some { thread := none, snapshot := process.engine.snapshot, phase }
  let stored (content : ByteBuffer) := Function.update volume path.temporary (some content)
  have stops : FileServer.step config path { volume, process := some process } .stop =
      some (.working, ⟨volume, some process, writer .opening⟩) := by
    simp [step, quiet, writer]
  have opens : FileServer.step config path ⟨volume, some process, writer .opening⟩
      (.write .opened) = some (.working, ⟨stored [], some process, writer (.writing 0)⟩) := by
    simp [step, WritePhase.step, writer, stored]
  have fills : FileServer.step config path ⟨stored [], some process, writer (.writing 0)⟩
      (.write (.wrote data.length)) =
        some (.working, ⟨stored data, some process, writer (.writing data.length)⟩) := by
    simp [step, WritePhase.step, writer, stored, data]
  have flushes : FileServer.step config path
      ⟨stored data, some process, writer (.writing data.length)⟩ (.write .flushed) =
        some (.working, ⟨stored data, some process, writer .verifying⟩) := by
    simp [step, WritePhase.step, writer]
  have verifies : FileServer.step config path ⟨stored data, some process, writer .verifying⟩
      (.write (.sized false)) =
        some (.working, ⟨stored data, some process, writer .replacing⟩) := by
    simp [step, WritePhase.step, writer, stored, data]
  have renames : FileServer.step config path ⟨stored data, some process, writer .replacing⟩
      (.write .renamed) = some (.ended, ⟨Function.update
        (Function.update (stored data) path.target (stored data path.temporary)) path.temporary
        none, none, none⟩) := by
    simp [step, WritePhase.step, writer, finish]
  refine ⟨_, _, .cons stops (.cons opens (.cons fills (.cons flushes (.cons verifies
    (.cons renames (.nil _)))))), rfl, ?_⟩
  refine (WritePhase.target_update _).trans ?_
  rw [Function.update_self]
  exact Function.update_self ..

theorem file_runs_refine_stopped : ∃ (path : FilePath) (trace : List FileStep) (final : FileServer)
    (trace' : List ServerStep) (after : CoordinatorServer),
    FileRun {} path (fun _ => none) trace final ∧ final.process = none ∧
      (final.volume path.target).isSome = true ∧ ServerRun {} trace' after ∧
      final.volume path.target = after.disk.map StatePersistence.encode := by
  let path : FilePath := ⟨text "state/promotion.bin", text "state", text "promotion.bin"⟩
  let process : CoordinatorProcess := { engine := Engine.create {} ⟨1⟩ 1 2 }
  have starts : FileServer.step {} path { volume := fun _ => none } (.start 1 2 { delivered := 0 }) =
      some (.started (.ok ()), { volume := fun _ => none, process := some process }) := rfl
  obtain ⟨trace, final, stopped, down, written⟩ := @stop_replaces {} path process
    (fun _ => none) rfl
  obtain ⟨trace', after, mirrored, _, file, _⟩ := file_runs_refine rfl (.cons starts stopped)
  exact ⟨path, _, final, trace', after, .cons starts stopped, down, by rw [written]; rfl, mirrored,
    file⟩

end FileServer

end ArtifactPromotion
