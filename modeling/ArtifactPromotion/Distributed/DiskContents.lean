import ArtifactPromotion.Distributed.Durability

/-! What the state file on disk holds, when every write succeeds: the listener writes its snapshots
in the order they were taken, so the newest file holds what any earlier one did. -/

namespace ArtifactPromotion

open Runs

def ServerMove.saves : ServerMove → Bool
  | .proceed _ saved | .stop saved => saved
  | _ => true

namespace CoordinatorServer

variable {config : EngineConfig} {server next : CoordinatorServer}

def OnDisk (server : CoordinatorServer) (record : PromotionRecord) : Prop :=
  ∃ snapshot, server.disk = some snapshot ∧ Holds snapshot.records record

def Drops (server : CoordinatorServer) (move : ServerMove) : Prop :=
  ∃ (process : CoordinatorProcess) (thread : Nat) (op : Op) (record : PromotionRecord),
    server.process = some process ∧ move = .call thread op ∧ process.engine.Stores op ∧
    process.engine.state.records[record.transition]? = some record ∧
    process.engine.Displaces record.transition

/-- The memory holds what the files do, and so does the snapshot of the one thread that saves. -/
structure Ahead (files : List CoordinatorState) (process : CoordinatorProcess) : Prop where
  memory : ∀ record, Kept files record → Holds process.engine.state.records record
  saving : ∀ (thread : Nat) (own : Bool) (target : UInt64) (snapshot : CoordinatorState)
    (reply : Reply), process.threads[thread]? = some (.saving own target snapshot reply) →
      process.persistMutex = some thread ∧
        (∀ record, Kept files record → Holds snapshot.records record) ∧
        ∀ record, Holds snapshot.records record → Holds process.engine.state.records record

structure Ordered (server : CoordinatorServer) : Prop where
  newest : ∀ record, Kept server.files record → server.OnDisk record
  ahead : ∀ process, server.process = some process → Ahead server.files process

theorem Ahead.park {files : List CoordinatorState} {process : CoordinatorProcess} {thread : Nat}
    {phase : Phase} {engine : Engine} (ahead : Ahead files process)
    (stays : ∀ record, Holds process.engine.state.records record →
      Holds engine.state.records record)
    (idle : ∀ own target snapshot reply, phase ≠ .saving own target snapshot reply) :
    Ahead files { process.park thread phase with engine } := by
  constructor
  case memory => exact fun record kept => stays record (ahead.memory record kept)
  case saving =>
    intro other own target snapshot reply found
    rcases OrderedMaps.insert_cases found with ⟨_, taken⟩ | ⟨_, old⟩
    · exact absurd taken.symm (idle own target snapshot reply)
    · obtain ⟨holder, older, newer⟩ := ahead.saving other own target snapshot reply old
      exact ⟨holder, older, fun record held => stays record (newer record held)⟩

theorem afterSection_idle (before after : Engine) (op : Op) (reply : Reply) (own : Bool)
    (target : UInt64) (snapshot : CoordinatorState) (answer : Reply) :
    CoordinatorProcess.afterSection before after op reply ≠ .saving own target snapshot answer := by
  unfold CoordinatorProcess.afterSection
  repeat' split
  all_goals simp

theorem step_holds {engine after : Engine} {op : Op} {reply : Reply} (sound : engine.Sound)
    (moved : engine.step op = some (reply, after)) (online : op.online = true)
    (room : ∀ record : PromotionRecord, engine.state.records[record.transition]? = some record →
      engine.Stores op → ¬engine.Displaces record.transition)
    {record : PromotionRecord} (held : Holds engine.state.records record) :
    Holds after.state.records record := by
  have unsaved : ¬Kept [] record := by
    rintro ⟨snapshot, inside, _⟩
    simp at inside
  have carried : Carried [] after.state.records record :=
    sound.step_carried moved online (fun other present stores _ => room other present stores)
      (.inr held)
  exact carried.resolve_left unsaved

theorem holds_booted {source : Engine} {salting naming : UInt64} {state : CoordinatorState}
    (sound : source.Sound)
    (decoded : StatePersistence.decode (StatePersistence.encode source.snapshot) = .ok state)
    {record : PromotionRecord} (held : Holds source.state.records record) :
    Holds (Engine.booted config salting naming state).state.records record := by
  have reloaded : Coherent.Reloaded source.control
      (Engine.booted config salting naming state).control := Engine.booted_reloaded sound decoded
  obtain ⟨stored, present, same⟩ := held
  refine ⟨stored.restored, ?_, by rw [PromotionRecord.restored_restored, same]⟩
  change (Engine.booted config salting naming state).control.records[record.transition]? = _
  have present : source.control.records[record.transition]? = some stored := present
  rw [reloaded.records, Std.ExtTreeMap.getElem?_map, present]
  rfl

theorem ordered_step (ordered : Ordered server) (sane : Sane server) {move : ServerMove}
    {event : ServerEvent} (moved : server.step config move = some (event, next))
    (saves : move.saves = true) (room : ¬server.Drops move) : Ordered next := by
  have runs {process : CoordinatorProcess} (ahead : Ahead server.files process) :
      Ordered (server.run process) :=
    ⟨ordered.newest, fun other up => Option.some.inj up ▸ ahead⟩
  cases step_effect moved with
  | refused down => exact ordered
  | founded down empty =>
      refine runs ⟨?_, ?_⟩
      · rintro record ⟨snapshot, inside, _⟩
        simp [empty] at inside
      · intro thread own target snapshot reply found
        exact (Engine.no_entry rfl found).elim
  | @resumed salting naming snapshot older state down disk decoded consistent =>
      obtain ⟨source, sound, rfl⟩ := sane.files snapshot (by rw [disk]; exact List.mem_cons_self)
      refine runs ⟨?_, ?_⟩
      · intro record kept
        obtain ⟨newest, top, held⟩ := ordered.newest record kept
        rw [CoordinatorServer.disk, disk, List.head?_cons, Option.some.injEq] at top
        subst top
        exact holds_booted sound decoded held
      · intro thread own target taken reply found
        exact (Engine.no_entry rfl found).elim
  | @called thread op process reply engine up idle online performed =>
      refine runs ((ordered.ahead process up).park ?_ (afterSection_idle _ _ _ _))
      intro record held
      refine step_holds (sane.engine process up) performed online ?_ held
      intro other present stores displaced
      exact room ⟨process, thread, op, other, up, rfl, stores, present, displaced⟩
  | @settled thread saved process reply up phase =>
      exact runs ((ordered.ahead process up).park (fun _ held => held) (by simp))
  | @clean thread saved process reply up phase _ =>
      exact runs ((ordered.ahead process up).park (fun _ held => held) (by simp))
  | @notified thread saved process reply up phase =>
      exact runs ((ordered.ahead process up).park (fun _ held => held) (by simp))
  | @captured thread saved process own target reply up phase free =>
      have ahead := ordered.ahead process up
      refine runs ⟨ahead.memory, ?_⟩
      intro other own target snapshot reply found
      rcases OrderedMaps.insert_cases found with ⟨rfl, taken⟩ | ⟨_, old⟩
      · cases taken
        exact ⟨rfl, ahead.memory, fun _ held => held⟩
      · have holder := (ahead.saving other own target snapshot reply old).1
        simp [free] at holder
  | @wrote thread saved process own target snapshot reply up phase =>
      cases saved with
      | false => simp [ServerMove.saves] at saves
      | true =>
          have ahead := ordered.ahead process up
          obtain ⟨holder, older, newer⟩ := ahead.saving thread own target snapshot reply phase
          have covers (record : PromotionRecord)
              (kept : Kept (server.write true snapshot).files record) :
              Holds snapshot.records record := by
            obtain ⟨file, inside, held⟩ := kept
            rcases List.mem_cons.mp inside with rfl | old
            · exact held
            · exact older record ⟨file, old, held⟩
          refine ⟨fun record kept => ⟨snapshot, rfl, covers record kept⟩, ?_⟩
          intro other same
          rw [← Option.some.inj same]
          refine ⟨fun record kept => newer record (covers record kept), ?_⟩
          intro another own target taken reply found
          rcases OrderedMaps.insert_cases found with ⟨_, marking⟩ | ⟨apart, old⟩
          · simp at marking
          · have second := (ahead.saving another own target taken reply old).1
            rw [holder, Option.some.injEq] at second
            exact absurd second.symm apart
  | @marked thread saved process own target reply up phase =>
      refine runs ((ordered.ahead process up).park (fun _ held => held) ?_)
      cases own <;> simp
  | @returned thread saved process reply up phase =>
      have ahead := ordered.ahead process up
      refine runs ⟨ahead.memory, ?_⟩
      intro other own target snapshot reply found
      exact ahead.saving other own target snapshot reply (OrderedMaps.erase_cases found).2
  | @stopped saved process up quiet =>
      cases saved with
      | false => simp [ServerMove.saves] at saves
      | true =>
          refine ⟨?_, by simp⟩
          rintro record ⟨file, inside, held⟩
          refine ⟨process.engine.snapshot, rfl, ?_⟩
          rcases List.mem_cons.mp inside with rfl | old
          · exact held
          · exact (ordered.ahead process up).memory record ⟨file, old, held⟩
  | crashed up => exact ⟨ordered.newest, by simp⟩

theorem step_files {move : ServerMove} {event : ServerEvent}
    (moved : server.step config move = some (event, next)) : server.files ⊆ next.files := by
  cases step_effect moved with
  | wrote _ _ | stopped _ _ => exact server.write_files _ _
  | refused _ | founded _ _ | resumed _ _ _ _ | called _ _ _ _ | settled _ _ | clean _ _ _
  | notified _ _ | captured _ _ _ | marked _ _ | returned _ _ | crashed _ =>
      exact List.Subset.refl _

theorem run_files {trace : List ServerStep} {start final : CoordinatorServer}
    (run : Run (step config) start trace final) : start.files ⊆ final.files := by
  induction run with
  | nil => exact List.Subset.refl _
  | cons moved _ ih => exact List.Subset.trans (step_files moved) ih

theorem keeps_of_saves {move : ServerMove} (saves : move.saves = true) : ¬server.LosesWrite move := by
  rintro ⟨process, thread, own, target, snapshot, reply, record, _, rfl, _⟩
  simp [ServerMove.saves] at saves

theorem keeps_of_room {move : ServerMove} (room : ¬server.Drops move) :
    ¬server.DropsUnwritten move := by
  rintro ⟨process, thread, op, record, up, called, stores, held, displaced, _⟩
  exact room ⟨process, thread, op, record, up, called, stores, held, displaced⟩

/-- Every promotion the reply acknowledges is in the state file. -/
structure AcknowledgesOnDisk (server : CoordinatorServer) (reply : Reply) : Prop where
  promoted : ∀ record, reply.promoted? = some record → server.OnDisk record
  replayed : ∀ decision, reply.replayed? = some decision →
    ∃ record : PromotionRecord, record.decision = decision ∧ server.OnDisk record

theorem run_ordered {trace : List ServerStep} {final : CoordinatorServer}
    (run : ServerRun config trace final) (saves : ∀ step ∈ trace, step.input.saves = true)
    (condition : ∀ step ∈ trace,
      ¬step.before.Overtakes step.input ∧ ¬step.before.Drops step.input) :
    Sane final ∧ Durable final ∧ Ordered final := by
  refine run.guarded (fun server => Sane server ∧ Durable server ∧ Ordered server)
    (fun step => step.input.saves = true ∧ ¬step.before.Overtakes step.input ∧
      ¬step.before.Drops step.input) ?_ ?_ fun step inside =>
        ⟨saves step inside, condition step inside⟩
  · intro step held sound moved
    obtain ⟨sane, durable, ordered⟩ := held
    obtain ⟨saves, apart, room⟩ := sound
    exact ⟨sane_step sane moved,
      durable_step durable sane moved (keeps_of_saves saves) apart (keeps_of_room room),
      ordered_step ordered sane moved saves room⟩
  · refine ⟨sane_initially, ⟨by simp, by simp⟩, ?_, by simp⟩
    rintro record ⟨snapshot, inside, _⟩
    simp at inside

/-- In every run in which every write succeeds, no retry overtakes the write of its commit and no
record is dropped from the store, the state file holds every promotion acknowledged so far, at every
point at which the process may crash. -/
theorem run_acknowledged_on_disk {trace : List ServerStep} {final : CoordinatorServer}
    (run : ServerRun config trace final) (saves : ∀ step ∈ trace, step.input.saves = true)
    (condition : ∀ step ∈ trace,
      ¬step.before.Overtakes step.input ∧ ¬step.before.Drops step.input) :
    ∀ step ∈ trace, ∀ reply, step.output = .answered reply → final.AcknowledgesOnDisk reply := by
  intro step executed reply answered
  have ordered := (run_ordered run saves condition).2.2
  obtain ⟨past, future, rfl⟩ := List.append_of_mem executed
  obtain ⟨earlier, moved, later⟩ := run.cut
  have held := (run_ordered earlier
    (fun other inside => saves other (List.mem_append_left _ inside))
    fun other inside => condition other (List.mem_append_left _ inside)).2.1
  have grows := List.Subset.trans (step_files moved) (run_files later)
  rw [answered] at moved
  obtain ⟨process, thread, up, phase⟩ := answered_phase moved
  have running := held.running process up
  constructor
  case promoted =>
    intro record promoted
    exact ordered.newest record ((running.safe _ _ phase record promoted).mono grows)
  case replayed =>
    intro decision replayed
    obtain ⟨record, named, kept⟩ := running.answered _ _ phase decision replayed
    exact ⟨record, named, ordered.newest record (kept.mono grows)⟩

theorem unhurried_room {step : ServerStep} (checked : unhurried step = true) :
    ¬step.before.Drops step.input := by
  rintro ⟨process, thread, op, record, up, input, _, found, _⟩
  simp only [unhurried, input, up, Bool.and_eq_true, Std.ExtTreeMap.isEmpty_iff,
    decide_eq_true_eq] at checked
  exact Engine.no_entry checked.1.2 found

theorem run_acknowledged_on_disk_promoted :
    ∃ (trace : List ServerStep) (final : CoordinatorServer) (step : ServerStep) (reply : Reply)
      (record : PromotionRecord), ServerRun {} trace final ∧
        (∀ step ∈ trace, step.input.saves = true) ∧
        (∀ step ∈ trace, ¬step.before.Overtakes step.input ∧ ¬step.before.Drops step.input) ∧
        step ∈ trace ∧ step.output = .answered reply ∧ reply.promoted? = some record ∧
        final.OnDisk record := by
  have evaluated : (play (step {}) {} (preparations ++
      serves (fun engine => .commit (engine.planFor 1) 0) (List.replicate 6 true))).any
        (fun played => (played.1.all fun step => unhurried step && step.input.saves) &&
          (endsPromoted played.1).isSome) = true := by
    rw [serves, play_granting]
    decide +kernel
  obtain ⟨trace, final, run, checked⟩ := run_of_checked evaluated
  simp only [Bool.and_eq_true, List.all_eq_true, Option.isSome_iff_exists] at checked
  obtain ⟨quiet, record, ends⟩ := checked
  obtain ⟨step, executed, _, reply, answered, promoted⟩ := endsPromoted_spec ends
  have saves : ∀ step ∈ trace, step.input.saves = true := fun step inside => (quiet step inside).2
  have condition : ∀ step ∈ trace,
      ¬step.before.Overtakes step.input ∧ ¬step.before.Drops step.input := by
    intro step inside
    exact ⟨fun overtakes => unhurried_sound (quiet step inside).1 (.inr (.inl overtakes)),
      unhurried_room (quiet step inside).1⟩
  have acknowledges := run_acknowledged_on_disk run saves condition step executed reply answered
  exact ⟨trace, final, step, reply, record, run, saves, condition, executed, answered, promoted,
    acknowledges.promoted record promoted⟩

def endsReplayed (trace : List ServerStep) : Option PromotionDecisionId :=
  trace.getLast?.bind fun step =>
    match step.output with
    | .answered reply => reply.replayed?
    | _ => none

/-- A retry is acknowledged while the thread that committed the request is still on its way to the
write, and no file holds a record. -/
theorem retry_overtakes_write :
    ∃ (trace : List ServerStep) (final : CoordinatorServer) (step : ServerStep) (reply : Reply)
      (decision : PromotionDecisionId), ServerRun {} trace final ∧
        (∀ step ∈ trace, step.input.saves = true) ∧ step ∈ trace ∧
        step.output = .answered reply ∧ reply.replayed? = some decision ∧
        ∀ record, ¬final.OnDisk record := by
  have evaluated : (play (step {}) {} (preparations ++
      [asks 1 fun engine => .commit (engine.planFor 1) 0,
        asks 2 fun engine => .evaluate (engine.sampleRequest .promoted 1) 0,
        fun _ => .proceed 2 true])).any
        (fun played => (played.1.all fun step => step.input.saves) &&
          (endsReplayed played.1).isSome &&
          played.2.disk.all fun snapshot => snapshot.records.isEmpty) = true := by
    rw [play_granting]
    decide +kernel
  obtain ⟨trace, final, run, checked⟩ := run_of_checked evaluated
  simp only [Bool.and_eq_true, List.all_eq_true, Option.isSome_iff_exists] at checked
  obtain ⟨⟨saves, decision, ends⟩, empty⟩ := checked
  obtain ⟨step, last, answer⟩ := Option.bind_eq_some_iff.mp ends
  split at answer
  · rename_i reply answered
    refine ⟨trace, final, step, reply, decision, run, saves, List.mem_of_getLast? last, answered,
      answer, ?_⟩
    rintro record ⟨snapshot, top, stored, present, _⟩
    rw [top, Option.all_some, Std.ExtTreeMap.isEmpty_iff] at empty
    exact Engine.no_entry empty present
  · simp at answer

end CoordinatorServer

end ArtifactPromotion
