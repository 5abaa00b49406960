import ArtifactPromotion.Distributed.DiskContents

/-! When the state file has caught up with a mutation: the epoch bookkeeping of `notify_change` while
every write succeeds. -/

namespace ArtifactPromotion

open Runs

namespace Phase

/-- The count of mutations up to which the thread has promised a write. -/
def target? : Phase → Option UInt64
  | .listening _ target _ | .saving _ target _ _ | .marking _ target _ => some target
  | _ => none

/-- The thread does not return before the mutations counted up to `mark` are secured. -/
def Due (mark : Nat) (secured : Prop) : Phase → Prop
  | .settling _ | .notifying _ => True
  | .listening _ target _ | .saving _ target _ _ | .marking _ target _ => mark ≤ target.toNat
  | .returning _ => secured

/-- A write that was promised once the mutations were counted takes a recent snapshot, and is over
only when they are secured. -/
def Covers (recent : CoordinatorState → Prop) (mark : Nat) (secured : Prop) : Phase → Prop
  | .saving _ target snapshot _ => mark ≤ target.toNat → recent snapshot
  | .marking _ target _ => mark ≤ target.toNat → secured
  | _ => True

theorem Due.imp {mark : Nat} {secured later : Prop} {phase : Phase} (due : phase.Due mark secured)
    (stays : secured → later) : phase.Due mark later := by
  cases phase with
  | settling reply | notifying reply => trivial
  | listening own target reply | saving own target snapshot reply | marking own target reply =>
      exact due
  | returning reply => exact stays due

theorem Covers.imp {recent : CoordinatorState → Prop} {mark : Nat} {secured later : Prop}
    {phase : Phase} (covers : phase.Covers recent mark secured) (stays : secured → later) :
    phase.Covers recent mark later := by
  cases phase with
  | saving own target snapshot reply => exact covers
  | marking own target reply => exact fun reached => stays (covers reached)
  | settling reply | notifying reply | listening own target reply | returning reply => trivial

end Phase

def CoordinatorProcess.Exclusive (process : CoordinatorProcess) : Prop :=
  ∀ (thread : Nat) (own : Bool) (target : UInt64) (snapshot : CoordinatorState) (reply : Reply),
    process.threads[thread]? = some (.saving own target snapshot reply) →
      process.persistMutex = some thread

structure CoordinatorProcess.Counting (process : CoordinatorProcess) : Prop where
  clean : process.engine.persistCleanEpoch.toNat ≤ process.engine.persistEpoch.toNat
  targets : ∀ (thread : Nat) (phase : Phase) (target : UInt64),
    process.threads[thread]? = some phase → phase.target? = some target →
      target.toNat ≤ process.engine.persistEpoch.toNat

namespace CoordinatorServer

variable {config : EngineConfig} {server next : CoordinatorServer}

def Savings (recent : CoordinatorState → Prop) (server : CoordinatorServer) : Prop :=
  ∀ (process : CoordinatorProcess) (thread : Nat) (own : Bool) (target : UInt64)
    (snapshot : CoordinatorState) (reply : Reply), server.process = some process →
      process.threads[thread]? = some (.saving own target snapshot reply) → recent snapshot

/-- The file holds a recent snapshot, and so does every thread that is about to replace it. -/
structure Secured (recent : CoordinatorState → Prop) (server : CoordinatorServer) : Prop where
  disk : ∃ snapshot, server.disk = some snapshot ∧ recent snapshot
  savings : server.Savings recent

def Exclusive (server : CoordinatorServer) : Prop :=
  ∀ process, server.process = some process → process.Exclusive

def Counting (server : CoordinatorServer) : Prop :=
  ∀ process, server.process = some process → process.Counting

theorem afterSection_target (before after : Engine) (op : Op) (reply : Reply) :
    (CoordinatorProcess.afterSection before after op reply).target? = none := by
  unfold CoordinatorProcess.afterSection
  repeat' split
  all_goals rfl

theorem exclusive_step (exclusive : server.Exclusive) {move : ServerMove} {event : ServerEvent}
    (moved : server.step config move = some (event, next)) : next.Exclusive := by
  have parks {process : CoordinatorProcess} {engine : Engine} {thread : Nat} {phase : Phase}
      (up : server.process = some process)
      (idle : ∀ own target snapshot reply, phase ≠ .saving own target snapshot reply) :
      (server.run { process.park thread phase with engine }).Exclusive := by
    rintro other ⟨rfl⟩ holder own target snapshot reply found
    rcases OrderedMaps.insert_cases found with ⟨_, same⟩ | ⟨_, old⟩
    · exact absurd same.symm (idle own target snapshot reply)
    · exact exclusive process up holder own target snapshot reply old
  have starts {engine : Engine} : (server.run { engine }).Exclusive := by
    rintro process ⟨rfl⟩ holder own target snapshot reply found
    exact (Engine.no_entry rfl found).elim
  cases step_effect moved with
  | refused down => exact exclusive
  | founded down empty => exact starts
  | resumed down disk decoded consistent => exact starts
  | called up idle online performed => exact parks up (afterSection_idle _ _ _ _)
  | settled up phase => exact parks up (by simp)
  | clean up phase written => exact parks up (by simp)
  | notified up phase => exact parks up (by simp)
  | @captured thread saved process own target reply up phase free =>
      rintro other ⟨rfl⟩ holder own target snapshot reply found
      rcases OrderedMaps.insert_cases found with ⟨rfl, _⟩ | ⟨_, old⟩
      · rfl
      · have held := exclusive process up holder own target snapshot reply old
        simp [free] at held
  | @wrote thread saved process own target snapshot reply up phase =>
      rintro other ⟨rfl⟩ holder own target taken reply found
      rcases OrderedMaps.insert_cases found with ⟨_, marking⟩ | ⟨apart, old⟩
      · simp at marking
      · have first := exclusive process up thread _ _ _ _ phase
        have second := exclusive process up holder _ _ _ _ old
        rw [first, Option.some.injEq] at second
        exact absurd second.symm apart
  | @marked thread saved process own target reply up phase =>
      refine parks up ?_
      cases own <;> simp
  | @returned thread saved process reply up phase =>
      rintro other ⟨rfl⟩ holder own target snapshot reply found
      exact exclusive process up holder own target snapshot reply (OrderedMaps.erase_cases found).2
  | stopped up quiet =>
      rintro process ⟨⟩
  | crashed up =>
      rintro process ⟨⟩

theorem counted_cases {process : CoordinatorProcess} {thread : Nat} {op : Op} {reply : Reply}
    {engine : Engine} (up : server.process = some process)
    (moved : process.engine.step op = some (reply, engine))
    (unwrapped : ¬server.Wraps (.call thread op)) :
    engine.persistEpoch = process.engine.persistEpoch ∨
      engine.persistEpoch.toNat = process.engine.persistEpoch.toNat + 1 := by
  rcases (Engine.step_counts moved).counted with same | grown
  · exact .inl same
  right
  have small := process.engine.persistEpoch.toNat_lt
  have one : (1 : UInt64).toNat = 1 := rfl
  have changed : engine.persistEpoch ≠ process.engine.persistEpoch := by
    rw [grown]
    intro same
    have equal := congrArg UInt64.toNat same
    rw [UInt64.toNat_add, one] at equal
    omega
  have room : process.engine.persistEpoch.toNat + 1 ≠ UInt64.size := fun full =>
    unwrapped ⟨process, thread, op, reply, engine, up, rfl, moved, changed, full⟩
  simp only [UInt64.size] at room
  rw [grown, UInt64.toNat_add, one]
  omega

theorem counting_step (counting : server.Counting) {move : ServerMove} {event : ServerEvent}
    (moved : server.step config move = some (event, next)) (unwrapped : ¬server.Wraps move) :
    next.Counting := by
  have parks {process : CoordinatorProcess} {thread : Nat} {phase : Phase} {mutex : Option Nat}
      {files : List CoordinatorState} (up : server.process = some process)
      (bounded : ∀ target, phase.target? = some target →
        target.toNat ≤ process.engine.persistEpoch.toNat) :
      Counting ⟨files, some { process.park thread phase with persistMutex := mutex }⟩ := by
    rintro other ⟨rfl⟩
    refine ⟨(counting process up).clean, ?_⟩
    intro another held target found promised
    rcases OrderedMaps.insert_cases found with ⟨rfl, rfl⟩ | ⟨_, old⟩
    · exact bounded target promised
    · exact (counting process up).targets another held target old promised
  have starts {engine : Engine} (clean : engine.persistCleanEpoch = 0) :
      (server.run { engine }).Counting := by
    rintro process ⟨rfl⟩
    refine ⟨by simp [clean], ?_⟩
    intro thread phase target found
    exact (Engine.no_entry rfl found).elim
  cases step_effect moved with
  | refused down => exact counting
  | founded down empty => exact starts rfl
  | resumed down disk decoded consistent => exact starts rfl
  | @called thread op process reply engine up idle online performed =>
      have grows : process.engine.persistEpoch.toNat ≤ engine.persistEpoch.toNat := by
        rcases counted_cases up performed unwrapped with same | grown
        · rw [same]
        · omega
      rintro other ⟨rfl⟩
      refine ⟨?_, ?_⟩
      · change engine.persistCleanEpoch.toNat ≤ engine.persistEpoch.toNat
        rw [(Engine.step_counts performed).clean]
        exact Nat.le_trans (counting process up).clean grows
      · intro another held target found promised
        rcases OrderedMaps.insert_cases found with ⟨_, rfl⟩ | ⟨_, old⟩
        · simp [afterSection_target] at promised
        · exact Nat.le_trans ((counting process up).targets another held target old promised) grows
  | settled up phase =>
      refine parks up ?_
      rintro target ⟨rfl⟩
      exact Nat.le_refl _
  | clean up phase written => exact parks up (by simp [Phase.target?])
  | notified up phase =>
      refine parks up ?_
      rintro target ⟨rfl⟩
      exact Nat.le_refl _
  | @captured thread saved process own target reply up phase free =>
      refine parks up ?_
      rintro promised ⟨rfl⟩
      exact (counting process up).targets thread _ _ phase rfl
  | @wrote thread saved process own target snapshot reply up phase =>
      refine parks up ?_
      rintro promised ⟨rfl⟩
      exact (counting process up).targets thread _ _ phase rfl
  | @marked thread saved process own target reply up phase =>
      have bounded := (counting process up).targets thread _ _ phase rfl
      rintro other ⟨rfl⟩
      refine ⟨?_, ?_⟩
      · change (if _ then _ else _ : UInt64).toNat ≤ process.engine.persistEpoch.toNat
        split
        · exact bounded
        · exact (counting process up).clean
      · intro another held promised found answers
        rcases OrderedMaps.insert_cases found with ⟨_, rfl⟩ | ⟨_, old⟩
        · cases own <;> simp [Phase.target?] at answers
        · exact (counting process up).targets another held promised old answers
  | @returned thread saved process reply up phase =>
      rintro other ⟨rfl⟩
      refine ⟨(counting process up).clean, ?_⟩
      intro another held target found promised
      exact (counting process up).targets another held target
        (OrderedMaps.erase_cases found).2 promised
  | stopped up quiet =>
      rintro process ⟨⟩
  | crashed up =>
      rintro process ⟨⟩

theorem savings_step {recent : CoordinatorState → Prop} (savings : server.Savings recent)
    {move : ServerMove} {event : ServerEvent}
    (moved : server.step config move = some (event, next))
    (found : ∀ process, server.process = some process → recent process.engine.snapshot) :
    next.Savings recent := by
  have parks {process : CoordinatorProcess} {engine : Engine} {thread : Nat} {phase : Phase}
      {mutex : Option Nat} {files : List CoordinatorState} (up : server.process = some process)
      (covers : ∀ own target snapshot reply, phase = .saving own target snapshot reply →
        recent snapshot) :
      Savings recent ⟨files, some { process.park thread phase with
        engine, persistMutex := mutex }⟩ := by
    rintro other holder own target snapshot reply ⟨rfl⟩ present
    rcases OrderedMaps.insert_cases present with ⟨_, same⟩ | ⟨_, old⟩
    · exact covers own target snapshot reply same.symm
    · exact savings process holder own target snapshot reply up old
  have starts {engine : Engine} : (server.run { engine }).Savings recent := by
    rintro process holder own target snapshot reply ⟨rfl⟩ present
    exact (Engine.no_entry rfl present).elim
  cases step_effect moved with
  | refused down => exact savings
  | founded down empty => exact starts
  | resumed down disk decoded consistent => exact starts
  | called up idle online performed =>
      refine parks up ?_
      intro own target snapshot reply same
      exact absurd same (afterSection_idle _ _ _ _ own target snapshot reply)
  | settled up phase => exact parks up (by simp)
  | clean up phase written => exact parks up (by simp)
  | notified up phase => exact parks up (by simp)
  | @captured thread saved process own target reply up phase free =>
      refine parks up ?_
      rintro _ _ snapshot _ ⟨rfl⟩
      exact found process up
  | wrote up phase => exact parks up (by simp)
  | @marked thread saved process own target reply up phase =>
      refine parks up ?_
      cases own <;> simp
  | @returned thread saved process reply up phase =>
      rintro other holder own target snapshot reply ⟨rfl⟩ present
      exact savings process holder own target snapshot reply up (OrderedMaps.erase_cases present).2
  | stopped up quiet | crashed up =>
      rintro process thread own target snapshot reply ⟨⟩

/-- What a step writes is the snapshot a thread took, or that of the engine the step finds. -/
theorem written_recent {recent : CoordinatorState → Prop} (savings : server.Savings recent)
    {move : ServerMove} {event : ServerEvent}
    (moved : server.step config move = some (event, next))
    (found : ∀ process, server.process = some process → recent process.engine.snapshot) :
    next.files = server.files ∨
      ∃ snapshot, next.files = snapshot :: server.files ∧ recent snapshot := by
  have writes {saved : Bool} {snapshot : CoordinatorState} (held : recent snapshot) :
      (server.write saved snapshot).files = server.files ∨
        ∃ file, (server.write saved snapshot).files = file :: server.files ∧ recent file := by
    cases saved with
    | false => exact .inl rfl
    | true => exact .inr ⟨snapshot, rfl, held⟩
  cases step_effect moved with
  | @wrote thread saved process own target snapshot reply up phase =>
      exact writes (savings process thread own target snapshot reply up phase)
  | stopped up quiet => exact writes (found _ up)
  | refused _ | founded _ _ | resumed _ _ _ _ | called _ _ _ _ | settled _ _ | clean _ _ _
  | notified _ _ | captured _ _ _ | marked _ _ | returned _ _ | crashed _ => exact .inl rfl

theorem written_alone (exclusive : server.Exclusive) {move : ServerMove} {event : ServerEvent}
    (moved : server.step config move = some (event, next)) (written : next.files ≠ server.files)
    (recent : CoordinatorState → Prop) : next.Savings recent := by
  cases step_effect moved with
  | @wrote thread saved process own target snapshot reply up phase =>
      rintro other holder own target taken reply ⟨rfl⟩ present
      rcases OrderedMaps.insert_cases present with ⟨_, marking⟩ | ⟨apart, old⟩
      · simp at marking
      · have first := exclusive process up thread _ _ _ _ phase
        have second := exclusive process up holder _ _ _ _ old
        rw [first, Option.some.injEq] at second
        exact absurd second.symm apart
  | stopped up quiet =>
      rintro process thread own target snapshot reply ⟨⟩
  | refused _ | founded _ _ | resumed _ _ _ _ | called _ _ _ _ | settled _ _ | clean _ _ _
  | notified _ _ | captured _ _ _ | marked _ _ | returned _ _ | crashed _ => exact absurd rfl written

theorem secured_step {recent : CoordinatorState → Prop} (secured : server.Secured recent)
    {move : ServerMove} {event : ServerEvent}
    (moved : server.step config move = some (event, next))
    (found : ∀ process, server.process = some process → recent process.engine.snapshot) :
    next.Secured recent := by
  refine ⟨?_, savings_step secured.savings moved found⟩
  rcases written_recent secured.savings moved found with same | ⟨snapshot, written, held⟩
  · rw [disk, same]
    exact secured.disk
  · exact ⟨snapshot, by rw [disk, written, List.head?_cons], held⟩

/-- The mutations counted up to `mark` are not known to be secured yet, and the thread, which counted
the last of them, returns only when they are. -/
structure Awaiting (recent : CoordinatorState → Prop) (mark thread : Nat)
    (server : CoordinatorServer) (process : CoordinatorProcess) : Prop where
  up : server.process = some process
  counted : mark ≤ process.engine.persistEpoch.toNat
  clean : mark ≤ process.engine.persistCleanEpoch.toNat → server.Secured recent
  covers : ∀ (other : Nat) (phase : Phase), process.threads[other]? = some phase →
    phase.Covers recent mark (server.Secured recent)
  due : ∃ phase, process.threads[thread]? = some phase ∧ phase.Due mark (server.Secured recent)

theorem Awaiting.park {recent : CoordinatorState → Prop} {mark thread holder : Nat}
    {process : CoordinatorProcess} {phase : Phase} {engine : Engine} {mutex : Option Nat}
    (awaits : Awaiting recent mark thread server process)
    (up : next.process = some { process.park holder phase with engine, persistMutex := mutex })
    (later : server.Secured recent → next.Secured recent)
    (grown : process.engine.persistEpoch.toNat ≤ engine.persistEpoch.toNat)
    (clean : mark ≤ engine.persistCleanEpoch.toNat → next.Secured recent)
    (covers : phase.Covers recent mark (next.Secured recent))
    (due : holder = thread → phase.Due mark (next.Secured recent)) :
    Awaiting recent mark thread next
      { process.park holder phase with engine, persistMutex := mutex } := by
  refine ⟨up, Nat.le_trans awaits.counted grown, clean, ?_, ?_⟩
  · intro other held found
    rcases OrderedMaps.insert_cases found with ⟨rfl, rfl⟩ | ⟨_, old⟩
    · exact covers
    · exact (awaits.covers other held old).imp later
  · by_cases same : holder = thread
    · subst same
      exact ⟨phase, Std.ExtTreeMap.getElem?_insert_self, due rfl⟩
    · obtain ⟨held, found, owed⟩ := awaits.due
      refine ⟨held, ?_, owed.imp later⟩
      exact (OrderedMaps.getElem?_insert_ne _ _ (Ne.symm same)).trans found

theorem Awaiting.owes {recent : CoordinatorState → Prop} {mark thread : Nat}
    {process : CoordinatorProcess} {phase : Phase}
    (awaits : Awaiting recent mark thread server process)
    (found : process.threads[thread]? = some phase) :
    phase.Due mark (server.Secured recent) := by
  obtain ⟨held, present, due⟩ := awaits.due
  rw [present, Option.some.injEq] at found
  exact found ▸ due

theorem awaiting_step {recent : CoordinatorState → Prop} {mark thread : Nat}
    {process after : CoordinatorProcess} (awaits : Awaiting recent mark thread server process)
    (exclusive : server.Exclusive) {move : ServerMove} {event : ServerEvent}
    (moved : server.step config move = some (event, next)) (saves : move.saves = true)
    (unwrapped : ¬server.Wraps move) (found : recent process.engine.snapshot)
    (running : next.process = some after) :
    Awaiting recent mark thread next after ∨ next.Secured recent := by
  have later (secured : server.Secured recent) : next.Secured recent := by
    refine secured_step secured moved ?_
    intro other same
    rw [awaits.up, Option.some.injEq] at same
    exact same ▸ found
  have same {other : CoordinatorProcess} (up : server.process = some other) :
      other = process := by
    rw [awaits.up, Option.some.injEq] at up
    exact up.symm
  cases step_effect moved with
  | refused down | founded down _ | resumed down _ _ _ => cases awaits.up.symm.trans down
  | @called holder op _ reply engine up idle online performed =>
      cases same up
      cases running
      have grown : process.engine.persistEpoch.toNat ≤ engine.persistEpoch.toNat := by
        rcases counted_cases up performed unwrapped with kept | grown
        · rw [kept]
        · omega
      refine .inl (awaits.park rfl later grown ?_ ?_ ?_)
      · rw [(Engine.step_counts performed).clean]
        exact fun reached => later (awaits.clean reached)
      · unfold CoordinatorProcess.afterSection
        repeat' split
        all_goals trivial
      · rintro rfl
        obtain ⟨phase, present, _⟩ := awaits.due
        simp [idle] at present
  | settled up phase =>
      cases same up
      cases running
      exact .inl (awaits.park rfl later (Nat.le_refl _) (fun reached => later (awaits.clean reached))
        trivial fun _ => awaits.counted)
  | clean up phase written =>
      cases same up
      cases running
      refine .inl (awaits.park rfl later (Nat.le_refl _)
        (fun reached => later (awaits.clean reached)) trivial fun _ => ?_)
      have counted := awaits.counted
      rw [← written] at counted
      exact later (awaits.clean counted)
  | notified up phase =>
      cases same up
      cases running
      exact .inl (awaits.park rfl later (Nat.le_refl _) (fun reached => later (awaits.clean reached))
        trivial fun _ => awaits.counted)
  | @captured holder saved _ own target reply up phase free =>
      cases same up
      cases running
      refine .inl (awaits.park rfl later (Nat.le_refl _)
        (fun reached => later (awaits.clean reached)) (fun _ => found) ?_)
      rintro rfl
      exact awaits.owes phase
  | @wrote holder saved _ own target snapshot reply up phase =>
      cases same up
      cases saved with
      | false => simp [ServerMove.saves] at saves
      | true =>
          cases running
          -- The one thread that saves has just written a recent snapshot.
          have covered : mark ≤ target.toNat → Secured recent ((server.write true snapshot).run
              { process.park holder (.marking own target reply) with persistMutex := none }) := by
            intro reached
            refine ⟨⟨snapshot, rfl, awaits.covers holder _ phase reached⟩, ?_⟩
            exact written_alone exclusive moved (List.cons_ne_self _ _) recent
          refine .inl (awaits.park rfl later (Nat.le_refl _)
            (fun reached => later (awaits.clean reached)) covered ?_)
          rintro rfl
          exact awaits.owes phase
  | @marked holder saved _ own target reply up phase =>
      cases same up
      cases running
      have covered : mark ≤ target.toNat → server.Secured recent := awaits.covers holder _ phase
      refine .inl (awaits.park rfl later (Nat.le_refl _) ?_ ?_ ?_)
      · change mark ≤ (if _ then _ else _ : UInt64).toNat → _
        split
        · exact fun reached => later (covered reached)
        · exact fun reached => later (awaits.clean reached)
      · cases own <;> trivial
      · rintro rfl
        cases own
        · exact later (covered (awaits.owes phase))
        · trivial
  | @returned holder saved _ reply up phase =>
      cases same up
      cases running
      by_cases returns : holder = thread
      · subst returns
        exact .inr (later (awaits.owes phase))
      · refine .inl ⟨rfl, awaits.counted, fun reached => later (awaits.clean reached), ?_, ?_⟩
        · intro other held present
          exact (awaits.covers other held (OrderedMaps.erase_cases present).2).imp later
        · obtain ⟨held, present, due⟩ := awaits.due
          refine ⟨held, ?_, due.imp later⟩
          exact (OrderedMaps.getElem?_erase_ne _ (Ne.symm returns)).trans present
  | stopped up quiet => cases running
  | crashed up => cases running

theorem called_awaiting {recent : CoordinatorState → Prop} {process : CoordinatorProcess}
    {thread : Nat} {op : Op} {event : ServerEvent} (counting : server.Counting)
    (up : server.process = some process)
    (moved : server.step config (.call thread op) = some (event, next))
    (unwrapped : ¬server.Wraps (.call thread op)) {after : CoordinatorProcess}
    (running : next.process = some after)
    (counted : after.engine.persistEpoch ≠ process.engine.persistEpoch)
    (notifies : ∀ reply, after.threads[thread]? ≠ some (.returning reply)) :
    Awaiting recent after.engine.persistEpoch.toNat thread next after := by
  cases step_effect moved with
  | @called _ _ other reply engine serves idle online performed =>
      rw [up, Option.some.injEq] at serves
      subst serves
      cases running
      have grown : engine.persistEpoch.toNat = process.engine.persistEpoch.toNat + 1 :=
        (counted_cases up performed unwrapped).resolve_left counted
      have bounded := counting process up
      have clean : engine.persistCleanEpoch = process.engine.persistCleanEpoch :=
        (Engine.step_counts performed).clean
      refine ⟨rfl, Nat.le_refl _, ?_, ?_, ?_⟩
      · intro reached
        change engine.persistEpoch.toNat ≤ engine.persistCleanEpoch.toNat at reached
        have older := bounded.clean
        rw [clean] at reached
        omega
      · intro other phase found
        rcases OrderedMaps.insert_cases found with ⟨_, rfl⟩ | ⟨_, old⟩
        · unfold CoordinatorProcess.afterSection
          repeat' split
          all_goals trivial
        · cases phase with
          | saving own target snapshot reply =>
              intro reached
              have older := bounded.targets other _ target old rfl
              change engine.persistEpoch.toNat ≤ target.toNat at reached
              omega
          | marking own target reply =>
              intro reached
              have older := bounded.targets other _ target old rfl
              change engine.persistEpoch.toNat ≤ target.toNat at reached
              omega
          | settling reply | notifying reply | listening own target reply | returning reply =>
              trivial
      · refine ⟨_, Std.ExtTreeMap.getElem?_insert_self, ?_⟩
        have idle := afterSection_target process.engine engine op reply
        cases reached : CoordinatorProcess.afterSection process.engine engine op reply with
        | settling answer | notifying answer => trivial
        | returning answer =>
            refine absurd ?_ (notifies answer)
            rw [← reached]
            exact Std.ExtTreeMap.getElem?_insert_self
        | listening own target answer | saving own target snapshot answer
        | marking own target answer => simp [reached, Phase.target?] at idle

theorem run_exclusive {trace : List ServerStep} {final : CoordinatorServer}
    (run : ServerRun config trace final) : final.Exclusive := by
  refine run.invariant Exclusive (fun _ _ _ _ exclusive moved => exclusive_step exclusive moved) ?_
  rintro process ⟨⟩

theorem run_counting {trace : List ServerStep} {final : CoordinatorServer}
    (run : ServerRun config trace final) (room : ∀ step ∈ trace, ¬step.before.Wraps step.input) :
    final.Counting := by
  refine run.guarded Counting (fun step => ¬step.before.Wraps step.input)
    (fun step counting unwrapped moved => counting_step counting moved unwrapped) ?_ room
  rintro process ⟨⟩

theorem run_savings {recent : CoordinatorState → Prop} {trace : List ServerStep}
    {start final : CoordinatorServer} (run : Run (step config) start trace final)
    (initially : start.Savings recent)
    (found : ∀ step ∈ trace, ∀ process, step.before.process = some process →
      recent process.engine.snapshot) : final.Savings recent :=
  run.guarded (Savings recent)
    (fun step => ∀ process, step.before.process = some process → recent process.engine.snapshot)
    (fun _ savings allowed moved => savings_step savings moved allowed) initially found

theorem run_keeps_secured {recent : CoordinatorState → Prop} {trace : List ServerStep}
    {start final : CoordinatorServer} (run : Run (step config) start trace final)
    (initially : start.Secured recent)
    (found : ∀ step ∈ trace, ∀ process, step.before.process = some process →
      recent process.engine.snapshot) : final.Secured recent :=
  run.guarded (Secured recent)
    (fun step => ∀ process, step.before.process = some process → recent process.engine.snapshot)
    (fun _ secured allowed moved => secured_step secured moved allowed) initially found

/-- While the process runs, the thread keeps awaiting the write until the mutations are secured. -/
theorem run_awaiting {recent : CoordinatorState → Prop} {mark thread : Nat}
    {trace : List ServerStep} {start final : CoordinatorServer}
    (run : Run (step config) start trace final)
    (initially : (∃ process, Awaiting recent mark thread start process) ∨ start.Secured recent)
    (exclusive : start.Exclusive)
    (condition : ∀ step ∈ trace, step.input.saves = true ∧ ¬step.before.Wraps step.input ∧
      step.after.process.isSome = true ∧ ∀ process, step.before.process = some process →
        recent process.engine.snapshot) :
    (∃ process, Awaiting recent mark thread final process) ∨ final.Secured recent := by
  have kept := run.guarded
    (fun server => server.Exclusive ∧
      ((∃ process, Awaiting recent mark thread server process) ∨ server.Secured recent))
    _ ?_ ⟨exclusive, initially⟩ condition
  · exact kept.2
  · rintro step ⟨exclusive, awaits | secured⟩ ⟨saves, unwrapped, running, found⟩ moved
    · obtain ⟨process, awaits⟩ := awaits
      obtain ⟨after, up⟩ := Option.isSome_iff_exists.mp running
      have next := awaiting_step awaits exclusive moved saves unwrapped (found process awaits.up) up
      exact ⟨exclusive_step exclusive moved, next.imp_left fun held => ⟨after, held⟩⟩
    · exact ⟨exclusive_step exclusive moved, .inr (secured_step secured moved found)⟩

end CoordinatorServer

def Found (steps : List ServerStep) (snapshot : CoordinatorState) : Prop :=
  ∃ step ∈ steps, ∃ process, step.before.process = some process ∧
    process.engine.snapshot = snapshot

/-- The operations that hand a counted mutation to `notify_change`. -/
def Op.notifies : Op → Bool
  | .commit _ _ | .reload _ => false
  | _ => true

/-- The critical section of a call that counts a mutation. -/
structure Mutates (call : ServerStep) (thread : Nat) : Prop where
  asked : ∃ op, call.input = .call thread op ∧ op.notifies = true
  counted : ∃ before after, call.before.process = some before ∧ call.after.process = some after ∧
    after.engine.persistEpoch ≠ before.engine.persistEpoch

def Returns (answer : ServerStep) (thread : Nat) : Prop :=
  ∃ saved reply, answer.input = .proceed thread saved ∧ answer.output = .answered reply

def Writes (step : ServerStep) (snapshot : CoordinatorState) : Prop :=
  step.after.files = snapshot :: step.before.files

namespace CoordinatorServer

variable {config : EngineConfig} {server next : CoordinatorServer}

theorem afterSection_counted {before after : Engine} {op : Op} {reply : Reply}
    (notifies : op.notifies = true) (counted : after.persistEpoch ≠ before.persistEpoch) :
    CoordinatorProcess.afterSection before after op reply = .notifying reply := by
  cases op with
  | commit plan now => cases notifies
  | reload advance => cases notifies
  | _ => exact if_neg counted

theorem mutates_notifying {call : ServerStep} {thread : Nat} (mutates : Mutates call thread)
    (moved : call.before.step config call.input = some (call.output, call.after))
    {after : CoordinatorProcess} (running : call.after.process = some after) (reply : Reply) :
    after.threads[thread]? ≠ some (.returning reply) := by
  obtain ⟨op, input, notifies⟩ := mutates.asked
  obtain ⟨process, other, up, serves, counted⟩ := mutates.counted
  cases serves.symm.trans running
  rw [input] at moved
  generalize call.output = event, call.after = next at moved running
  cases step_effect moved with
  | @called _ _ former answer engine found idle online performed =>
      cases up.symm.trans found
      cases running
      intro returned
      have parked : (process.threads.insert thread (CoordinatorProcess.afterSection process.engine
          engine op answer))[thread]? = some (.returning reply) := returned
      rw [afterSection_counted notifies counted, Std.ExtTreeMap.getElem?_insert_self] at parked
      cases parked

theorem return_secured {recent : CoordinatorState → Prop} {mark thread : Nat}
    {process : CoordinatorProcess} (awaits : Awaiting recent mark thread server process)
    {saved : Bool} {reply : Reply}
    (moved : server.step config (.proceed thread saved) = some (.answered reply, next)) :
    server.Secured recent := by
  cases step_effect moved with
  | returned up phase =>
      cases awaits.up.symm.trans up
      exact awaits.owes phase

/-- Once the call has returned, the file holds what some later step found in memory. -/
theorem mutation_written {past between future : List ServerStep} {call answer : ServerStep}
    {thread : Nat} {final : CoordinatorServer}
    (run : ServerRun config (past ++ call :: (between ++ answer :: future)) final)
    (saves : ∀ step ∈ past ++ call :: (between ++ answer :: future), step.input.saves = true)
    (room : ∀ step ∈ past ++ call :: (between ++ answer :: future),
      ¬step.before.Wraps step.input)
    (mutates : Mutates call thread) (alive : ∀ step ∈ between, step.after.process.isSome = true)
    (returns : Returns answer thread) :
    final.Secured (Found (between ++ answer :: future)) := by
  obtain ⟨before, called, rest⟩ := run.cut
  obtain ⟨window, answered, later⟩ := rest.cut
  simp only [List.forall_mem_append, List.forall_mem_cons] at saves room
  have found (step : ServerStep) (inside : step ∈ between ++ answer :: future)
      (process : CoordinatorProcess) (up : step.before.process = some process) :
      Found (between ++ answer :: future) process.engine.snapshot :=
    ⟨step, inside, process, up, rfl⟩
  obtain ⟨op, input, _⟩ := mutates.asked
  obtain ⟨process, after, up, running, counted⟩ := mutates.counted
  have notifies := mutates_notifying mutates called running
  have unwrapped := room.2.1
  have exclusive := exclusive_step (run_exclusive before) called
  rw [input] at called unwrapped
  have awaits : Awaiting (Found (between ++ answer :: future)) after.engine.persistEpoch.toNat
      thread call.after after :=
    called_awaiting (run_counting before room.1) up called unwrapped running counted notifies
  have reached := run_awaiting window (.inl ⟨after, awaits⟩) exclusive fun step inside =>
    ⟨saves.2.2.1 step inside, room.2.2.1 step inside, alive step inside,
      found step (List.mem_append_left _ inside)⟩
  have secured : answer.before.Secured (Found (between ++ answer :: future)) := by
    rcases reached with ⟨held, awaits⟩ | secured
    · obtain ⟨saved, reply, proceeds, replied⟩ := returns
      rw [proceeds, replied] at answered
      exact return_secured awaits answered
    · exact secured
  have answering : answer ∈ between ++ answer :: future := by simp
  refine run_keeps_secured later (secured_step secured answered (found answer answering)) ?_
  intro step inside
  exact found step (by simp [inside])

theorem written_after {past between future : List ServerStep} {first second : ServerStep}
    {older newer : CoordinatorState} {final : CoordinatorServer}
    (run : ServerRun config (past ++ first :: (between ++ second :: future)) final)
    (writes : Writes first older) (rewrites : Writes second newer) :
    Found (past ++ [first]) older ∧ Found (between ++ [second]) newer := by
  obtain ⟨before, wrote, rest⟩ := run.cut
  obtain ⟨window, rewrote, _⟩ := rest.cut
  have written {recent : CoordinatorState → Prop} {step : ServerStep} {snapshot : CoordinatorState}
      (held : Writes step snapshot)
      (stored : step.after.files = step.before.files ∨
        ∃ file, step.after.files = file :: step.before.files ∧ recent file) : recent snapshot := by
    unfold Writes at held
    rcases stored with same | ⟨file, wrote, fresh⟩
    · have length := congrArg List.length (held.symm.trans same)
      simp at length
    · rw [held, List.cons.injEq] at wrote
      exact wrote.1 ▸ fresh
  constructor
  · have found (step : ServerStep) (inside : step ∈ past ++ [first])
        (process : CoordinatorProcess) (up : step.before.process = some process) :
        Found (past ++ [first]) process.engine.snapshot := ⟨step, inside, process, up, rfl⟩
    have savings := run_savings before (by rintro process _ _ _ _ _ ⟨⟩) fun step inside =>
      found step (List.mem_append_left _ inside)
    exact written writes (written_recent savings wrote (found first (by simp)))
  · have found (step : ServerStep) (inside : step ∈ between ++ [second])
        (process : CoordinatorProcess) (up : step.before.process = some process) :
        Found (between ++ [second]) process.engine.snapshot := ⟨step, inside, process, up, rfl⟩
    have replaced : first.after.files ≠ first.before.files := by
      intro same
      have length := congrArg List.length (writes.symm.trans same)
      simp at length
    have alone := written_alone (run_exclusive before) wrote replaced (Found (between ++ [second]))
    have savings := run_savings window alone fun step inside =>
      found step (List.mem_append_left _ inside)
    exact written rewrites (written_recent savings rewrote (found second (by simp)))

/-- In every run in which every write succeeds, every write holds a state found in memory after the
write before it; and as long as the counter of mutations does not wrap, the file holds a state found
in memory since the mutation once a call that counted one has returned. -/
theorem run_mutations_written {trace : List ServerStep} {final : CoordinatorServer}
    (run : ServerRun config trace final) (saves : ∀ step ∈ trace, step.input.saves = true) :
    ((∀ step ∈ trace, ¬step.before.Wraps step.input) →
      ∀ (past between future : List ServerStep) (call answer : ServerStep) (thread : Nat),
        trace = past ++ call :: (between ++ answer :: future) → Mutates call thread →
        (∀ step ∈ between, step.after.process.isSome = true) → Returns answer thread →
        ∃ snapshot, final.disk = some snapshot ∧ Found (between ++ answer :: future) snapshot) ∧
    ∀ (past between future : List ServerStep) (first second : ServerStep)
      (older newer : CoordinatorState),
      trace = past ++ first :: (between ++ second :: future) → Writes first older →
      Writes second newer → Found (past ++ [first]) older ∧ Found (between ++ [second]) newer := by
  constructor
  · rintro room past between future call answer thread rfl mutates alive returns
    exact (mutation_written run saves room mutates alive returns).disk
  · rintro past between future first second older newer rfl writes rewrites
    exact written_after run writes rewrites

def mutatesBy (thread : Nat) (step : ServerStep) : Bool :=
  match step.input with
  | .call caller op => caller == thread && op.notifies &&
      step.before.process.any fun before => step.after.process.any fun after =>
        after.engine.persistEpoch != before.engine.persistEpoch
  | _ => false

theorem mutatesBy_sound {thread : Nat} {step : ServerStep}
    (checked : mutatesBy thread step = true) : Mutates step thread := by
  unfold mutatesBy at checked
  split at checked
  · rename_i caller op input
    simp only [Bool.and_eq_true, beq_iff_eq, Option.any_eq_true, bne_iff_ne] at checked
    obtain ⟨⟨rfl, notifies⟩, before, up, after, running, counted⟩ := checked
    exact ⟨⟨op, input, notifies⟩, before, after, up, running, counted⟩
  · cases checked

def returnsFrom (thread : Nat) (step : ServerStep) : Bool :=
  match step.input, step.output with
  | .proceed caller _, .answered _ => caller == thread
  | _, _ => false

theorem returnsFrom_sound {thread : Nat} {step : ServerStep}
    (checked : returnsFrom thread step = true) : Returns step thread := by
  unfold returnsFrom at checked
  split at checked
  · rename_i caller saved reply input output
    rw [beq_iff_eq] at checked
    subst checked
    exact ⟨saved, reply, input, output⟩
  · cases checked

def servesMutation (trace : List ServerStep) : Bool :=
  (trace.all fun step => unhurried step && step.input.saves) && match trace with
    | [_, call, first, second, third, fourth, answer] =>
        mutatesBy 1 call && returnsFrom 1 answer &&
          [first, second, third, fourth].all fun step => step.after.process.isSome
    | _ => false

theorem run_mutations_written_published :
    ∃ (past between : List ServerStep) (call answer : ServerStep) (final : CoordinatorServer)
      (snapshot : CoordinatorState), ServerRun {} (past ++ call :: (between ++ [answer])) final ∧
        Mutates call 1 ∧ Returns answer 1 ∧ final.disk = some snapshot ∧
        Found (between ++ [answer]) snapshot := by
  have evaluated : (play (step {}) {} ((fun _ => .start 1 2) ::
      serves (fun _ => .publishPolicy Engine.directPolicy) (List.replicate 5 true))).any
        (fun played => servesMutation played.1) = true := by
    decide +kernel
  obtain ⟨trace, final, run, checked⟩ := run_of_checked evaluated
  simp only [servesMutation, Bool.and_eq_true, List.all_eq_true] at checked
  obtain ⟨quiet, shape⟩ := checked
  have room : ∀ step ∈ trace, ¬step.before.Wraps step.input := by
    intro step inside wraps
    exact unhurried_sound (quiet step inside).1 (.inr (.inr (.inr wraps)))
  have written := run_mutations_written run (fun step inside => (quiet step inside).2)
  split at shape
  · rename_i start call first second third fourth answer
    simp only [Bool.and_eq_true, List.all_eq_true] at shape
    obtain ⟨⟨mutates, returns⟩, alive⟩ := shape
    obtain ⟨snapshot, top, found⟩ := written.1 room [start] [first, second, third, fourth] [] call answer
      1 rfl (mutatesBy_sound mutates) alive (returnsFrom_sound returns)
    exact ⟨[start], [first, second, third, fourth], call, answer, final, snapshot, run,
      mutatesBy_sound mutates, returnsFrom_sound returns, top, found⟩
  · cases shape

variable {files : List CoordinatorState} {engine : Engine} {phase : Phase} {mutex : Option Nat}
  {reply : Reply}

def lone (engine : Engine) (mutex : Option Nat) (phase : Phase) : CoordinatorProcess :=
  { engine, persistMutex := mutex, threads := (∅ : OrderedMap Nat Phase).insert 1 phase }

def idle (files : List CoordinatorState) (engine : Engine) : CoordinatorServer :=
  { files, process := some { engine } }

def busy (files : List CoordinatorState) (engine : Engine) (mutex : Option Nat) (phase : Phase) :
    CoordinatorServer :=
  { files, process := some (lone engine mutex phase) }

theorem busy_proceeds (saved : Bool) :
    (busy files engine mutex phase).step config (.proceed 1 saved) =
      (busy files engine mutex phase).proceed (lone engine mutex phase) 1 saved phase := by
  simp only [step, busy, lone]
  rw [Std.ExtTreeMap.getElem?_insert_self]
  rfl

@[simp] theorem lone_engine : (lone engine mutex phase).engine = engine := rfl

theorem lone_park (later : Phase) :
    (lone engine mutex phase).park 1 later = lone engine mutex later := by
  unfold CoordinatorProcess.park lone
  rw [OrderedMaps.insert_insert]

theorem lone_shared (alone : phase.shares = false) : (lone engine mutex phase).shared = false := by
  unfold CoordinatorProcess.shared
  rw [List.any_eq_false]
  intro entry inside
  have present := Std.ExtTreeMap.mem_toList_iff_getElem?_eq_some.mp inside
  rcases OrderedMaps.insert_cases present with ⟨_, same⟩ | ⟨_, old⟩
  · simp [same, alone]
  · exact (Engine.no_entry rfl old).elim

theorem busy_notifies (behind : engine.persistCleanEpoch ≠ engine.persistEpoch) :
    (busy files engine none (.notifying reply)).step config (.proceed 1 true) =
      some (.working, busy files engine none (.listening false engine.persistEpoch reply)) := by
  have apart : (lone engine none (.notifying reply)).shared = false := lone_shared rfl
  rw [busy_proceeds, proceed, apart, lone_park, lone_park]
  simp only [Bool.false_eq_true, lone_engine, behind, if_false]
  rfl

theorem busy_skips (written : engine.persistCleanEpoch = engine.persistEpoch) :
    (busy files engine none (.notifying reply)).step config (.proceed 1 true) =
      some (.working, busy files engine none (.returning reply)) := by
  have apart : (lone engine none (.notifying reply)).shared = false := lone_shared rfl
  rw [busy_proceeds, proceed, apart, lone_park]
  simp only [Bool.false_eq_true, lone_engine, written, if_true, if_false]
  rfl

theorem busy_captures (target : UInt64) :
    (busy files engine none (.listening false target reply)).step config (.proceed 1 true) =
      some (.working, busy files engine (some 1)
        (.saving false target engine.snapshot reply)) := by
  rw [busy_proceeds, proceed, lone_park]
  rfl

theorem busy_writes (target : UInt64) (snapshot : CoordinatorState) :
    (busy files engine (some 1) (.saving false target snapshot reply)).step config
      (.proceed 1 true) =
        some (.working, busy (snapshot :: files) engine none (.marking false target reply)) := by
  rw [busy_proceeds, proceed, lone_park]
  rfl

theorem busy_marks (target : UInt64) :
    (busy files engine none (.marking false target reply)).step config (.proceed 1 true) =
      some (.working, busy files (engine.markClean target) none (.returning reply)) := by
  have apart : (lone engine none (.marking false target reply)).shared = false := lone_shared rfl
  rw [busy_proceeds, proceed, apart, lone_park]
  rfl

theorem busy_returns :
    (busy files engine none (.returning reply)).step config (.proceed 1 true) =
      some (.answered reply, idle files engine) := by
  have emptied : (lone engine none (.returning reply)).threads.erase 1 = ∅ := by
    apply Std.ExtTreeMap.ext_getElem?
    intro thread
    by_cases same : thread = 1
    · subst same
      simp [lone]
    · rw [OrderedMaps.getElem?_erase_ne _ same]
      exact OrderedMaps.getElem?_insert_ne _ _ same
  rw [busy_proceeds, proceed, emptied]
  rfl

theorem notifies_online {op : Op} (notifies : op.notifies = true) : op.online = true := by
  cases op with
  | reload advance => cases notifies
  | _ => rfl

theorem idle_calls {op : Op} {next : Engine} (online : op.online = true)
    (moved : engine.step op = some (reply, next)) :
    (idle files engine).step config (.call 1 op) =
      some (.working, busy files next none
        (CoordinatorProcess.afterSection engine next op reply)) := by
  have free : (∅ : OrderedMap Nat Phase).contains 1 = false := Std.ExtTreeMap.contains_empty
  simp only [step, idle, free, online, Bool.not_true, Bool.or_self, Bool.false_eq_true, if_false,
    moved, Option.map_some]
  rfl

theorem call_written {op : Op} {next : Engine} (notifies : op.notifies = true)
    (moved : engine.step op = some (reply, next))
    (counted : next.persistEpoch ≠ engine.persistEpoch)
    (behind : next.persistCleanEpoch ≠ next.persistEpoch) :
    ∃ trace, Run (step config) (idle files engine) trace
        (idle (next.snapshot :: files) (next.markClean next.persistEpoch)) ∧
      ∀ step ∈ trace, step.input.saves = true := by
  have called := @idle_calls config files engine reply op next (notifies_online notifies) moved
  rw [afterSection_counted notifies counted] at called
  refine ⟨_, .cons called (.cons (busy_notifies behind) (.cons (busy_captures _)
    (.cons (busy_writes _ _) (.cons (busy_marks _) (.cons busy_returns (.nil _)))))), ?_⟩
  simp [ServerMove.saves]

theorem call_skipped {op : Op} {next : Engine} (notifies : op.notifies = true)
    (moved : engine.step op = some (reply, next))
    (counted : next.persistEpoch ≠ engine.persistEpoch)
    (level : next.persistCleanEpoch = next.persistEpoch) :
    ∃ call skip answer, Run (step config) (idle files engine) [call, skip, answer]
        (idle files next) ∧ (∀ step ∈ [call, skip, answer], step.input.saves = true) ∧
      Mutates call 1 ∧ skip.after.process.isSome = true ∧ Returns answer 1 ∧
      ∀ step ∈ [skip, answer], ∀ process, step.before.process = some process →
        process.engine = next := by
  have called := @idle_calls config files engine reply op next (notifies_online notifies) moved
  rw [afterSection_counted notifies counted] at called
  refine ⟨_, _, _, .cons called (.cons (busy_skips level) (.cons busy_returns (.nil _))), ?_,
    ⟨⟨op, rfl, notifies⟩, _, _, rfl, rfl, counted⟩, rfl, ⟨true, reply, rfl, rfl⟩, ?_⟩
  · simp [ServerMove.saves]
  · intro step inside process up
    simp only [List.mem_cons, List.not_mem_nil, or_false] at inside
    rcases inside with rfl | rfl
    · cases up
      rfl
    · cases up
      rfl

def vetoes : Op := .setSecurityVeto ⟨0, 5⟩ true []

def vetoed (clean epoch : UInt64) : Engine :=
  let engine := Engine.create {} ⟨1⟩ 1 2
  { engine with
    state := { engine.state with
      vetoes := (∅ : OrderedMap ArtifactId VetoState).insert ⟨0, 5⟩ { securityVeto := true } }
    persistEpoch := epoch, persistCleanEpoch := clean }

theorem vetoes_answered {engine : Engine} {clean epoch : UInt64}
    (raised : engine.setSecurityVeto ⟨0, 5⟩ true [] = (.ok (), vetoed clean epoch)) :
    engine.step vetoes = some (.vetoed (.ok ()), vetoed clean epoch) := by
  have roomy : (vetoed clean epoch).representable = true := by
    have created : (Engine.create {} ⟨1⟩ 1 2).representable = true := by decide +kernel
    exact created
  simp only [Engine.step, Engine.perform, vetoes, raised, Engine.answerWith, Option.filter_some,
    roomy, if_true]

theorem vetoed_step (clean epoch : UInt64) :
    (vetoed clean epoch).step vetoes = some (.vetoed (.ok ()), vetoed clean (epoch + 1)) := by
  have kept : (vetoed clean epoch).state.vetoes.insert ⟨0, 5⟩
      { (vetoed clean epoch).state.vetoes.getD ⟨0, 5⟩ {} with
        securityVeto := true, securityReason := boundedText [] kMaxTextLength } =
      (vetoed clean epoch).state.vetoes := by
    simp only [vetoed, Std.ExtTreeMap.getD_insert_self, OrderedMaps.insert_insert]
    rfl
  apply vetoes_answered
  simp only [Engine.setSecurityVeto, Engine.setVeto, kept]
  rfl

theorem created_step :
    (Engine.create {} ⟨1⟩ 1 2).step vetoes = some (.vetoed (.ok ()), vetoed 0 1) := by
  have unset : (Engine.create {} ⟨1⟩ 1 2).state.vetoes.getD ⟨0, 5⟩ {} = {} :=
    Std.ExtTreeMap.getD_empty
  apply vetoes_answered
  simp only [Engine.setSecurityVeto, Engine.setVeto, unset]
  rfl

/-- Where repeated vetoes have brought the counters. -/
def Reaches (clean epoch : UInt64) : Prop :=
  ∃ trace files, ServerRun {} trace (idle ((vetoed 0 0).snapshot :: files) (vetoed clean epoch)) ∧
    ∀ step ∈ trace, step.input.saves = true

theorem Reaches.advance {clean epoch : UInt64} (reaches : Reaches clean epoch)
    (behind : clean ≠ epoch + 1) :
    Reaches (if epoch + 1 > clean then epoch + 1 else clean) (epoch + 1) := by
  obtain ⟨trace, files, run, saves⟩ := reaches
  obtain ⟨more, calls, saved⟩ := @call_written {} ((vetoed 0 0).snapshot :: files)
    (vetoed clean epoch) (.vetoed (.ok ())) vetoes _ rfl (vetoed_step clean epoch)
    (by simp [vetoed]) behind
  refine ⟨trace ++ more, _, run.append calls, ?_⟩
  intro step inside
  exact (List.mem_append.mp inside).elim (saves step) (saved step)

theorem reaches_first : Reaches 1 1 := by
  have started : step {} {} (.start 1 2) =
      some (.started (.ok ()), idle [] (Engine.create {} ⟨1⟩ 1 2)) := rfl
  have counted : (vetoed 0 1).persistEpoch ≠ (Engine.create {} ⟨1⟩ 1 2).persistEpoch :=
    show (1 : UInt64) ≠ 0 by decide
  obtain ⟨trace, calls, saves⟩ := @call_written {} [] (Engine.create {} ⟨1⟩ 1 2) (.vetoed (.ok ()))
    vetoes _ rfl created_step counted (show (0 : UInt64) ≠ 1 by decide)
  refine ⟨_ :: trace, _, .cons started calls, ?_⟩
  intro step inside
  rcases List.mem_cons.mp inside with rfl | later
  · rfl
  · exact saves step later

theorem reaches_climbing (count : Nat) (small : count + 1 < 2 ^ 64) :
    Reaches (.ofNat (count + 1)) (.ofNat (count + 1)) := by
  induction count with
  | zero => exact reaches_first
  | succ count ih =>
      have next : UInt64.ofNat (count + 1) + 1 = .ofNat (count + 1 + 1) :=
        (UInt64.ofNat_add _ _).symm
      have below : UInt64.ofNat (count + 1) < .ofNat (count + 1 + 1) := by
        rw [UInt64.lt_iff_toNat_lt, UInt64.toNat_ofNat', UInt64.toNat_ofNat']
        omega
      have reached := (ih (by omega)).advance (by rw [next]; exact UInt64.ne_of_lt below)
      rwa [next, if_pos below] at reached

theorem reaches_again (count : Nat) (small : count + 1 < 2 ^ 64) :
    Reaches (.ofNat (2 ^ 64 - 1)) (.ofNat count) := by
  induction count with
  | zero =>
      have last := reaches_climbing (2 ^ 64 - 2) (by omega)
      exact last.advance (by decide)
  | succ count ih =>
      have next : UInt64.ofNat count + 1 = .ofNat (count + 1) := (UInt64.ofNat_add _ _).symm
      have below : UInt64.ofNat (count + 1) < .ofNat (2 ^ 64 - 1) := by
        rw [UInt64.lt_iff_toNat_lt, UInt64.toNat_ofNat', UInt64.toNat_ofNat']
        omega
      have reached := (ih (by omega)).advance (by rw [next]; exact (UInt64.ne_of_lt below).symm)
      rwa [next, if_neg (UInt64.not_lt.mpr (UInt64.le_of_lt below))] at reached

def lastVeto : Op := .setSecurityVeto ⟨0, 6⟩ true []

def vetoedTwice (clean epoch : UInt64) : Engine :=
  let engine := vetoed clean epoch
  { engine with
    state := { engine.state with
      vetoes := engine.state.vetoes.insert ⟨0, 6⟩ { securityVeto := true } } }

theorem lastVeto_step (clean epoch : UInt64) :
    (vetoed clean epoch).step lastVeto = some (.vetoed (.ok ()), vetoedTwice clean (epoch + 1)) := by
  have unset : (vetoed clean epoch).state.vetoes.getD ⟨0, 6⟩ {} = {} := by
    simp only [vetoed]
    decide +kernel
  have roomy : (vetoedTwice clean (epoch + 1)).representable = true := by
    have created : (Engine.create {} ⟨1⟩ 1 2).representable = true := by decide +kernel
    exact created
  have raised : (vetoed clean epoch).setSecurityVeto ⟨0, 6⟩ true [] =
      (.ok (), vetoedTwice clean (epoch + 1)) := by
    simp only [Engine.setSecurityVeto, Engine.setVeto, unset]
    rfl
  simp only [Engine.step, Engine.perform, lastVeto, raised, Engine.answerWith, Option.filter_some,
    roomy, if_true]

/-- After `2 ^ 65 - 2` mutations the counter comes back to what was marked, and the next mutation is
answered without being written. -/
theorem wrapped_mutation_unwritten :
    ¬∀ (trace : List ServerStep) (final : CoordinatorServer), ServerRun {} trace final →
      (∀ step ∈ trace, step.input.saves = true) →
      ∀ past between future call answer thread,
        trace = past ++ call :: (between ++ answer :: future) → Mutates call thread →
        (∀ step ∈ between, step.after.process.isSome = true) → Returns answer thread →
        ∃ snapshot, final.disk = some snapshot ∧ Found (between ++ answer :: future) snapshot := by
  intro written
  obtain ⟨trace, files, run, saves⟩ := reaches_again (2 ^ 64 - 2) (by omega)
  let clean : UInt64 := .ofNat (2 ^ 64 - 1)
  let epoch : UInt64 := .ofNat (2 ^ 64 - 2)
  have counted : (vetoedTwice clean (epoch + 1)).persistEpoch ≠ (vetoed clean epoch).persistEpoch :=
    show epoch + 1 ≠ epoch by decide
  have level : (vetoedTwice clean (epoch + 1)).persistCleanEpoch =
      (vetoedTwice clean (epoch + 1)).persistEpoch := show clean = epoch + 1 by decide
  obtain ⟨call, skip, answer, calls, saved, mutates, alive, returns, finds⟩ :=
    @call_skipped {} ((vetoed 0 0).snapshot :: files) _ _ lastVeto _ rfl
      (lastVeto_step clean epoch) counted level
  obtain ⟨snapshot, top, step, inside, process, up, same⟩ :=
    written _ _ (run.append calls) (List.forall_mem_append.mpr ⟨saves, saved⟩) trace [skip] []
      call answer 1 rfl mutates (by simpa using alive) returns
  have stored : (vetoed 0 0).snapshot = snapshot := Option.some.inj top
  rw [finds step inside process up, ← stored] at same
  have known := congrArg (fun state : CoordinatorState => state.vetoes.contains ⟨0, 6⟩) same
  revert known
  decide +kernel

end CoordinatorServer

end ArtifactPromotion
