import ArtifactPromotion.Distributed.Coordinator

/-! Which transition records a saved file holds when a call is answered. -/

namespace ArtifactPromotion

open Runs

theorem PromotionRecord.restored_restored (record : PromotionRecord) :
    record.restored.restored = record.restored := by
  simp [PromotionRecord.restored, List.take_take]

def Holds (records : OrderedMap TransitionId PromotionRecord) (record : PromotionRecord) : Prop :=
  ∃ stored, records[record.transition]? = some stored ∧ stored.restored = record.restored

def Kept (files : List CoordinatorState) (record : PromotionRecord) : Prop :=
  ∃ snapshot ∈ files, Holds snapshot.records record

def Carried (files : List CoordinatorState) (records : OrderedMap TransitionId PromotionRecord)
    (record : PromotionRecord) : Prop :=
  Kept files record ∨ Holds records record

namespace Reply

def promoted? : Reply → Option PromotionRecord
  | .committed (.ok result) =>
      if result.outcome = .promotionCommitted then some result.record else none
  | _ => none

def reported? : Reply → Option PromotionRecord
  | .mutated (.ok result) =>
      if result.outcome = .promotionCommitted && result.hasRecord then some result.record else none
  | _ => none

def replayed? : Reply → Option PromotionDecisionId
  | .evaluated (.ok result) =>
      if result.decision.outcome = .promotionCommitted then some result.decision.id else none
  | _ => none

end Reply

namespace Phase

def reply : Phase → Reply
  | settling reply | notifying reply | listening _ _ reply | saving _ _ _ reply
  | marking _ _ reply | returning reply => reply

def unwritten : Phase → Option PromotionRecord
  | settling reply | listening true _ reply | saving true _ _ reply => reply.promoted?
  | _ => none

end Phase

def InFlight (threads : OrderedMap Nat Phase) (record : PromotionRecord) : Prop :=
  ∃ (thread : Nat) (phase : Phase), threads[thread]? = some phase ∧
    phase.unwritten = some record

namespace CoordinatorServer

/-- A write fails although its snapshot holds a record that no file has held. -/
def LosesWrite (server : CoordinatorServer) (move : ServerMove) : Prop :=
  ∃ (process : CoordinatorProcess) (thread : Nat) (own : Bool) (target : UInt64)
      (snapshot : CoordinatorState) (reply : Reply) (record : PromotionRecord),
    server.process = some process ∧ move = .proceed thread false ∧
    process.threads[thread]? = some (.saving own target snapshot reply) ∧
    Holds snapshot.records record ∧ ¬Kept server.files record

def Overtakes (server : CoordinatorServer) (move : ServerMove) : Prop :=
  ∃ (process : CoordinatorProcess) (thread : Nat) (request : PromotionRequest) (now : UInt64)
      (record : PromotionRecord),
    server.process = some process ∧ move = .call thread (.evaluate request now) ∧
    process.engine.Binds request.request record.decision (computeRequestDigest request) ∧
    process.engine.CommittedAt record.decision ∧
    InFlight process.threads record ∧ ¬Kept server.files record

/-- A call makes the store drop a record that no file has held. -/
def DropsUnwritten (server : CoordinatorServer) (move : ServerMove) : Prop :=
  ∃ (process : CoordinatorProcess) (thread : Nat) (op : Op) (record : PromotionRecord),
    server.process = some process ∧ move = .call thread op ∧ process.engine.Stores op ∧
    process.engine.state.records[record.transition]? = some record ∧
    process.engine.Displaces record.transition ∧ ¬Kept server.files record

end CoordinatorServer

def CoordinatorServer.Wraps (server : CoordinatorServer) (move : ServerMove) : Prop :=
  ∃ (process : CoordinatorProcess) (thread : Nat) (op : Op) (reply : Reply) (next : Engine),
    server.process = some process ∧ move = .call thread op ∧
    process.engine.step op = some (reply, next) ∧
    next.persistEpoch ≠ process.engine.persistEpoch ∧
    process.engine.persistEpoch.toNat + 1 = UInt64.size

/-- Every committed decision that answers a request has a record with the property. -/
def CoordinatorState.Backs (state : CoordinatorState) (carried : PromotionRecord → Prop) : Prop :=
  ∀ (request : PromotionRequestId) (record : IdempotencyRecord) (decision : PromotionDecision),
    state.idempotency[request]? = some record →
    state.decisions[record.decision]? = some decision →
    decision.outcome = .promotionCommitted →
    ∃ promotion : PromotionRecord, promotion.decision = record.decision ∧ carried promotion

def Captured (files : List CoordinatorState) (snapshot : CoordinatorState) : Prop :=
  snapshot.Backs (Carried files snapshot.records)

/-- What a reply that repeats a committed decision relies on. -/
def Answered (files : List CoordinatorState) (reply : Reply) : Prop :=
  ∀ decision, reply.replayed? = some decision →
    ∃ record : PromotionRecord, record.decision = decision ∧ Kept files record

def Phase.Safe (files : List CoordinatorState)
    (records : OrderedMap TransitionId PromotionRecord) : Phase → Prop
  | .settling reply | .listening _ _ reply =>
      ∀ record, reply.promoted? = some record → Carried files records record
  | .saving _ _ snapshot reply =>
      Captured files snapshot ∧
        ∀ record, reply.promoted? = some record → Carried files snapshot.records record
  | .notifying reply | .marking _ _ reply | .returning reply =>
      ∀ record, reply.promoted? = some record → Kept files record

structure Running (files : List CoordinatorState) (process : CoordinatorProcess) : Prop where
  settled : process.engine.state.Backs fun record => Kept files record ∨
    (Holds process.engine.state.records record ∧ InFlight process.threads record)
  safe : ∀ (thread : Nat) (phase : Phase), process.threads[thread]? = some phase →
    phase.Safe files process.engine.state.records
  answered : ∀ (thread : Nat) (phase : Phase), process.threads[thread]? = some phase →
    Answered files phase.reply

/-- The invariant of the server while no write is lost, overtaken or dropped. -/
structure Durable (server : CoordinatorServer) : Prop where
  filed : ∀ snapshot ∈ server.files, Captured server.files snapshot
  running : ∀ process, server.process = some process → Running server.files process

theorem Kept.mono {files later : List CoordinatorState} {record : PromotionRecord}
    (kept : Kept files record) (grows : files ⊆ later) : Kept later record := by
  obtain ⟨snapshot, inside, holds⟩ := kept
  exact ⟨snapshot, grows inside, holds⟩

theorem CoordinatorState.Backs.imp {state : CoordinatorState}
    {carried after : PromotionRecord → Prop} (backs : state.Backs carried)
    (stays : ∀ record, carried record → after record) : state.Backs after := by
  intro request record decision bound held committed
  obtain ⟨promotion, named, carries⟩ := backs request record decision bound held committed
  exact ⟨promotion, named, stays promotion carries⟩

theorem Captured.mono {files later : List CoordinatorState} {snapshot : CoordinatorState}
    (captured : Captured files snapshot) (grows : files ⊆ later) : Captured later snapshot := by
  refine CoordinatorState.Backs.imp captured ?_
  intro record carried
  exact carried.imp_left fun kept => kept.mono grows

theorem Answered.mono {files later : List CoordinatorState} {reply : Reply}
    (answered : Answered files reply) (grows : files ⊆ later) : Answered later reply := by
  intro decision replayed
  obtain ⟨record, named, kept⟩ := answered decision replayed
  exact ⟨record, named, kept.mono grows⟩

theorem Phase.Safe.mono {files later : List CoordinatorState}
    {records after : OrderedMap TransitionId PromotionRecord} {phase : Phase}
    (safe : phase.Safe files records) (grows : files ⊆ later)
    (stays : ∀ record, Carried files records record → Carried later after record) :
    phase.Safe later after := by
  cases phase with
  | settling reply | listening own target reply =>
      intro record promoted
      exact stays record (safe record promoted)
  | saving own target snapshot reply =>
      refine ⟨safe.1.mono grows, ?_⟩
      intro record promoted
      exact (safe.2 record promoted).imp_left fun kept => kept.mono grows
  | notifying reply | marking own target reply | returning reply =>
      intro record promoted
      exact (safe record promoted).mono grows

theorem Running.captured {files : List CoordinatorState} {process : CoordinatorProcess}
    (running : Running files process) : Captured files process.engine.snapshot :=
  running.settled.imp fun _ carried => carried.imp_right And.left

theorem InFlight.park {threads : OrderedMap Nat Phase} {thread : Nat} {phase : Phase}
    {record : PromotionRecord} (inFlight : InFlight threads record)
    (stays : ∀ former : Phase, threads[thread]? = some former → former.unwritten = some record →
      phase.unwritten = some record) :
    InFlight (threads.insert thread phase) record := by
  obtain ⟨other, held, present, unwritten⟩ := inFlight
  by_cases same : other = thread
  · subst same
    exact ⟨other, phase, Std.ExtTreeMap.getElem?_insert_self, stays held present unwritten⟩
  · exact ⟨other, held, by rw [OrderedMaps.getElem?_insert_ne _ _ same, present], unwritten⟩

theorem InFlight.drop {threads : OrderedMap Nat Phase} {thread : Nat} {phase : Phase}
    {record : PromotionRecord} (inFlight : InFlight threads record)
    (present : threads[thread]? = some phase) (written : phase.unwritten = none) :
    InFlight (threads.erase thread) record := by
  obtain ⟨other, held, found, unwritten⟩ := inFlight
  have apart : other ≠ thread := by
    rintro rfl
    rw [present, Option.some.injEq] at found
    subst found
    simp [written] at unwritten
  exact ⟨other, held, by rw [OrderedMaps.getElem?_erase_ne _ apart, found], unwritten⟩

theorem Running.park {files later : List CoordinatorState} {process : CoordinatorProcess}
    {thread : Nat} {former phase : Phase} {engine : Engine} {mutex : Option Nat}
    (running : Running files process) (present : process.threads[thread]? = some former)
    (grows : files ⊆ later) (state : engine.state = process.engine.state)
    (safe : phase.Safe later process.engine.state.records) (reply : phase.reply = former.reply)
    (written : ∀ record, former.unwritten = some record →
      phase.unwritten = some record ∨ Kept later record) :
    Running later { process.park thread phase with engine, persistMutex := mutex } := by
  have stays (record : PromotionRecord) (carried : Carried files process.engine.state.records record) :
      Carried later engine.state.records record := by
    rw [state]
    exact carried.imp_left fun kept => kept.mono grows
  constructor
  case settled =>
    intro request record decision bound held committed
    rw [state] at bound held
    obtain ⟨promotion, named, carried⟩ := running.settled request record decision bound held committed
    refine ⟨promotion, named, ?_⟩
    rcases carried with kept | ⟨holds, inFlight⟩
    · exact .inl (kept.mono grows)
    by_cases kept : Kept later promotion
    · exact .inl kept
    refine .inr ⟨by rwa [state], inFlight.park ?_⟩
    intro earlier found unwritten
    rw [present, Option.some.injEq] at found
    subst found
    exact (written promotion unwritten).resolve_right kept
  case safe =>
    intro other held found
    rcases OrderedMaps.insert_cases found with ⟨rfl, rfl⟩ | ⟨_, old⟩
    · exact state ▸ safe
    · exact (running.safe other held old).mono grows stays
  case answered =>
    intro other held found
    rcases OrderedMaps.insert_cases found with ⟨rfl, rfl⟩ | ⟨_, old⟩
    · rw [reply]
      exact (running.answered _ former present).mono grows
    · exact (running.answered other held old).mono grows

theorem Running.drop {files : List CoordinatorState} {process : CoordinatorProcess}
    {thread : Nat} {phase : Phase} (running : Running files process)
    (present : process.threads[thread]? = some phase) (written : phase.unwritten = none) :
    Running files { process with threads := process.threads.erase thread } := by
  constructor
  case settled =>
    refine running.settled.imp ?_
    intro record carried
    exact carried.imp_right fun held => ⟨held.1, held.2.drop present written⟩
  case safe =>
    intro other held found
    exact running.safe other held (OrderedMaps.erase_cases found).2
  case answered =>
    intro other held found
    exact running.answered other held (OrderedMaps.erase_cases found).2

theorem running_created (config : EngineConfig) (salting naming : UInt64)
    (files : List CoordinatorState) :
    Running files { engine := Engine.create config ⟨1⟩ salting naming } := by
  constructor
  case settled =>
    intro request record decision bound
    exact (Engine.no_entry rfl bound).elim
  all_goals
    intro thread phase present
    exact (Engine.no_entry rfl present).elim

theorem running_booted {config : EngineConfig} {salting naming : UInt64}
    {files : List CoordinatorState} {snapshot state : CoordinatorState}
    (taken : Taken snapshot) (captured : Captured files snapshot) (filed : snapshot ∈ files)
    (decoded : StatePersistence.decode (StatePersistence.encode snapshot) = .ok state) :
    Running files { engine := Engine.booted config salting naming state } := by
  obtain ⟨source, sound, rfl⟩ := taken
  have reloaded : Coherent.Reloaded source.control
      (Engine.booted config salting naming state).control := Engine.booted_reloaded sound decoded
  constructor
  case settled =>
    intro request record decision bound held committed
    have bound : (Engine.booted config salting naming state).control.idempotency[request]? =
      some record := bound
    have held : (Engine.booted config salting naming state).control.decisions[record.decision]? =
      some decision := held
    rw [reloaded.idempotency] at bound
    rw [reloaded.decisions, Std.ExtTreeMap.getElem?_map] at held
    obtain ⟨original, stored, restored⟩ := Option.map_eq_some_iff.mp held
    subst restored
    obtain ⟨promotion, named, carried⟩ := captured request record original bound stored committed
    refine ⟨promotion, named, .inl ?_⟩
    rcases carried with kept | holds
    · exact kept
    · exact ⟨source.snapshot, filed, holds⟩
  all_goals
    intro thread phase present
    exact (Engine.no_entry rfl present).elim

theorem Reply.promoted?_eq_some {reply : Reply} {record : PromotionRecord}
    (promoted : reply.promoted? = some record) :
    ∃ result, reply = .committed (.ok result) ∧ result.outcome = .promotionCommitted ∧
      result.record = record := by
  unfold promoted? at promoted
  split at promoted
  · rename_i result
    split at promoted
    · rename_i granted
      exact ⟨result, rfl, granted, Option.some.inj promoted⟩
    · simp at promoted
  · simp at promoted

theorem Reply.replayed?_eq_some {reply : Reply} {decision : PromotionDecisionId}
    (replayed : reply.replayed? = some decision) :
    ∃ result, reply = .evaluated (.ok result) ∧
      result.decision.outcome = .promotionCommitted ∧ result.decision.id = decision := by
  unfold replayed? at replayed
  split at replayed
  · rename_i result
    split at replayed
    · rename_i settled
      exact ⟨result, rfl, settled, Option.some.inj replayed⟩
    · simp at replayed
  · simp at replayed

namespace CoordinatorProcess

theorem afterSection_reply (before after : Engine) (op : Op) (reply : Reply) :
    (afterSection before after op reply).reply = reply := by
  unfold afterSection
  repeat' split
  all_goals rfl

theorem afterSection_granted {before after : Engine} {plan : PromotionPlan} {now : UInt64}
    {result : CommitResult} (granted : result.outcome = .promotionCommitted) :
    afterSection before after (.commit plan now) (.committed (.ok result)) =
      .settling (.committed (.ok result)) := by
  simp [afterSection, granted]

end CoordinatorProcess

theorem Engine.Sound.step_carried {files : List CoordinatorState} {engine next : Engine} {op : Op}
    {reply : Reply} (sound : engine.Sound) (moved : engine.step op = some (reply, next))
    (online : op.online = true)
    (room : ∀ record : PromotionRecord, engine.state.records[record.transition]? = some record →
      engine.Stores op → ¬Kept files record → ¬engine.Displaces record.transition)
    {record : PromotionRecord} (carried : Carried files engine.state.records record) :
    Carried files next.state.records record := by
  by_cases kept : Kept files record
  · exact .inl kept
  obtain ⟨stored, present, same⟩ := carried.resolve_left kept
  have named : stored.transition = record.transition :=
    sound.coherent.records record.transition stored present
  refine .inr ⟨stored, Engine.step_record_kept moved online present ?_, same⟩
  intro changed
  rw [← named] at present ⊢
  refine room stored present ⟨reply, next, moved, changed⟩ fun saved => kept ?_
  obtain ⟨snapshot, inside, copy, found, equal⟩ := saved
  exact ⟨snapshot, inside, copy, by rw [← named, found], by rw [equal, same]⟩

theorem Running.call {files : List CoordinatorState} {process : CoordinatorProcess} {thread : Nat}
    {op : Op} {reply : Reply} {next : Engine} (running : Running files process)
    (sound : process.engine.Sound) (idle : process.threads[thread]? = none) (online : op.online = true)
    (moved : process.engine.step op = some (reply, next))
    (room : ∀ record, process.engine.state.records[record.transition]? = some record →
      process.engine.Stores op → ¬Kept files record →
      ¬process.engine.Displaces record.transition)
    (apart : ∀ request now decision, op = .evaluate request now →
      process.engine.Binds request.request decision (computeRequestDigest request) →
      process.engine.CommittedAt decision → ∀ record, record.decision = decision →
      InFlight process.threads record → Kept files record) :
    Running files { process.park thread
      (CoordinatorProcess.afterSection process.engine next op reply) with engine := next } := by
  have stays (record : PromotionRecord) (carried : Carried files process.engine.state.records record) :
      Carried files next.state.records record :=
    sound.step_carried moved online room carried
  have promotes {result : CommitResult} (answer : reply = .committed (.ok result))
      (granted : result.outcome = .promotionCommitted) :
      Holds next.state.records result.record ∧
        CoordinatorProcess.afterSection process.engine next op reply = .settling reply := by
    subst answer
    obtain ⟨plan, now, rfl, _, stored⟩ := Engine.step_promotes moved granted
    exact ⟨⟨_, stored, rfl⟩, CoordinatorProcess.afterSection_granted granted⟩
  constructor
  case settled =>
    intro request record decision bound held committed
    rcases Engine.step_settles sound moved online bound held committed with
      ⟨result, answer, granted, named⟩ | ⟨earlier, stored, boundBefore, named, heldBefore, final⟩
    · obtain ⟨fresh, settling⟩ := promotes answer granted
      refine ⟨result.record, named, .inr ⟨fresh, thread, _, Std.ExtTreeMap.getElem?_insert_self, ?_⟩⟩
      rw [settling, answer]
      simp [Phase.unwritten, Reply.promoted?, granted]
    · rw [← named] at heldBefore ⊢
      obtain ⟨promotion, decided, carried⟩ :=
        running.settled request earlier stored boundBefore heldBefore final
      refine ⟨promotion, decided, ?_⟩
      by_cases kept : Kept files promotion
      · exact .inl kept
      obtain ⟨present, inFlight⟩ := carried.resolve_left kept
      have holds := (stays promotion (.inr present)).resolve_left kept
      refine .inr ⟨holds, inFlight.park ?_⟩
      intro former found
      simp [idle] at found
  case safe =>
    intro other phase found
    rcases OrderedMaps.insert_cases found with ⟨rfl, rfl⟩ | ⟨_, old⟩
    · by_cases granted : ∃ record, reply.promoted? = some record
      · obtain ⟨record, promoted⟩ := granted
        obtain ⟨result, answer, granted, rfl⟩ := Reply.promoted?_eq_some promoted
        obtain ⟨fresh, settling⟩ := promotes answer granted
        rw [settling]
        intro record same
        rw [promoted, Option.some.injEq] at same
        subst same
        exact .inr fresh
      · have silent (record : PromotionRecord) : reply.promoted? ≠ some record :=
          fun promoted => granted ⟨record, promoted⟩
        unfold CoordinatorProcess.afterSection
        repeat' split
        all_goals
          intro record promoted
          exact absurd promoted (silent record)
    · exact (running.safe other phase old).mono (List.Subset.refl _) stays
  case answered =>
    intro other phase found
    rcases OrderedMaps.insert_cases found with ⟨rfl, rfl⟩ | ⟨_, old⟩
    · rw [CoordinatorProcess.afterSection_reply]
      intro decision replayed
      obtain ⟨result, rfl, settled, rfl⟩ := Reply.replayed?_eq_some replayed
      obtain ⟨request, now, decision, rfl, binds, held⟩ := Engine.step_replays sound moved settled
      obtain ⟨record, bound, named, digest⟩ := binds
      subst named
      obtain ⟨promotion, decided, carried⟩ :=
        running.settled request.request record result.decision bound held settled
      have identity := (sound.coherent.decisions _ _ held).1
      refine ⟨promotion, by rw [decided, identity], ?_⟩
      rcases carried with kept | ⟨_, inFlight⟩
      · exact kept
      · exact apart request now record.decision rfl ⟨record, bound, rfl, digest⟩
          ⟨result.decision, held, settled⟩ promotion decided inFlight
    · exact running.answered other phase old

namespace CoordinatorServer

variable {config : EngineConfig} {server next : CoordinatorServer}

theorem write_files (server : CoordinatorServer) (saved : Bool) (snapshot : CoordinatorState) :
    server.files ⊆ (server.write saved snapshot).files := by
  cases saved
  · exact List.Subset.refl _
  · exact List.subset_cons_self _ _

theorem write_filed {saved : Bool} {snapshot : CoordinatorState}
    (filed : ∀ file ∈ server.files, Captured server.files file)
    (captured : Captured server.files snapshot) :
    ∀ file ∈ (server.write saved snapshot).files,
      Captured (server.write saved snapshot).files file := by
  have grows := server.write_files saved snapshot
  intro file inside
  cases saved with
  | false => exact filed file inside
  | true =>
      rcases List.mem_cons.mp inside with rfl | old
      · exact captured.mono grows
      · exact (filed file old).mono grows

theorem write_kept {thread : Nat} {saved own : Bool} {target : UInt64} {snapshot : CoordinatorState}
    {reply : Reply} {process : CoordinatorProcess} (up : server.process = some process)
    (phase : process.threads[thread]? = some (.saving own target snapshot reply))
    (kept : ¬server.LosesWrite (.proceed thread saved)) {record : PromotionRecord}
    (held : Holds snapshot.records record) : Kept (server.write saved snapshot).files record := by
  cases saved with
  | true => exact ⟨snapshot, List.mem_cons_self, held⟩
  | false =>
      by_contra lost
      exact kept ⟨process, thread, own, target, snapshot, reply, record, up, rfl, phase, held, lost⟩

theorem durable_step (durable : Durable server) (sane : Sane server) {move : ServerMove} {event : ServerEvent}
    (moved : server.step config move = some (event, next)) (kept : ¬server.LosesWrite move)
    (apart : ¬server.Overtakes move) (room : ¬server.DropsUnwritten move) : Durable next := by
  have stays (file : CoordinatorState) (inside : file ∈ server.files) :
      Captured server.files file := durable.filed file inside
  have runs {process : CoordinatorProcess} (running : Running server.files process) :
      Durable (server.run process) :=
    ⟨stays, fun other up => Option.some.inj up ▸ running⟩
  cases step_effect moved with
  | refused down => exact durable
  | founded down empty => exact runs (running_created config _ _ _)
  | @resumed _ _ snapshot older state down disk decoded _ =>
      have newest : snapshot ∈ server.files := by
        rw [disk]
        exact List.mem_cons_self
      exact runs (running_booted (sane.files _ newest) (durable.filed _ newest) newest decoded)
  | @called thread op process reply engine up idle online performed =>
      refine runs ((durable.running process up).call (sane.engine process up) idle online performed
        ?_ ?_)
      · intro record held records unkept displaced
        exact room ⟨process, thread, op, record, up, rfl, records, held, displaced, unkept⟩
      · intro request now decision asked binds committed record decided inFlight
        by_contra unkept
        subst asked decided
        exact apart ⟨process, thread, request, now, record, up, rfl, binds, committed, inFlight,
          unkept⟩
  | @settled thread saved process reply up phase =>
      have running := durable.running process up
      have safe := running.safe _ _ phase
      exact runs (running.park phase (List.Subset.refl _) rfl safe rfl
        fun _ unwritten => .inl unwritten)
  | @clean thread saved process reply up phase _ =>
      have running := durable.running process up
      have safe := running.safe _ _ phase
      exact runs (running.park phase (List.Subset.refl _) rfl safe rfl
        fun _ unwritten => .inl unwritten)
  | @notified thread saved process reply up phase =>
      have running := durable.running process up
      have written := running.safe _ _ phase
      exact runs (running.park phase (List.Subset.refl _) rfl
        (fun record promoted => .inl (written record promoted)) rfl
        fun _ unwritten => .inl unwritten)
  | @captured thread saved process own target reply up phase _ =>
      have running := durable.running process up
      refine runs (running.park phase (List.Subset.refl _) rfl
        ⟨running.captured, running.safe _ _ phase⟩ rfl ?_)
      intro record unwritten
      cases own <;> exact .inl unwritten
  | @wrote thread saved process own target snapshot reply up phase =>
      have running := durable.running process up
      have safe := running.safe _ _ phase
      have grows := server.write_files saved snapshot
      have written (record : PromotionRecord) (promoted : reply.promoted? = some record) :
          Kept (server.write saved snapshot).files record := by
        rcases safe.2 record promoted with old | held
        · exact old.mono grows
        · exact write_kept up phase kept held
      refine ⟨write_filed durable.filed safe.1, ?_⟩
      intro other same
      rw [← Option.some.inj same]
      refine running.park phase grows rfl written rfl ?_
      intro record unwritten
      cases own
      · simp [Phase.unwritten] at unwritten
      · exact .inr (written record unwritten)
  | @marked thread saved process own target reply up phase =>
      have running := durable.running process up
      have written := running.safe _ _ phase
      refine runs (running.park phase (List.Subset.refl _) rfl ?_ ?_ ?_)
      · cases own <;> exact written
      · cases own <;> rfl
      · intro record unwritten
        simp [Phase.unwritten] at unwritten
  | @returned thread saved process reply up phase =>
      exact runs ((durable.running process up).drop phase rfl)
  | @stopped saved process up quiet =>
      refine ⟨write_filed durable.filed (durable.running process up).captured, ?_⟩
      intro other same
      simp at same
  | crashed up =>
      refine ⟨durable.filed, ?_⟩
      intro other same
      simp at same

end CoordinatorServer

def Phase.Tracked (files : List CoordinatorState) (engine : Engine) : Phase → Prop
  | .settling reply | .notifying reply =>
      ∀ record, reply.reported? = some record → Carried files engine.state.records record
  | .listening _ target reply =>
      target.toNat ≤ engine.persistEpoch.toNat ∧
        ∀ record, reply.reported? = some record → Carried files engine.state.records record
  | .saving _ target snapshot reply =>
      target.toNat ≤ engine.persistEpoch.toNat ∧
        (target = engine.persistEpoch → ∀ record, Holds engine.state.records record →
          Holds snapshot.records record) ∧
        ∀ record, reply.reported? = some record → Carried files snapshot.records record
  | .marking _ target reply =>
      target.toNat ≤ engine.persistEpoch.toNat ∧
        (target = engine.persistEpoch → ∀ record, Holds engine.state.records record →
          Kept files record) ∧
        ∀ record, reply.reported? = some record → Kept files record
  | .returning reply => ∀ record, reply.reported? = some record → Kept files record

structure Tracking (files : List CoordinatorState) (process : CoordinatorProcess) : Prop where
  bounded : process.engine.persistCleanEpoch.toNat ≤ process.engine.persistEpoch.toNat
  clean : process.engine.persistCleanEpoch = process.engine.persistEpoch →
    ∀ record, Holds process.engine.state.records record → Kept files record
  threads : ∀ (thread : Nat) (phase : Phase), process.threads[thread]? = some phase →
    phase.Tracked files process.engine

theorem Phase.Tracked.step {files : List CoordinatorState} {engine next : Engine} {phase : Phase}
    (tracked : phase.Tracked files engine)
    (counted : (next.persistEpoch = engine.persistEpoch ∧
        next.state.records = engine.state.records) ∨
      next.persistEpoch.toNat = engine.persistEpoch.toNat + 1)
    (stays : ∀ record, Carried files engine.state.records record →
      Carried files next.state.records record) :
    phase.Tracked files next := by
  have later {target : UInt64} (bounded : target.toNat ≤ engine.persistEpoch.toNat) :
      target.toNat ≤ next.persistEpoch.toNat := by
    rcases counted with ⟨same, _⟩ | advanced
    · rwa [same]
    · omega
  have current {target : UInt64} {claim : PromotionRecord → Prop}
      (bounded : target.toNat ≤ engine.persistEpoch.toNat)
      (known : target = engine.persistEpoch → ∀ record, Holds engine.state.records record →
        claim record) :
      target = next.persistEpoch → ∀ record, Holds next.state.records record → claim record := by
    intro same record held
    rcases counted with ⟨unchanged, records⟩ | advanced
    · exact known (same.trans unchanged) record (records ▸ held)
    · rw [same] at bounded
      omega
  cases phase with
  | settling reply | notifying reply =>
      intro record reported
      exact stays record (tracked record reported)
  | listening own target reply =>
      refine ⟨later tracked.1, ?_⟩
      intro record reported
      exact stays record (tracked.2 record reported)
  | saving own target snapshot reply =>
      exact ⟨later tracked.1, current tracked.1 tracked.2.1, tracked.2.2⟩
  | marking own target reply =>
      exact ⟨later tracked.1, current tracked.1 tracked.2.1, tracked.2.2⟩
  | returning reply => exact tracked

theorem Phase.Tracked.mono {files later : List CoordinatorState} {engine : Engine} {phase : Phase}
    (tracked : phase.Tracked files engine) (grows : files ⊆ later) :
    phase.Tracked later engine := by
  have carried {records : OrderedMap TransitionId PromotionRecord} {record : PromotionRecord}
      (held : Carried files records record) : Carried later records record :=
    held.imp_left fun kept => kept.mono grows
  cases phase with
  | settling reply | notifying reply =>
      exact fun record reported => carried (tracked record reported)
  | listening own target reply =>
      exact ⟨tracked.1, fun record reported => carried (tracked.2 record reported)⟩
  | saving own target snapshot reply =>
      exact ⟨tracked.1, tracked.2.1, fun record reported => carried (tracked.2.2 record reported)⟩
  | marking own target reply =>
      exact ⟨tracked.1, fun same record held => (tracked.2.1 same record held).mono grows,
        fun record reported => (tracked.2.2 record reported).mono grows⟩
  | returning reply => exact fun record reported => (tracked record reported).mono grows

theorem Tracking.park {files later : List CoordinatorState} {process : CoordinatorProcess}
    {thread : Nat} {phase : Phase} {engine : Engine} {mutex : Option Nat}
    (tracking : Tracking files process) (grows : files ⊆ later)
    (state : engine.state = process.engine.state)
    (epoch : engine.persistEpoch = process.engine.persistEpoch)
    (bounded : engine.persistCleanEpoch.toNat ≤ engine.persistEpoch.toNat)
    (clean : engine.persistCleanEpoch = engine.persistEpoch →
      ∀ record, Holds engine.state.records record → Kept later record)
    (tracked : phase.Tracked later engine) :
    Tracking later { process.park thread phase with engine, persistMutex := mutex } := by
  refine ⟨bounded, clean, ?_⟩
  intro other held found
  rcases OrderedMaps.insert_cases found with ⟨rfl, rfl⟩ | ⟨_, old⟩
  · exact tracked
  · have former := (tracking.threads other held old).mono grows
    refine former.step (.inl ⟨epoch, by rw [state]⟩) ?_
    intro record carried
    rwa [state]

theorem Reply.reported?_eq_some {reply : Reply} {record : PromotionRecord}
    (reported : reply.reported? = some record) :
    ∃ result, reply = .mutated (.ok result) ∧ result.hasRecord = true ∧
      result.record = record := by
  unfold reported? at reported
  split at reported
  · rename_i result
    split at reported
    · rename_i granted
      rw [Bool.and_eq_true] at granted
      exact ⟨result, rfl, granted.2, Option.some.inj reported⟩
    · simp at reported
  · simp at reported

theorem Tracking.call {files : List CoordinatorState} {process : CoordinatorProcess} {thread : Nat}
    {op : Op} {reply : Reply} {next : Engine} (tracking : Tracking files process)
    (moved : process.engine.step op = some (reply, next))
    (unwrapped : next.persistEpoch ≠ process.engine.persistEpoch →
      process.engine.persistEpoch.toNat + 1 ≠ UInt64.size)
    (stays : ∀ record, Carried files process.engine.state.records record →
      Carried files next.state.records record) :
    Tracking files { process.park thread
      (CoordinatorProcess.afterSection process.engine next op reply) with engine := next } := by
  have counts := Engine.step_counts moved
  have advanced (grown : next.persistEpoch = process.engine.persistEpoch + 1) :
      next.persistEpoch.toNat = process.engine.persistEpoch.toNat + 1 := by
    have small := process.engine.persistEpoch.toNat_lt
    have one : (1 : UInt64).toNat = 1 := rfl
    have changed : next.persistEpoch ≠ process.engine.persistEpoch := by
      rw [grown]
      intro same
      have equal := congrArg UInt64.toNat same
      rw [UInt64.toNat_add, one] at equal
      omega
    have room := unwrapped changed
    simp only [UInt64.size] at room
    rw [grown, UInt64.toNat_add, one]
    omega
  have counted : (next.persistEpoch = process.engine.persistEpoch ∧
      next.state.records = process.engine.state.records) ∨
      next.persistEpoch.toNat = process.engine.persistEpoch.toNat + 1 := by
    rcases counts.uncounted with records | grown
    · rcases counts.counted with same | grown
      · exact .inl ⟨same, records⟩
      · exact .inr (advanced grown)
    · exact .inr (advanced grown)
  constructor
  case bounded =>
    change next.persistCleanEpoch.toNat ≤ next.persistEpoch.toNat
    have bounded := tracking.bounded
    rw [counts.clean]
    rcases counted with ⟨same, _⟩ | grown
    · rwa [same]
    · omega
  case clean =>
    change next.persistCleanEpoch = next.persistEpoch →
      ∀ record, Holds next.state.records record → Kept files record
    rw [counts.clean]
    intro same record held
    rcases counted with ⟨unchanged, records⟩ | grown
    · exact tracking.clean (same.trans unchanged) record (records ▸ held)
    · have bounded := tracking.bounded
      rw [same] at bounded
      omega
  case threads =>
    intro other phase found
    rcases OrderedMaps.insert_cases found with ⟨rfl, rfl⟩ | ⟨_, old⟩
    · by_cases reports : ∃ record, reply.reported? = some record
      · obtain ⟨record, reported⟩ := reports
        obtain ⟨result, rfl, recorded, rfl⟩ := Reply.reported?_eq_some reported
        obtain ⟨stored, grown⟩ := Engine.step_reports moved recorded
        have counted := advanced grown
        have changed : next.persistEpoch ≠ process.engine.persistEpoch := by
          intro same
          rw [same] at counted
          omega
        have notifies : CoordinatorProcess.afterSection process.engine next op
            (.mutated (.ok result)) = .notifying (.mutated (.ok result)) := by
          cases op with
          | commit plan now =>
              have performed := (Engine.step_eq_some moved).1
              simp [Engine.perform, Engine.answerWith] at performed
          | _ => exact if_neg changed
        rw [notifies]
        intro record same
        rw [reported, Option.some.injEq] at same
        subst same
        exact .inr ⟨_, stored, rfl⟩
      · have silent (record : PromotionRecord) : reply.reported? ≠ some record :=
          fun reported => reports ⟨record, reported⟩
        unfold CoordinatorProcess.afterSection
        repeat' split
        all_goals
          intro record reported
          exact absurd reported (silent record)
    · exact (tracking.threads other phase old).step counted stays

theorem tracking_created (config : EngineConfig) (salting naming : UInt64)
    (files : List CoordinatorState) :
    Tracking files { engine := Engine.create config ⟨1⟩ salting naming } := by
  constructor
  case bounded => exact Nat.le_refl _
  case clean =>
    rintro _ record ⟨stored, present, _⟩
    exact (Engine.no_entry rfl present).elim
  case threads =>
    intro thread phase present
    exact (Engine.no_entry rfl present).elim

theorem tracking_booted (config : EngineConfig) (salting naming : UInt64) (state : CoordinatorState)
    (files : List CoordinatorState) :
    Tracking files { engine := Engine.booted config salting naming state } := by
  have counted : (Engine.booted config salting naming state).persistEpoch = 1 := rfl
  have fresh : (Engine.booted config salting naming state).persistCleanEpoch = 0 := rfl
  constructor
  case bounded => exact Nat.zero_le _
  case clean =>
    change (Engine.booted config salting naming state).persistCleanEpoch =
      (Engine.booted config salting naming state).persistEpoch → _
    rw [counted, fresh]
    intro same
    exact absurd same (by decide)
  case threads =>
    intro thread phase present
    exact (Engine.no_entry rfl present).elim

namespace CoordinatorServer

variable {config : EngineConfig} {server next : CoordinatorServer}

def Tracked (server : CoordinatorServer) : Prop :=
  ∀ process, server.process = some process → Tracking server.files process

theorem tracked_step (tracked : server.Tracked) (sane : Sane server) {move : ServerMove}
    {event : ServerEvent} (moved : server.step config move = some (event, next))
    (kept : ¬server.LosesWrite move) (room : ¬server.DropsUnwritten move)
    (unwrapped : ¬server.Wraps move) : next.Tracked := by
  have runs {process : CoordinatorProcess} (tracking : Tracking server.files process) :
      (server.run process).Tracked :=
    fun other up => Option.some.inj up ▸ tracking
  cases step_effect moved with
  | refused down => exact tracked
  | founded down empty => exact runs (tracking_created config _ _ _)
  | resumed down disk decoded consistent => exact runs (tracking_booted config _ _ _ _)
  | @called thread op process reply engine up idle online performed =>
      refine runs ((tracked process up).call performed ?_ ?_)
      · intro changed full
        exact unwrapped ⟨process, thread, op, reply, engine, up, rfl, performed, changed, full⟩
      · intro record carried
        refine (sane.engine process up).step_carried performed online ?_ carried
        intro other held records unkept displaced
        exact room ⟨process, thread, op, other, up, rfl, records, held, displaced, unkept⟩
  | @settled thread saved process reply up phase =>
      have tracking := tracked process up
      have former := tracking.threads _ _ phase
      exact runs (tracking.park (List.Subset.refl _) rfl rfl tracking.bounded tracking.clean
        ⟨Nat.le_refl _, former⟩)
  | @clean thread saved process reply up phase written =>
      have tracking := tracked process up
      have former := tracking.threads _ _ phase
      refine runs (tracking.park (List.Subset.refl _) rfl rfl tracking.bounded tracking.clean ?_)
      intro record reported
      rcases former record reported with old | held
      · exact old
      · exact tracking.clean written record held
  | @notified thread saved process reply up phase =>
      have tracking := tracked process up
      have former := tracking.threads _ _ phase
      exact runs (tracking.park (List.Subset.refl _) rfl rfl tracking.bounded tracking.clean
        ⟨Nat.le_refl _, former⟩)
  | @captured thread saved process own target reply up phase _ =>
      have tracking := tracked process up
      have former := tracking.threads _ _ phase
      exact runs (tracking.park (List.Subset.refl _) rfl rfl tracking.bounded tracking.clean
        ⟨former.1, fun _ _ held => held, former.2⟩)
  | @wrote thread saved process own target snapshot reply up phase =>
      have tracking := tracked process up
      have former := tracking.threads _ _ phase
      have grows := server.write_files saved snapshot
      intro other same
      rw [← Option.some.inj same]
      refine tracking.park grows rfl rfl tracking.bounded ?_ ⟨former.1, ?_, ?_⟩
      · intro written record held
        exact (tracking.clean written record held).mono grows
      · intro current record held
        exact write_kept up phase kept (former.2.1 current record held)
      · intro record reported
        rcases former.2.2 record reported with old | held
        · exact old.mono grows
        · exact write_kept up phase kept held
  | @marked thread saved process own target reply up phase =>
      have tracking := tracked process up
      have former := tracking.threads _ _ phase
      have bounded := tracking.bounded
      refine runs (tracking.park (List.Subset.refl _) rfl rfl ?_ ?_ ?_)
      · change (if _ then _ else _ : UInt64).toNat ≤ process.engine.persistEpoch.toNat
        split
        · exact former.1
        · exact bounded
      · change (if _ then _ else _ : UInt64) = process.engine.persistEpoch → _
        split
        · exact former.2.1
        · exact tracking.clean
      · cases own
        · exact former.2.2
        · intro record reported
          exact .inl (former.2.2 record reported)
  | @returned thread saved process reply up phase =>
      have tracking := tracked process up
      refine runs ⟨tracking.bounded, tracking.clean, ?_⟩
      intro other held found
      exact tracking.threads other held (OrderedMaps.erase_cases found).2
  | @stopped saved process up quiet =>
      intro other same
      simp at same
  | crashed up =>
      intro other same
      simp at same

/-- A step after which an acknowledgement may come before its write. -/
def Lapses (server : CoordinatorServer) (move : ServerMove) : Prop :=
  server.LosesWrite move ∨ server.Overtakes move ∨ server.DropsUnwritten move ∨ server.Wraps move

/-- Every transition the reply acknowledges was written by a save that succeeded. -/
structure Acknowledges (files : List CoordinatorState) (reply : Reply) : Prop where
  promoted : ∀ record, reply.promoted? = some record → Kept files record
  reported : ∀ record, reply.reported? = some record → Kept files record
  replayed : ∀ decision, reply.replayed? = some decision →
    ∃ record : PromotionRecord, record.decision = decision ∧ Kept files record

theorem answer_acknowledges (durable : Durable server) (tracked : server.Tracked)
    {move : ServerMove} {reply : Reply}
    (moved : server.step config move = some (.answered reply, next)) :
    Acknowledges server.files reply := by
  obtain ⟨process, thread, up, phase⟩ := answered_phase moved
  have running := durable.running process up
  exact ⟨running.safe _ _ phase, (tracked process up).threads _ _ phase,
    running.answered _ _ phase⟩

/-- In every run in which no write of an unsaved record fails, no retry overtakes the write of its
commit, no unsaved record is dropped and the mutation counter does not wrap, every transition that
is acknowledged was written by a save that succeeded before. -/
theorem run_acknowledged_saved {trace : List ServerStep} {final : CoordinatorServer}
    (run : ServerRun config trace final)
    (condition : ∀ step ∈ trace, ¬step.before.Lapses step.input) :
    ∀ step ∈ trace, ∀ reply, step.output = .answered reply →
      Acknowledges step.before.files reply := by
  intro step executed reply answered
  obtain ⟨past, future, rfl⟩ := List.append_of_mem executed
  obtain ⟨earlier, moved, _⟩ := run.cut
  have stays (step : ServerStep)
      (held : Sane step.before ∧ Durable step.before ∧ step.before.Tracked)
      (sound : ¬step.before.Lapses step.input)
      (moved : step.before.step config step.input = some (step.output, step.after)) :
      Sane step.after ∧ Durable step.after ∧ step.after.Tracked := by
    simp only [Lapses, not_or] at sound
    obtain ⟨kept, apart, room, unwrapped⟩ := sound
    obtain ⟨sane, durable, tracked⟩ := held
    exact ⟨sane_step sane moved, durable_step durable sane moved kept apart room,
      tracked_step tracked sane moved kept room unwrapped⟩
  have initially : Sane {} ∧ Durable {} ∧ Tracked {} :=
    ⟨sane_initially, ⟨by simp, by simp⟩, by simp [Tracked]⟩
  have held := earlier.guarded (fun server => Sane server ∧ Durable server ∧ server.Tracked)
    (fun step => ¬step.before.Lapses step.input) stays initially
    (fun other inside => condition other (List.mem_append_left _ inside))
  rw [answered] at moved
  exact answer_acknowledges held.2.1 held.2.2 moved

def asks (thread : Nat) (choose : Engine → Op) (server : CoordinatorServer) : ServerMove :=
  match server.process with
  | none => .crash
  | some process => .call thread (choose process.engine)

def serves (choose : Engine → Op) (writes : List Bool) : List (CoordinatorServer → ServerMove) :=
  asks 1 choose :: writes.map fun saved _ => .proceed 1 saved

def preparations : List (CoordinatorServer → ServerMove) :=
  (fun _ => .start 1 2) ::
    ((Engine.promoteChoices.take 3).flatMap fun choose => serves choose (List.replicate 5 true))

def prepared : List ServerStep × CoordinatorServer :=
  (play (step {}) {} preparations).getD ([], {})

def preparedEngine : Engine := (prepared.2.process.getD { engine := Engine.sampleEngine }).engine

def grantedAnswer : Result CommitResult × Engine :=
  (preparedEngine.touch Engine.samplePlan).applyCommit Engine.samplePlan Engine.sampleArtifact
    (evaluateGates preparedEngine.config preparedEngine.state
      (Engine.requestOfPlan Engine.samplePlan) 0
      (preparedEngine.state.decisions.getD Engine.samplePlan.decision {})).decision 0

def granting : CoordinatorServer :=
  prepared.2.run
    { engine := grantedAnswer.2
      threads := (∅ : OrderedMap Nat Phase).insert 1 (.settling (.committed grantedAnswer.1)) }

theorem prepared_played : play (step {}) {} preparations = some (prepared.1, prepared.2) := by
  have complete : (play (step {}) {} preparations).isSome = true := by decide +kernel
  obtain ⟨outcome, played⟩ := Option.isSome_iff_exists.mp complete
  rw [prepared, played, Option.getD_some]

theorem prepared_process : prepared.2.process = some { engine := preparedEngine } := rfl

theorem prepared_accepts :
    preparedEngine.Accepts Engine.samplePlan 0 Engine.sampleArtifact := by
  have accepts := Engine.samplePlan_accepted
  constructor
  case admitted => rfl
  case wellFormed => exact accepts.wellFormed
  case stored => exact accepts.stored
  case policyCurrent => exact accepts.policyCurrent
  case found => exact accepts.found
  case unexpired => exact accepts.unexpired
  case reserved => exact accepts.reserved
  case sameEvidence => exact accepts.sameEvidence
  case eligible => exact accepts.eligible
  case moves => exact accepts.moves

theorem prepared_asks (now : UInt64) :
    asks 1 (fun engine => .commit (engine.planFor 1) now) prepared.2 =
      .call 1 (.commit Engine.samplePlan now) := by
  have plan : preparedEngine.planFor 1 = Engine.samplePlan := rfl
  simp only [asks, prepared_process, plan]

theorem prepared_calls {op : Op} {reply : Reply} {next : Engine} (online : op.online = true)
    (moved : preparedEngine.step op = some (reply, next)) :
    prepared.2.step {} (.call 1 op) = some (.working, prepared.2.run
      { engine := next
        threads := (∅ : OrderedMap Nat Phase).insert 1
          (CoordinatorProcess.afterSection preparedEngine next op reply) }) := by
  have free : (∅ : OrderedMap Nat Phase).contains 1 = false := Std.ExtTreeMap.contains_empty
  rw [step, prepared_process]
  simp only [free, online, Bool.not_true, Bool.or_self, Bool.false_eq_true, if_false, moved,
    Option.map_some]
  rfl

theorem granting_called :
    prepared.2.step {} (.call 1 (.commit Engine.samplePlan 0)) = some (.working, granting) := by
  have moved : preparedEngine.step (.commit Engine.samplePlan 0) =
      some (.committed grantedAnswer.1, grantedAnswer.2) := by
    refine Engine.step_of_perform ?_ rfl
    rw [Engine.perform, Engine.commit_of_accepts prepared_accepts]
    rfl
  exact prepared_calls rfl moved

theorem play_granting (rest : List (CoordinatorServer → ServerMove)) :
    play (step {}) {} (preparations ++
        asks 1 (fun engine => .commit (engine.planFor 1) 0) :: rest) =
      (play (step {}) granting rest).map fun later => (prepared.1 ++ ⟨prepared.2,
        .call 1 (.commit Engine.samplePlan 0), .working, granting⟩ :: later.1, later.2) := by
  have later : play (step {}) prepared.2
      (asks 1 (fun engine => .commit (engine.planFor 1) 0) :: rest) =
      (play (step {}) granting rest).map fun later => (⟨prepared.2,
        .call 1 (.commit Engine.samplePlan 0), .working, granting⟩ :: later.1, later.2) := by
    rw [play, prepared_asks, granting_called]
  rw [play_append prepared_played, later, Option.map_map]
  rfl

def unhurried (step : ServerStep) : Bool :=
  match step.input, step.before.process with
  | .proceed _ saved, _ => saved
  | .call _ _, some process =>
      process.threads.isEmpty && process.engine.state.records.isEmpty &&
        process.engine.persistEpoch.toNat < 100
  | _, _ => true

theorem unhurried_sound {step : ServerStep} (checked : unhurried step = true) :
    ¬step.before.Lapses step.input := by
  rintro (⟨process, thread, own, target, snapshot, reply, record, _, input, _⟩ |
    ⟨process, thread, request, now, record, up, input, _, _, ⟨other, phase, found, _⟩, _⟩ |
    ⟨process, thread, op, record, up, input, _, found, _⟩ |
    ⟨process, thread, op, reply, next, up, input, _, _, full⟩)
  · simp [unhurried, input] at checked
  all_goals
    simp only [unhurried, input, up, Bool.and_eq_true, Std.ExtTreeMap.isEmpty_iff,
      decide_eq_true_eq] at checked
  · exact Engine.no_entry checked.1.1 found
  · exact Engine.no_entry checked.1.2 found
  · have small := checked.2
    simp only [UInt64.size] at full
    omega

def endsPromoted (trace : List ServerStep) : Option PromotionRecord :=
  trace.getLast?.bind fun step =>
    match step.output with
    | .answered reply => reply.promoted?
    | _ => none

theorem endsPromoted_spec {trace : List ServerStep} {record : PromotionRecord}
    (ends : endsPromoted trace = some record) :
    ∃ step ∈ trace, trace.getLast? = some step ∧ ∃ reply, step.output = .answered reply ∧
      reply.promoted? = some record := by
  obtain ⟨step, last, answered⟩ := Option.bind_eq_some_iff.mp ends
  split at answered
  · rename_i reply output
    exact ⟨step, List.mem_of_getLast? last, last, reply, output, answered⟩
  · simp at answered

theorem run_acknowledged_saved_promoted :
    ∃ (trace : List ServerStep) (final : CoordinatorServer) (step : ServerStep) (reply : Reply)
      (record : PromotionRecord), ServerRun {} trace final ∧
        (∀ step ∈ trace, ¬step.before.Lapses step.input) ∧ step ∈ trace ∧
        step.output = .answered reply ∧ reply.promoted? = some record ∧
        Kept step.before.files record := by
  have evaluated : (play (step {}) {} (preparations ++
      serves (fun engine => .commit (engine.planFor 1) 0) (List.replicate 6 true))).any
        (fun played => played.1.all unhurried && (endsPromoted played.1).isSome) = true := by
    rw [serves, play_granting]
    decide +kernel
  obtain ⟨trace, final, run, checked⟩ := run_of_checked evaluated
  simp only [Bool.and_eq_true, List.all_eq_true, Option.isSome_iff_exists] at checked
  obtain ⟨quiet, record, ends⟩ := checked
  obtain ⟨step, executed, _, reply, answered, promoted⟩ := endsPromoted_spec ends
  have condition : ∀ step ∈ trace, ¬step.before.Lapses step.input :=
    fun step inside => unhurried_sound (quiet step inside)
  have acknowledges := run_acknowledged_saved run condition step executed reply answered
  exact ⟨trace, final, step, reply, record, run, condition, executed, answered, promoted,
    acknowledges.promoted record promoted⟩

def unrecorded (step : ServerStep) : Bool :=
  step.before.files.all fun snapshot => snapshot.records.isEmpty

/-- The write of a commit fails, and the commit is acknowledged all the same. -/
theorem failed_save_acknowledged :
    ∃ (trace : List ServerStep) (final : CoordinatorServer) (step : ServerStep) (reply : Reply)
      (record : PromotionRecord), ServerRun {} trace final ∧ step ∈ trace ∧
        step.output = .answered reply ∧ reply.promoted? = some record ∧
        ¬Kept step.before.files record := by
  have evaluated : (play (step {}) {} (preparations ++
      serves (fun engine => .commit (engine.planFor 1) 0)
        [true, true, false, true, true, true])).any
        (fun played => (endsPromoted played.1).isSome && played.1.all unrecorded) = true := by
    rw [serves, play_granting]
    decide +kernel
  obtain ⟨trace, final, run, checked⟩ := run_of_checked evaluated
  simp only [Bool.and_eq_true, List.all_eq_true, Option.isSome_iff_exists] at checked
  obtain ⟨⟨record, ends⟩, never⟩ := checked
  obtain ⟨step, executed, _, reply, answered, promoted⟩ := endsPromoted_spec ends
  refine ⟨trace, final, step, reply, record, run, executed, answered, promoted, ?_⟩
  rintro ⟨snapshot, filed, stored, present, _⟩
  have empty := List.all_eq_true.mp (never step executed) snapshot filed
  exact Engine.no_entry (Std.ExtTreeMap.isEmpty_iff.mp empty) present

end CoordinatorServer

end ArtifactPromotion
