import ArtifactPromotion.Distributed.PayloadCodecs
import ArtifactPromotion.Distributed.Server
import ArtifactPromotion.Engine.Reservations
import ArtifactPromotion.Persist.Accepted

/-! Artifacts registered over the wire: which record the coordinator keeps of a registration that a
worker sends, compared with the one it keeps of a local call. -/

namespace ArtifactPromotion

open Protocol

namespace Engine

variable {engine : Engine}

structure AdmitsRevision (engine : Engine) (registration : ArtifactRegistration) : Prop where
  opened : engine.admissionOpen = true
  room : engine.state.artifacts.contains registration.id = true ∨
    engine.state.artifacts.size < engine.config.maxArtifacts.toNat
  unclaimed : classConflict engine.state registration = none
  bounded : (engine.state.chain registration.id).length <
    engine.config.maxArtifactRevisionsPerId.toNat
  changed : ∀ last, (engine.state.chain registration.id).getLast? = some last →
    last.digest ≠ registration.digest

def registeringState (engine : Engine) (id : ArtifactId) : CoordinatorState :=
  let revision := engine.state.revisionGenerator.next
  (supersedePrevious { engine.state with
    revisionGenerator := engine.state.revisionGenerator.advance
    artifacts := engine.state.artifacts.insert id (engine.state.chain id) }
      revision id).advanceSequence

theorem setChain_findCurrent (state : CoordinatorState) (id : ArtifactId) (earlier : List ArtifactRecord)
    (record : ArtifactRecord) :
    (state.setChain id (earlier ++ [record])).findCurrent id = some record := by
  unfold CoordinatorState.findCurrent CoordinatorState.chain CoordinatorState.setChain
  dsimp only
  rw [Std.ExtTreeMap.getD_insert_self, List.getLast?_concat]

theorem registerArtifact_admitted {registration : ArtifactRegistration} {now : UInt64}
    (validated : registration.validate = .ok ()) (admits : engine.AdmitsRevision registration) :
    (engine.registerArtifact registration now).1 = .ok (registrationRecord
        (engine.registeringState registration.id) registration
        engine.state.revisionGenerator.next now) ∧
      (engine.registerArtifact registration now).2.state.findCurrent registration.id =
        some (registrationRecord (engine.registeringState registration.id) registration
          engine.state.revisionGenerator.next now) := by
  obtain ⟨opened, room, unclaimed, bounded, changed⟩ := admits
  have fits : (!engine.state.artifacts.contains registration.id &&
      decide (engine.state.artifacts.size ≥ engine.config.maxArtifacts.toNat)) = false := by
    rcases room with held | room
    · simp [held]
    · simp [room]
  have fresh : ((engine.state.chain registration.id).getLast?.any fun last =>
      last.digest == registration.digest) = false := by
    cases found : (engine.state.chain registration.id).getLast? with
    | none => rfl
    | some last => simpa using changed last found
  unfold registerArtifact
  simp only [validated, opened, fits, unclaimed, fresh, if_neg (not_le.mpr bounded),
    Bool.not_true, Bool.false_eq_true, if_false]
  exact ⟨rfl, setChain_findCurrent _ _ _ _⟩

theorem registerArtifact_barred {registration : ArtifactRegistration} {now : UInt64}
    (validated : registration.validate = .ok ()) (barred : ¬engine.AdmitsRevision registration) :
    ∃ status, (engine.registerArtifact registration now).1 = .error status ∧
      (engine.registerArtifact registration now).2.state.findCurrent registration.id =
        engine.state.findCurrent registration.id := by
  have reserved : ({ engine.state with
      revisionGenerator := engine.state.revisionGenerator.advance
      artifacts := engine.state.artifacts.insert registration.id
        (engine.state.chain registration.id) } : CoordinatorState).findCurrent registration.id =
      engine.state.findCurrent registration.id := by
    unfold CoordinatorState.findCurrent
    rw [CoordinatorState.chain]
    dsimp only
    rw [Std.ExtTreeMap.getD_insert_self]
  unfold registerArtifact
  simp only [validated]
  split
  · exact ⟨_, rfl, rfl⟩
  rename_i opened
  split
  · exact ⟨_, rfl, rfl⟩
  rename_i room
  split
  · exact ⟨_, rfl, rfl⟩
  rename_i unclaimed
  split
  · exact ⟨_, rfl, reserved⟩
  rename_i bounded
  split
  · exact ⟨_, rfl, reserved⟩
  rename_i changed
  refine absurd ⟨by simpa using opened, ?_, unclaimed, not_le.mp bounded, ?_⟩ barred
  · simp only [Bool.and_eq_true, Bool.not_eq_true', decide_eq_true_eq, not_and, not_le] at room
    cases held : engine.state.artifacts.contains registration.id with
    | true => exact .inl rfl
    | false => exact .inr (room held)
  · intro last found same
    rw [found] at changed
    exact changed (by simp [same])

end Engine

namespace WorkerClient

/-- What `handshake` keeps of the coordinator's answer. -/
def adopt (client : WorkerClient) (authority : CoordinatorAuthority) : WorkerClient :=
  { client with coordinator := authority.coordinator, epoch := authority.epoch }

/-- Of a provenance record only the reference is sent. -/
def registrationPayload (registration : ArtifactRegistration) : RegisterArtifactPayload :=
  { artifact := registration.id, kind := registration.kind, digest := registration.digest,
    sizeBytes := registration.sizeBytes, name := registration.name,
    provenance := registration.provenance.map ProvenanceRecord.reference,
    dependencies := registration.dependencies }

def registerArtifactFrame (client : WorkerClient) (registration : ArtifactRegistration) :
    Result Frame := do
  registration.validate
  let payload ← encodeRegisterArtifact (registrationPayload registration)
  return { type := .registerArtifactRequest, request := client.requestGenerator.next,
           coordinator := client.coordinator, epoch := client.epoch, worker := client.worker,
           boot := client.boot, payload }

theorem construct_worker_valid (configured : WorkerId) (readings : ClientReadings) :
    (construct configured readings).worker.valid = true := by
  unfold construct
  dsimp only
  split
  · assumption
  · simp [Identity.valid, entropy_ne_zero]

theorem registerArtifactFrame_eq_ok {client : WorkerClient} {registration : ArtifactRegistration}
    {request : Frame} (sent : client.registerArtifactFrame registration = .ok request) :
    registration.validate = .ok () ∧ request =
      { type := .registerArtifactRequest, request := client.requestGenerator.next,
        coordinator := client.coordinator, epoch := client.epoch, worker := client.worker,
        boot := client.boot,
        payload := writeRegisterArtifact (registrationPayload registration) } := by
  simp only [registerArtifactFrame, encodeRegisterArtifact, bind_eq_ok, rejectWhen_eq_ok] at sent
  obtain ⟨_, validated, payload, ⟨_, _, encoded⟩, made⟩ := sent
  cases encoded
  cases made
  exact ⟨validated, rfl⟩

theorem registrationPayload_readable {registration : ArtifactRegistration}
    (validated : registration.validate = .ok ())
    (provenanceFits : registration.provenance.length ≤ kMaxProvenanceList)
    (dependenciesFit : registration.dependencies.length ≤ kMaxDependencyList) :
    (registrationPayload registration).Readable := by
  simp only [ArtifactRegistration.validate, bind_eq_ok, rejectWhen_eq_ok, checkEach_eq_ok,
    Bool.not_eq_false'] at validated
  obtain ⟨_, _, _, kind, _, _, _, name, _, _, _, _, _, _, _, _, dependencies⟩ := validated
  have named {value : Text} (wellFormed : isValidName value = true) :
      value.length ≤ kMaxNameLength := by
    simp only [isValidName, Bool.and_eq_true, decide_eq_true_eq] at wellFormed
    exact wellFormed.1.2
  refine ⟨kind, named name, by simpa [registrationPayload] using provenanceFits, dependenciesFit,
    fun dependency inside => named ?_⟩
  have checked := dependencies dependency inside
  simpa [ArtifactRegistration.checkDependency] using checked

open Decoding in
theorem readRegisterArtifact_delivers : Delivers readRegisterArtifact fun payload =>
    payload.provenance.length ≤ kMaxProvenanceList ∧
      payload.dependencies.length ≤ kMaxDependencyList := by
  have references : Delivers (Reader.identity : Decode ProvenanceRef) fun _ => True :=
    fun _ _ _ _ => trivial
  have names : Delivers (Reader.text kMaxNameLength) fun _ => True := fun _ _ _ _ => trivial
  refine .skip fun artifact => .skip fun kind => .skip fun digest => .skip fun size => ?_
  refine .skip fun name => .bind (Codec.readList_delivers references) fun provenance sized => ?_
  exact .bind (Codec.readList_delivers names) fun dependencies counted => .pure ⟨sized.1, counted.1⟩

/-- What the client encodes of a registration that it accepts comes back at the server exactly when
neither list is longer than the decoder's bound. -/
theorem registration_decodes_iff {registration : ArtifactRegistration}
    (validated : registration.validate = .ok ()) :
    (∃ bytes, encodeRegisterArtifact (registrationPayload registration) = .ok bytes ∧
      decodeRegisterArtifact bytes = .ok (registrationPayload registration)) ↔
    registration.provenance.length ≤ kMaxProvenanceList ∧
      registration.dependencies.length ≤ kMaxDependencyList := by
  constructor
  · rintro ⟨bytes, encoded, decoded⟩
    obtain ⟨next, answered⟩ := decodeWhole_answers decoded
    have bounded := readRegisterArtifact_delivers _ _ _ answered
    simpa [registrationPayload] using bounded
  · rintro ⟨provenanceFits, dependenciesFit⟩
    refine ⟨writeRegisterArtifact (registrationPayload registration), ?_,
      decode_encodeRegisterArtifact
        (registrationPayload_readable validated provenanceFits dependenciesFit)⟩
    simp only [ArtifactRegistration.validate, bind_eq_ok, rejectWhen_eq_ok,
      Bool.not_eq_false'] at validated
    obtain ⟨_, _, _, _, _, _, _, named, _⟩ := validated
    have fits : registration.name.length ≤ kMaxNameLength := by
      simp only [isValidName, Bool.and_eq_true, decide_eq_true_eq] at named
      exact named.1.2
    simp only [encodeRegisterArtifact, bind_eq_ok, rejectWhen_eq_ok]
    refine ⟨(), ?_, rfl⟩
    simp [registrationPayload, named, fits]

def sourcedRegistration : ArtifactRegistration :=
  { Engine.sampleRegistration 1 with
    provenance :=
      [{ reference := ⟨3, 1⟩, source := text "build farm", subject := text "service",
         resolution := .resolved },
        { reference := ⟨3, 2⟩, source := text "mirror", resolution := .superseded }]
    dependencies := [text "runtime", text "library", text "headers"] }

theorem registration_decodes_sample : ∃ bytes,
    encodeRegisterArtifact (registrationPayload sourcedRegistration) = .ok bytes ∧
      decodeRegisterArtifact bytes = .ok (registrationPayload sourcedRegistration) :=
  (registration_decodes_iff (by decide +kernel)).mpr (by decide)

/-- One name more than the decoder takes, far below what a registration may list. -/
def dependentRegistration : ArtifactRegistration :=
  { Engine.sampleRegistration 1 with dependencies := List.replicate 33 (text "runtime") }

theorem dependentRegistration_refused : dependentRegistration.validate = .ok () ∧
    ∃ bytes status,
      encodeRegisterArtifact (registrationPayload dependentRegistration) = .ok bytes ∧
        decodeRegisterArtifact bytes = .error status := by
  refine ⟨by decide +kernel, writeRegisterArtifact (registrationPayload dependentRegistration), ?_⟩
  have refused : (decodeRegisterArtifact
      (writeRegisterArtifact (registrationPayload dependentRegistration))).toBool = false := by
    decide +kernel
  cases answer : decodeRegisterArtifact
      (writeRegisterArtifact (registrationPayload dependentRegistration)) with
  | ok payload => simp [answer, Except.toBool] at refused
  | error status => exact ⟨status, rfl, rfl⟩

end WorkerClient

namespace FrameServer

/-- The record that the server keeps of a provenance record sent to it. -/
def rebuilt (record : ProvenanceRecord) : ProvenanceRecord := receivedProvenance record.reference

/-- The registration that the server makes of the client's request for it. -/
def remoteRegistration (request : Frame) (registration : ArtifactRegistration) :
    ArtifactRegistration :=
  { registration with
    producer := ⟨request.worker, request.boot⟩, provenance := registration.provenance.map rebuilt }

structure RegistersAlike (server : FrameServer) (circumstances : Circumstances) (request : Frame)
    (registration : ArtifactRegistration) : Prop where
  stored : ∀ record,
    (server.engine.registerArtifact registration circumstances.now).1 = .ok record →
      (server.handleFrame circumstances request).2.engine.state.findCurrent registration.id =
        some { record with producer := ⟨request.worker, request.boot⟩ }
  refused : ∀ status,
    (server.engine.registerArtifact registration circumstances.now).1 = .error status →
      (∃ answered, (server.handleFrame circumstances request).1 = .error answered) ∧
      (server.handleFrame circumstances request).2.engine.state.findCurrent registration.id =
        server.engine.state.findCurrent registration.id

theorem remoteRegistration_validate {request : Frame} {registration : ArtifactRegistration}
    (validated : registration.validate = .ok ()) (worker : request.worker.valid = true)
    (boot : request.boot.valid = true) :
    (remoteRegistration request registration).validate = .ok () := by
  have producer : ProducerIncarnation.valid ⟨request.worker, request.boot⟩ = true := by
    rw [ProducerIncarnation.valid, worker, boot]
    rfl
  have source : ((text "research-ledger").isEmpty ||
      decide ((text "research-ledger").length > kMaxNameLength)) = false := by
    decide
  simp only [ArtifactRegistration.validate, bind_eq_ok, rejectWhen_eq_ok, checkEach_eq_ok,
    ArtifactRegistration.checkProvenance, Bool.not_eq_false', exists_const] at validated ⊢
  obtain ⟨id, kind, digest, name, _, provenanceFits, dependenciesFit, provenance, dependencies⟩ :=
    validated
  refine ⟨id, kind, digest, name, producer, by simpa [remoteRegistration] using provenanceFits,
    dependenciesFit, ?_, dependencies⟩
  intro record inside
  obtain ⟨sent, carried, rfl⟩ := List.mem_map.mp inside
  exact ⟨(provenance sent carried).1, source⟩

theorem admits_remote {engine : Engine} {request : Frame} {registration : ArtifactRegistration} :
    engine.AdmitsRevision (remoteRegistration request registration) ↔
      engine.AdmitsRevision registration := by
  constructor <;> exact fun ⟨opened, room, unclaimed, bounded, changed⟩ =>
    ⟨opened, room, unclaimed, bounded, changed⟩

/-- The server keeps the provenance it was sent exactly when it would have made it up. -/
theorem sorted_rebuilt_iff (records : List ProvenanceRecord) :
    Engine.sortProvenance (records.map rebuilt) = Engine.sortProvenance records ↔
      ∀ record ∈ records, rebuilt record = record := by
  constructor
  · intro same record inside
    have sorted : record ∈ Engine.sortProvenance records :=
      (List.mem_insertionSort _).mpr inside
    rw [← same] at sorted
    obtain ⟨other, _, rfl⟩ := List.mem_map.mp ((List.mem_insertionSort _).mp sorted)
    rfl
  · intro kept
    rw [map_eq_self_iff.mpr kept]

section Remote

open WorkerClient (construct)

variable {server : FrameServer} {configured : WorkerId} {readings : ClientReadings}
  {registration : ArtifactRegistration} {request : Frame}

theorem handleFrame_registers (circumstances : Circumstances)
    (sent : ((construct configured readings).adopt
      server.engine.state.authority).registerArtifactFrame registration = .ok request)
    (provenanceFits : registration.provenance.length ≤ kMaxProvenanceList)
    (dependenciesFit : registration.dependencies.length ≤ kMaxDependencyList) :
    if server.engine.admissionOpen then
      server.handleFrame circumstances request =
        (((server.engine.registerArtifact (remoteRegistration request registration)
          circumstances.now).1.map fun record => artifactAnswer .registerArtifactResponse
            { outcome := .promotionCommitted, artifact := record, hasArtifact := true }),
          { server with engine := (server.engine.registerArtifact
            (remoteRegistration request registration) circumstances.now).2 })
    else ∃ status, server.handleFrame circumstances request = (.error status, server) := by
  obtain ⟨validated, made⟩ := WorkerClient.registerArtifactFrame_eq_ok sent
  have decoded : decodeRegisterArtifact request.payload =
      .ok (WorkerClient.registrationPayload registration) := by
    rw [made]
    exact decode_encodeRegisterArtifact
      (WorkerClient.registrationPayload_readable validated provenanceFits dependenciesFit)
  have typed : request.type = .registerArtifactRequest := by rw [made]
  have received : receivedRegistration request (WorkerClient.registrationPayload registration) =
      remoteRegistration request registration := by
    simp [receivedRegistration, WorkerClient.registrationPayload, remoteRegistration, rebuilt,
      Function.comp_def]
  have authorized : requireCurrentAuthority server.engine request =
      rejectWhen (!server.engine.admissionOpen) .shuttingDown
        "the coordinator is shutting down" := by
    have current : (request.coordinator != server.engine.state.coordinator ||
        request.epoch != server.engine.state.epoch) = false := by
      rw [made]
      simp [WorkerClient.adopt, CoordinatorState.authority]
    unfold requireCurrentAuthority
    rw [current]
    cases server.engine.admissionOpen <;> rfl
  unfold handleFrame withAuthority
  simp only [typed, authorized, decoded, received]
  cases server.engine.admissionOpen with
  | false => exact ⟨_, rfl⟩
  | true => rfl

theorem sent_validate (sent : ((construct configured readings).adopt
    server.engine.state.authority).registerArtifactFrame registration = .ok request) :
    (remoteRegistration request registration).validate = .ok () := by
  obtain ⟨validated, made⟩ := WorkerClient.registerArtifactFrame_eq_ok sent
  apply remoteRegistration_validate validated
  · rw [made]
    exact WorkerClient.construct_worker_valid configured readings
  · rw [made]
    exact WorkerClient.construct_boot_valid configured readings

theorem remote_record (circumstances : Circumstances)
    (sent : ((construct configured readings).adopt
      server.engine.state.authority).registerArtifactFrame registration = .ok request)
    (provenanceFits : registration.provenance.length ≤ kMaxProvenanceList)
    (dependenciesFit : registration.dependencies.length ≤ kMaxDependencyList)
    (admits : server.engine.AdmitsRevision registration) :
    ∃ record, (server.engine.registerArtifact registration circumstances.now).1 = .ok record ∧
      record.provenance = Engine.sortProvenance registration.provenance ∧
      (server.handleFrame circumstances request).2.engine.state.findCurrent registration.id =
        some { record with
          producer := ⟨request.worker, request.boot⟩
          provenance := Engine.sortProvenance (registration.provenance.map rebuilt) } := by
  obtain ⟨validated, _⟩ := WorkerClient.registerArtifactFrame_eq_ok sent
  have handled := handleFrame_registers circumstances sent provenanceFits dependenciesFit
  rw [if_pos admits.opened] at handled
  refine ⟨_, (Engine.registerArtifact_admitted validated admits).1, rfl, ?_⟩
  rw [handled]
  exact (Engine.registerArtifact_admitted (sent_validate sent) (admits_remote.mpr admits)).2

/-- The registration is kept as the engine would keep it exactly when its provenance says what the
server makes up about every reference, or when nothing is kept at all. -/
theorem registers_alike_iff (circumstances : Circumstances)
    (sent : ((construct configured readings).adopt
      server.engine.state.authority).registerArtifactFrame registration = .ok request)
    (provenanceFits : registration.provenance.length ≤ kMaxProvenanceList)
    (dependenciesFit : registration.dependencies.length ≤ kMaxDependencyList) :
    server.RegistersAlike circumstances request registration ↔
      (server.engine.AdmitsRevision registration →
        ∀ record ∈ registration.provenance, rebuilt record = record) := by
  obtain ⟨validated, _⟩ := WorkerClient.registerArtifactFrame_eq_ok sent
  by_cases admits : server.engine.AdmitsRevision registration
  · obtain ⟨record, accepted, sorted, remote⟩ :=
      remote_record circumstances sent provenanceFits dependenciesFit admits
    rw [← sorted_rebuilt_iff]
    constructor
    · intro alike _
      have same := alike.stored record accepted
      rw [remote, Option.some.injEq] at same
      exact (congrArg ArtifactRecord.provenance same).trans sorted
    · intro kept
      constructor
      · intro other accepted'
        rw [accepted] at accepted'
        cases accepted'
        rw [remote, kept admits, ← sorted]
      · intro status failed
        rw [accepted] at failed
        cases failed
  · refine ⟨fun _ admits' => absurd admits' admits, fun _ => ?_⟩
    obtain ⟨status, failed, _⟩ :=
      @Engine.registerArtifact_barred _ _ circumstances.now validated admits
    constructor
    · intro record accepted
      rw [failed] at accepted
      cases accepted
    · intro _ _
      have handled := handleFrame_registers circumstances sent provenanceFits dependenciesFit
      split at handled
      · obtain ⟨answered, refused, current⟩ := @Engine.registerArtifact_barred _ _
          circumstances.now (sent_validate sent) fun admits' => admits (admits_remote.mp admits')
        rw [handled]
        exact ⟨⟨answered, by rw [refused]; rfl⟩, current⟩
      · obtain ⟨answered, refused⟩ := handled
        rw [refused]
        exact ⟨⟨_, rfl⟩, rfl⟩

def provenRegistration (record : ProvenanceRecord) : ArtifactRegistration :=
  { Engine.sampleRegistration 1 with provenance := [record] }

def provenRequest (record : ProvenanceRecord) : Result Frame :=
  ((construct ⟨0, 7⟩ (CoordinatorServer.readingsFrom 998)).adopt
    Engine.sampleEngine.state.authority).registerArtifactFrame (provenRegistration record)

def rejectedProvenance : ProvenanceRecord :=
  { reference := ⟨0, 3⟩, source := text "audit", subject := text "run", resolution := .rejected }

theorem sampleEngine_admits (record : ProvenanceRecord) :
    Engine.sampleEngine.AdmitsRevision (provenRegistration record) := by
  have unknown : Engine.sampleEngine.state.chain ⟨0, 5⟩ = [] := by decide
  constructor
  · rfl
  · exact .inr (by decide)
  · rfl
  · exact (congrArg List.length unknown).trans_lt (by decide)
  · intro last found
    rw [show Engine.sampleEngine.state.chain (provenRegistration record).id = [] from unknown]
      at found
    cases found

theorem registers_alike_iff_resolved : ∃ request,
    provenRequest (receivedProvenance ⟨0, 3⟩) = .ok request ∧
      RegistersAlike { engine := Engine.sampleEngine } ⟨0, 0, .ok ()⟩ request
        (provenRegistration (receivedProvenance ⟨0, 3⟩)) := by
  have evaluated : (provenRequest (receivedProvenance ⟨0, 3⟩)).toOption.isSome = true := by
    decide +kernel
  cases sent : provenRequest (receivedProvenance ⟨0, 3⟩) with
  | error status =>
      rw [sent] at evaluated
      cases evaluated
  | ok request =>
      refine ⟨request, rfl, (@registers_alike_iff { engine := Engine.sampleEngine } _ _ _ _
        ⟨0, 0, .ok ()⟩ sent (by decide) (by decide)).mpr fun _ => ?_⟩
      simp [provenRegistration, rebuilt, receivedProvenance]

/-- The coordinator keeps a rejected reference as a resolved one. -/
theorem rejected_provenance_resolved : ∃ request,
    provenRequest rejectedProvenance = .ok request ∧
      ¬RegistersAlike { engine := Engine.sampleEngine } ⟨0, 0, .ok ()⟩ request
        (provenRegistration rejectedProvenance) := by
  have evaluated : (provenRequest rejectedProvenance).toOption.isSome = true := by
    decide +kernel
  cases sent : provenRequest rejectedProvenance with
  | error status =>
      rw [sent] at evaluated
      cases evaluated
  | ok request =>
      refine ⟨request, rfl, fun alike => ?_⟩
      obtain ⟨record, accepted, sorted, remote⟩ :=
        @remote_record { engine := Engine.sampleEngine } _ _ _ _ ⟨0, 0, .ok ()⟩ sent
          (by decide) (by decide) (sampleEngine_admits _)
      have same := alike.stored record accepted
      rw [remote, Option.some.injEq] at same
      have kept : Engine.sortProvenance ([rejectedProvenance].map rebuilt) =
          Engine.sortProvenance [rejectedProvenance] :=
        (congrArg ArtifactRecord.provenance same).trans sorted
      exact absurd kept (by decide)

end Remote

end FrameServer

end ArtifactPromotion
