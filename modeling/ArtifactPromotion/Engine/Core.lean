import ArtifactPromotion.Engine.Gates

/-! The coordinator engine: construction, policy publication, restart, registration, evidence
submission and state transfer. A mutating method is a function from the engine to its result and
the engine it leaves behind; clock readings and entropy are arguments. -/

namespace ArtifactPromotion

def eraseFirst {κ ν : Type} [Ord κ] [Std.TransOrd κ] (map : OrderedMap κ ν) : OrderedMap κ ν :=
  match map.minKey? with
  | none => map
  | some key => map.erase key

/-- Stores an entry in a bounded map: a full map first loses its smallest key. -/
def putBounded {κ ν : Type} [Ord κ] [Std.TransOrd κ] (bound : UInt64) (map : OrderedMap κ ν)
    (key : κ) (value : ν) : OrderedMap κ ν :=
  (if map.size ≥ bound.toNat then eraseFirst map else map).insert key value

def boundedText (value : Text) (limit : Nat) : Text := value.take limit

namespace CoordinatorState

def advanceSequence (state : CoordinatorState) : CoordinatorState :=
  { state with commitSequence := state.commitSequence.next }

def storeEvent (state : CoordinatorState) (event : HistoryEvent) : CoordinatorState :=
  { state with history := state.history.insert event.sequence event }

/-- The bounded form used by most operations. -/
def recordEvent (state : CoordinatorState) (config : EngineConfig) (event : HistoryEvent) :
    CoordinatorState :=
  { state with history := putBounded config.maxHistoryEvents state.history event.sequence event }

def storeRecord (state : CoordinatorState) (config : EngineConfig) (record : PromotionRecord) :
    CoordinatorState :=
  { state with
    records := putBounded config.maxRecordsRetained state.records record.transition record }

def setChain (state : CoordinatorState) (id : ArtifactId) (chain : List ArtifactRecord) :
    CoordinatorState :=
  { state with artifacts := state.artifacts.insert id chain }

/-- Writes through the pointer `find_current` returned. -/
def replaceCurrent (state : CoordinatorState) (id : ArtifactId) (record : ArtifactRecord) :
    CoordinatorState :=
  state.setChain id ((state.chain id).dropLast ++ [record])

def replaceFirst (revision : ArtifactRevision) (record : ArtifactRecord) :
    List ArtifactRecord → List ArtifactRecord
  | [] => []
  | head :: rest =>
      if head.revision = revision then record :: rest else head :: replaceFirst revision record rest

def replaceRevision (state : CoordinatorState) (id : ArtifactId) (revision : ArtifactRevision)
    (record : ArtifactRecord) : CoordinatorState :=
  state.setChain id (replaceFirst revision record (state.chain id))

def releasePending (state : CoordinatorState) (id : ArtifactId) : CoordinatorState :=
  { state with pending := state.pending.erase id }

end CoordinatorState

structure Engine where
  config : EngineConfig
  state : CoordinatorState
  admissionOpen : Bool := true
  persistEpoch : UInt64 := 0
  persistCleanEpoch : UInt64 := 0

def seedFrom (base index : UInt64) : UInt64 :=
  let mixed := base + index * 0x9E3779B97F4A7C15
  let mixed := (mixed ^^^ (mixed >>> 30)) * 0xBF58476D1CE4E5B9
  let mixed := (mixed ^^^ (mixed >>> 27)) * 0x94D049BB133111EB
  let mixed := mixed ^^^ (mixed >>> 31)
  if mixed = 0 then 1 else mixed

namespace Engine

/-- The constructor. `salting` and `naming` are the two values `entropy()` returns. -/
def create (config : EngineConfig) (epoch : CoordinatorEpoch) (salting naming : UInt64) : Engine :=
  let config := if config.valid then config else {}
  let salt := seedFrom config.identitySaltSeed salting
  let state : CoordinatorState :=
    { coordinator := ⟨salt, naming⟩
      epoch := if epoch.valid then epoch else ⟨1⟩
      compatibilityGeneration := ⟨1⟩
      compatibilityProfile := ⟨salt, 0xB2⟩
      revisionGenerator := .seeded (seedFrom salt 1)
      evidenceGenerator := .seeded (seedFrom salt 2)
      planGenerator := .seeded (seedFrom salt 3)
      decisionGenerator := .seeded (seedFrom salt 4)
      transitionGenerator := .seeded (seedFrom salt 5)
      reservationGenerator := .seeded (seedFrom salt 6)
      instanceGenerator := .seeded (seedFrom salt 7)
      provenanceGenerator := .seeded (seedFrom salt 8) }
  { config, state := state.setActivePolicy (makeReferencePolicy ⟨salt, 0xA1⟩ ⟨1⟩) }

def dirty (engine : Engine) (state : CoordinatorState) : Engine :=
  { engine with state, persistEpoch := engine.persistEpoch + 1 }

def refuse {α : Type} (engine : Engine) (code : ErrorCode) (message : String)
    (subject : Text := []) : Result α × Engine :=
  (.error (.of code (text message) subject), engine)

def shuttingDown {α : Type} (engine : Engine) : Result α × Engine :=
  engine.refuse .shuttingDown "the coordinator is not admitting new work"

def closeAdmission (engine : Engine) : Engine := { engine with admissionOpen := false }

def openAdmission (engine : Engine) : Engine := { engine with admissionOpen := true }

def publishPolicy (engine : Engine) (policy : PromotionPolicy) :
    Option (Result PolicyGeneration × Engine) :=
  policy.validate.map fun validation =>
    match validation with
    | .error status => (.error status, engine)
    | .ok () =>
        let policy := { policy with policyDigest := policy.computeDigest }
        if policy.id = engine.state.activePolicy &&
            !(policy.generation.value > engine.state.activePolicyGeneration.value) then
          engine.refuse .conflict
            "republishing the same policy identity requires an advancing generation"
        else
          let state := (engine.state.setActivePolicy policy).advanceSequence
          let state := state.recordEvent engine.config
            { sequence := state.commitSequence, kind := .policyPublished,
              authority := state.authority
              note := text "policy generation " ++ policy.generation.toText ++ text " published" }
          (.ok policy.generation, engine.dirty state)

/-- Drops the reservation of one artifact and leaves a recovery note. -/
def releaseOne (note : PendingTransition → Text) (state : CoordinatorState) (id : ArtifactId) :
    CoordinatorState :=
  match state.pending[id]? with
  | none => state
  | some pending =>
      let state := state.advanceSequence
      (state.storeEvent
        { sequence := state.commitSequence, kind := .recoveryNote, artifact := id,
          artifactRevision := pending.artifactRevision, authority := state.authority
          note := note pending }).releasePending id

def releaseAll (note : PendingTransition → Text) (state : CoordinatorState) : CoordinatorState :=
  state.pending.keys.foldl (releaseOne note) state

def restart (engine : Engine) (epoch : CoordinatorEpoch) : Result CoordinatorEpoch × Engine :=
  if !epoch.valid || !(epoch.value > engine.state.epoch.value) then
    engine.refuse .invalidCount "a coordinator restart must advance the coordinator epoch"
  else
    (.ok epoch, engine.dirty (releaseAll (fun pending =>
      text "reservation released by coordinator restart; plan " ++ pending.plan.toText ++
        text " is not authority under the new epoch") { engine.state with epoch }))

def recoverInFlight (engine : Engine) : Nat × Engine :=
  let released := engine.state.pending.size
  let state := releaseAll (fun _ =>
    text "in-flight transition recovered conservatively: not promoted, reservation released")
    engine.state
  (released, if released > 0 then engine.dirty state else { engine with state })

def ProvenanceRecord.order (left right : ProvenanceRecord) : Ordering :=
  (compare left.reference right.reference).then
    ((textCompare left.source right.source).then (textCompare left.subject right.subject))

def sortProvenance (records : List ProvenanceRecord) : List ProvenanceRecord :=
  records.insertionSort fun left right => ProvenanceRecord.order left right ≠ .gt

def sortDependencies (names : List Text) : List Text :=
  dropRepeats (names.insertionSort fun left right => textCompare left right ≠ .gt)

def classConflict (state : CoordinatorState) (registration : ArtifactRegistration) :
    Option ArtifactId :=
  (state.artifacts.toList.find? fun entry => entry.2.any fun other =>
    other.digest == registration.digest && other.kind != registration.kind).map Prod.fst

/-- What registering `revision` does to the previous revision of the identity. -/
def supersedeByRegistration (state : CoordinatorState) (revision : ArtifactRevision)
    (previous : ArtifactRecord) (id : ArtifactId) : ArtifactRecord :=
  let superseded := { previous with
    supersession :=
      { active := true, successor := id, successorRevision := revision
        reason := text "newer revision of the same artifact identity was registered"
        authority := state.stampAuthority, sequence := state.commitSequence }
    lastSequence := state.commitSequence }
  if previous.stage ≠ .promoted && previous.stage ≠ .revoked && previous.stage ≠ .retired then
    { superseded with
      stage := .superseded, stageGeneration := superseded.stageGeneration.next }
  else superseded

/-- Marks the last revision of a non-empty chain as superseded and records the event. -/
def supersedePrevious (state : CoordinatorState) (revision : ArtifactRevision) (id : ArtifactId) :
    CoordinatorState :=
  match state.findCurrent id with
  | none => state
  | some previous =>
      let state := state.advanceSequence
      let superseded := supersedeByRegistration state revision previous id
      (state.replaceCurrent id superseded).storeEvent
        { sequence := state.commitSequence, kind := .artifactSupersededRegistration,
          artifact := superseded.id, artifactRevision := superseded.revision,
          source := superseded.stage, target := superseded.stage, authority := state.authority
          note := text "superseded by revision " ++ revision.toText }

def registrationRecord (state : CoordinatorState) (registration : ArtifactRegistration)
    (revision : ArtifactRevision) (now : UInt64) : ArtifactRecord :=
  { id := registration.id, revision
    generation := ⟨(state.chain registration.id).length.toUInt64 + 1⟩
    kind := registration.kind, digest := registration.digest,
    sizeBytes := registration.sizeBytes, name := registration.name,
    producer := registration.producer, createdSequence := state.commitSequence,
    createdUnixMillis := now, provenance := sortProvenance registration.provenance,
    dependencies := sortDependencies registration.dependencies, stage := state.policy.entryStage,
    stageGeneration := ⟨1⟩, lastSequence := state.commitSequence }

/-- The admitted part of `register_artifact`: the new revision joins its chain. -/
def addRevision (engine : Engine) (state : CoordinatorState)
    (registration : ArtifactRegistration) (revision : ArtifactRevision) (now : UInt64) :
    Result ArtifactRecord × Engine :=
  let state := (supersedePrevious state revision registration.id).advanceSequence
  let record := registrationRecord state registration revision now
  let state := { state with artifactGeneration := state.artifactGeneration.next }
  let state := state.setChain registration.id (state.chain registration.id ++ [record])
  let state := state.recordEvent engine.config
    { sequence := record.createdSequence, kind := .artifactRegistered, artifact := record.id,
      artifactRevision := record.revision, target := record.stage, authority := state.authority
      note := text "revision " ++ record.revision.toText ++ text " digest " ++
        record.digest.toText }
  (.ok record, engine.dirty state)

def registerArtifact (engine : Engine) (registration : ArtifactRegistration) (now : UInt64) :
    Result ArtifactRecord × Engine :=
  match registration.validate with
  | .error status => (.error status, engine)
  | .ok () =>
      if !engine.admissionOpen then engine.shuttingDown
      else if !engine.state.artifacts.contains registration.id &&
          engine.state.artifacts.size ≥ engine.config.maxArtifacts.toNat then
        engine.refuse .admissionRejected "artifact registry is at its configured bound"
      else
        match classConflict engine.state registration with
        | some other =>
            engine.refuse .conflict
              "this content digest is already registered under a different artifact class"
              other.toText
        | none =>
            let revision := engine.state.revisionGenerator.next
            let chain := engine.state.chain registration.id
            let state := { engine.state with
              revisionGenerator := engine.state.revisionGenerator.advance
              artifacts := engine.state.artifacts.insert registration.id chain }
            if chain.length ≥ engine.config.maxArtifactRevisionsPerId.toNat then
              { engine with state }.refuse .admissionRejected
                "artifact identity has reached its configured revision bound"
            else if chain.getLast?.any fun last => last.digest == registration.digest then
              { engine with state }.refuse .alreadyExists
                "artifact identity already has this exact content digest as its current revision"
                registration.id.toText
            else engine.addRevision state registration revision now

def currentEvidence (state : CoordinatorState) (submission : EvidenceSubmission) :
    Option (EvidenceId × EvidenceRecord) :=
  state.evidence.toList.find? fun entry =>
    EvidenceKey.of entry.2 == ⟨submission.subject, submission.subjectRevision, submission.type,
      submission.customType, submission.producer⟩ && !entry.2.superseded

def countEvidence (state : CoordinatorState) (subject : ArtifactId) (revision : ArtifactRevision) :
    Nat :=
  (state.evidence.toList.filter fun entry =>
    entry.2.subject == subject && entry.2.subjectRevision == revision).length

def submissionRecord (submission : EvidenceSubmission) (id : EvidenceId)
    (generation : EvidenceGeneration) (sequence : CommitSequence) : EvidenceRecord :=
  let record : EvidenceRecord :=
    { id, type := submission.type, generation, customType := submission.customType,
      subject := submission.subject, subjectDigest := submission.subjectDigest,
      subjectRevision := submission.subjectRevision, producer := submission.producer,
      result := submission.result, confidenceMilli := submission.confidenceMilli,
      measurement := submission.measurement, detail := submission.detail,
      payloadDigest := submission.payloadDigest, provenance := submission.provenance,
      createdSequence := sequence, producedUnixMillis := submission.producedUnixMillis,
      hasValidityWindow := submission.hasValidityWindow,
      validFromUnixMillis := submission.validFromUnixMillis,
      validUntilUnixMillis := submission.validUntilUnixMillis,
      environment := submission.environment }
  { record with integrityDigest := computeEvidenceIntegrity record }

/-- Marks the replaced record as superseded by `record`. -/
def supersedeEvidence (state : CoordinatorState) (config : EngineConfig)
    (previous : EvidenceId × EvidenceRecord) (record : EvidenceRecord) : CoordinatorState :=
  let state := ({ state with
    evidence := state.evidence.insert previous.1
      { previous.2 with superseded := true, supersededBy := record.id } }).advanceSequence
  state.recordEvent config
    { sequence := state.commitSequence, kind := .evidenceSuperseded, artifact := record.subject,
      artifactRevision := record.subjectRevision, evidence := record.id,
      authority := state.authority
      note := text "evidence generation " ++ record.generation.toText ++
        text " replaced the previous record for this producer and class" }

def addEvidence (engine : Engine) (submission : EvidenceSubmission)
    (replaced : Option (EvidenceId × EvidenceRecord)) : Result EvidenceRecord × Engine :=
  let id := engine.state.evidenceGenerator.next
  let state := { engine.state with
    evidenceGenerator := engine.state.evidenceGenerator.advance }.advanceSequence
  let generation := match replaced with
    | some previous => previous.2.generation.next
    | none => ⟨1⟩
  let record := submissionRecord submission id generation state.commitSequence
  let state := match replaced with
    | some previous => supersedeEvidence state engine.config previous record
    | none => state
  let state := { state with evidence := state.evidence.insert record.id record }
  let state := state.recordEvent engine.config
    { sequence := record.createdSequence, kind := .evidenceSubmitted, artifact := record.subject,
      artifactRevision := record.subjectRevision, evidence := record.id,
      authority := state.authority
      note := record.type.name ++ text " " ++ record.result.name ++ text " generation " ++
        record.generation.toText }
  (.ok record, engine.dirty state)

def submitEvidence (engine : Engine) (submission : EvidenceSubmission) :
    Result EvidenceRecord × Engine :=
  match submission.validate with
  | .error status => (.error status, engine)
  | .ok () =>
      if !engine.admissionOpen then engine.shuttingDown
      else
        match engine.state.findRevision submission.subject submission.subjectRevision with
        | none =>
            engine.refuse .artifactNotFound
              "evidence references an artifact revision this coordinator does not hold"
              submission.subject.toText
        | some subject =>
            if subject.digest ≠ submission.subjectDigest then
              engine.refuse .digestMismatch
                "evidence subject digest does not match the registered artifact revision"
                submission.subject.toText
            else
              let replaced := currentEvidence engine.state submission
              if replaced.isNone &&
                  engine.state.evidence.size ≥ engine.config.maxEvidenceRecords.toNat then
                engine.refuse .admissionRejected "evidence store is at its configured bound"
              else if replaced.isNone && countEvidence engine.state submission.subject
                  submission.subjectRevision ≥
                    engine.config.maxEvidencePerArtifactRevision.toNat then
                engine.refuse .admissionRejected
                  "artifact revision has reached its configured evidence bound"
              else engine.addEvidence submission replaced

/-- The durable copy of the state: no reservations, and fresh internal request generators. -/
def snapshot (engine : Engine) : CoordinatorState :=
  let state := engine.state
  { coordinator := state.coordinator, epoch := state.epoch,
    commitSequence := state.commitSequence, decisionSequence := state.decisionSequence,
    artifactGeneration := state.artifactGeneration,
    compatibilityGeneration := state.compatibilityGeneration,
    compatibilityProfile := state.compatibilityProfile, artifacts := state.artifacts,
    evidence := state.evidence, plans := state.plans, decisions := state.decisions,
    records := state.records, idempotency := state.idempotency, history := state.history,
    vetoes := state.vetoes, revisionGenerator := state.revisionGenerator,
    evidenceGenerator := state.evidenceGenerator, planGenerator := state.planGenerator,
    decisionGenerator := state.decisionGenerator,
    transitionGenerator := state.transitionGenerator,
    reservationGenerator := state.reservationGenerator,
    instanceGenerator := state.instanceGenerator,
    provenanceGenerator := state.provenanceGenerator : CoordinatorState
  }.setActivePolicy state.policy

def installState (engine : Engine) (state : CoordinatorState) : Option (Result Unit × Engine) :=
  let state := { state with pending := ∅ }
  state.verifyConsistency.map fun consistency =>
    match consistency with
    | .error status => (.error status, engine)
    | .ok () => (.ok (), engine.dirty state)

end Engine

end ArtifactPromotion
