import ArtifactPromotion.Persist.Codec

/-! Versioned state snapshots: header, sections and footer digest. -/

namespace ArtifactPromotion

namespace StatePersistence

def kFormatVersion : UInt16 := 1
def kMaxSections : Nat := 32
def kMagic : ByteBuffer := [65, 80, 83, 84, 65, 84, 69, 0]
def kHeaderSize : Nat := 8 + 2 + 2 + 8
def kFooterSize : Nat := 32

inductive Section where
  | header
  | artifacts
  | evidence
  | plans
  | decisions
  | records
  | idempotency
  | history
  | vetoes
  | policy
  | generators
deriving DecidableEq

namespace Section

def kind : Section → UInt16
  | header => 1
  | artifacts => 2
  | evidence => 3
  | plans => 4
  | decisions => 5
  | records => 6
  | idempotency => 7
  | history => 8
  | vetoes => 9
  | policy => 10
  | generators => 11

def all : List Section :=
  [header, artifacts, evidence, plans, decisions, records, idempotency, history, vetoes, policy,
    generators]

def ofKind (raw : UInt16) : Option Section := all.find? fun part => part.kind == raw

def duplicate : Section → String
  | header => "snapshot contains a duplicate header section"
  | artifacts => "snapshot contains a duplicate artifact section"
  | evidence => "snapshot contains a duplicate evidence section"
  | plans => "snapshot contains a duplicate plan section"
  | decisions => "snapshot contains a duplicate decision section"
  | records => "snapshot contains a duplicate promotion record section"
  | idempotency => "snapshot contains a duplicate idempotency section"
  | history => "snapshot contains a duplicate history section"
  | vetoes => "snapshot contains a duplicate veto section"
  | policy => "snapshot contains a duplicate policy section"
  | generators => "snapshot contains a duplicate generator section"

end Section

def writeGenerator {tag : IdentityTag} (generator : IdentityGenerator tag) : ByteBuffer :=
  Writer.u64 generator.salt ++ Writer.u64 generator.counter

def writeHeader (state : CoordinatorState) : ByteBuffer :=
  Writer.identity state.coordinator ++ Writer.counter state.epoch ++
    Writer.counter state.commitSequence ++ Writer.counter state.decisionSequence ++
    Writer.counter state.artifactGeneration ++ Writer.counter state.compatibilityGeneration ++
    Writer.identity state.compatibilityProfile ++ Writer.identity state.activePolicy ++
    Writer.counter state.activePolicyGeneration ++ Writer.digest state.activePolicyDigest

def writeChain (entry : ArtifactId × List ArtifactRecord) : ByteBuffer :=
  Writer.identity entry.1 ++ Writer.list entry.2 Codec.writeArtifact

def writeVetoEntry (entry : ArtifactId × VetoState) : ByteBuffer :=
  Writer.identity entry.1 ++ Codec.writeVeto entry.2

def writeGenerators (state : CoordinatorState) : ByteBuffer :=
  writeGenerator state.revisionGenerator ++ writeGenerator state.evidenceGenerator ++
    writeGenerator state.planGenerator ++ writeGenerator state.decisionGenerator ++
    writeGenerator state.transitionGenerator ++ writeGenerator state.reservationGenerator ++
    writeGenerator state.instanceGenerator ++ writeGenerator state.provenanceGenerator ++
    writeGenerator state.internalRequestGenerator ++ writeGenerator state.internalAttemptGenerator

def sectionBody (state : CoordinatorState) : Section → ByteBuffer
  | .header => writeHeader state
  | .policy => Codec.writePolicy state.policy
  | .artifacts => Writer.list state.artifacts.toList writeChain
  | .evidence => Writer.list (state.evidence.toList.map Prod.snd) Codec.writeEvidence
  | .plans => Writer.list (state.plans.toList.map Prod.snd) Codec.writePlan
  | .decisions => Writer.list (state.decisions.toList.map Prod.snd) Codec.writeDecision
  | .records => Writer.list (state.records.toList.map Prod.snd) Codec.writePromotionRecord
  | .idempotency => Writer.list (state.idempotency.toList.map Prod.snd) Codec.writeIdempotency
  | .history => Writer.list (state.history.toList.map Prod.snd) Codec.writeHistoryEvent
  | .vetoes => Writer.list state.vetoes.toList writeVetoEntry
  | .generators => writeGenerators state

def sectionOrder : List Section :=
  [.header, .policy, .artifacts, .evidence, .plans, .decisions, .records, .idempotency, .history,
    .vetoes, .generators]

def encodePayload (state : CoordinatorState) : ByteBuffer :=
  sectionOrder.flatMap fun part => Writer.region part.kind (sectionBody state part)

def encodeBody (payload : ByteBuffer) : ByteBuffer :=
  kMagic ++ Writer.u16 kFormatVersion ++ Writer.u16 0 ++ Writer.u64 payload.length.toUInt64 ++
    payload

def encode (state : CoordinatorState) : ByteBuffer :=
  let file := encodeBody (encodePayload state)
  file ++ Writer.digest (sha256 file)

def rejectDecode (bad : Bool) (code : ErrorCode) (message : String) : Decode Unit :=
  fun reader => (rejectWhen bad code message).map fun done => (done, reader)

theorem rejectDecode_answers {bad : Bool} {code : ErrorCode} {message : String}
    {reader next : Reader} {done : Unit} :
    rejectDecode bad code message reader = .ok (done, next) ↔ bad = false ∧ reader = next := by
  cases bad <;> simp [rejectDecode, rejectWhen, Except.map]

def readHeader (state : CoordinatorState) : Decode CoordinatorState := do
  let coordinator ← Reader.identity
  let epoch ← Reader.counter
  let commitSequence ← Reader.counter
  let decisionSequence ← Reader.counter
  let artifactGeneration ← Reader.counter
  let compatibilityGeneration ← Reader.counter
  let compatibilityProfile ← Reader.identity
  let activePolicy ← Reader.identity
  let activePolicyGeneration ← Reader.counter
  let activePolicyDigest ← Reader.digest
  return { state with
    coordinator, epoch, commitSequence, decisionSequence, artifactGeneration,
    compatibilityGeneration, compatibilityProfile, activePolicy, activePolicyGeneration,
    activePolicyDigest }

def readChainRecord (id : ArtifactId) : Decode ArtifactRecord := do
  let record ← Codec.readArtifact
  rejectDecode (record.id != id) .persistenceCorrupt
    "artifact revision record does not match its chain identity"
  return record

def readChains : Nat → OrderedMap ArtifactId (List ArtifactRecord) →
    Decode (OrderedMap ArtifactId (List ArtifactRecord))
  | 0, chains => return chains
  | count + 1, chains => do
      let id ← Reader.identity
      rejectDecode (chains.contains id) .persistenceCorrupt
        "snapshot contains a duplicate artifact identity"
      let chain ← Codec.readList 1024 (readChainRecord id)
      rejectDecode chain.isEmpty .persistenceCorrupt "snapshot contains an empty artifact chain"
      readChains count (chains.insert id chain)

/-- `map.emplace`: the first value stored under a key stays. -/
def emplace {κ ν : Type} [Ord κ] [Std.TransOrd κ] (map : OrderedMap κ ν) (key : κ) (value : ν) :
    OrderedMap κ ν :=
  map.insertIfNew key value

def readKeyed {κ ν : Type} [Ord κ] [Std.TransOrd κ] (readRecord : Decode ν) (key : ν → κ) :
    Nat → OrderedMap κ ν → Decode (OrderedMap κ ν)
  | 0, map => return map
  | count + 1, map => do
      let record ← readRecord
      readKeyed readRecord key count (emplace map (key record) record)

def readEvidenceRecords : Nat → OrderedMap EvidenceId EvidenceRecord →
    Decode (OrderedMap EvidenceId EvidenceRecord)
  | 0, map => return map
  | count + 1, map => do
      let record ← Codec.readEvidence
      rejectDecode (map.contains record.id) .persistenceCorrupt
        "snapshot contains duplicate evidence identity"
      readEvidenceRecords count (emplace map record.id record)

def readVetoes : Nat → OrderedMap ArtifactId VetoState → Decode (OrderedMap ArtifactId VetoState)
  | 0, map => return map
  | count + 1, map => do
      let id ← Reader.identity
      let veto ← Codec.readVeto
      readVetoes count (emplace map id veto)

def readGenerator {tag : IdentityTag} : Decode (IdentityGenerator tag) := do
  let salt ← Reader.u64
  let counter ← Reader.u64
  return .resumeAfter salt counter

def readGenerators (state : CoordinatorState) : Decode CoordinatorState := do
  let revisionGenerator ← readGenerator
  let evidenceGenerator ← readGenerator
  let planGenerator ← readGenerator
  let decisionGenerator ← readGenerator
  let transitionGenerator ← readGenerator
  let reservationGenerator ← readGenerator
  let instanceGenerator ← readGenerator
  let provenanceGenerator ← readGenerator
  let internalRequestGenerator ← readGenerator
  let internalAttemptGenerator ← readGenerator
  return { state with
    revisionGenerator, evidenceGenerator, planGenerator, decisionGenerator, transitionGenerator,
    reservationGenerator, instanceGenerator, provenanceGenerator, internalRequestGenerator,
    internalAttemptGenerator }

def readSection (state : CoordinatorState) : Section → Decode CoordinatorState
  | .header => readHeader state
  | .policy => do
      let policy ← Codec.readPolicy
      return state.setActivePolicy policy
  | .artifacts => do
      let count ← Reader.count 1000000
      let artifacts ← readChains count state.artifacts
      return { state with artifacts }
  | .evidence => do
      let count ← Reader.count 10000000
      let evidence ← readEvidenceRecords count state.evidence
      return { state with evidence }
  | .plans => do
      let count ← Reader.count 10000000
      let plans ← readKeyed Codec.readPlan PromotionPlan.id count state.plans
      return { state with plans }
  | .decisions => do
      let count ← Reader.count 10000000
      let decisions ← readKeyed Codec.readDecision PromotionDecision.id count state.decisions
      return { state with decisions }
  | .records => do
      let count ← Reader.count 10000000
      let records ← readKeyed Codec.readPromotionRecord PromotionRecord.transition count
        state.records
      return { state with records }
  | .idempotency => do
      let count ← Reader.count 10000000
      let idempotency ← readKeyed Codec.readIdempotency IdempotencyRecord.request count
        state.idempotency
      return { state with idempotency }
  | .history => do
      let count ← Reader.count 10000000
      let history ← readKeyed Codec.readHistoryEvent HistoryEvent.sequence count state.history
      return { state with history }
  | .vetoes => do
      let count ← Reader.count 1000000
      let vetoes ← readVetoes count state.vetoes
      return { state with vetoes }
  | .generators => readGenerators state

/-- Runs a body decoder on its own region and insists that it consumes all of it. -/
def readBody (state : CoordinatorState) (part : Section) (region : Reader) :
    Result CoordinatorState :=
  match readSection state part region with
  | .error status => .error status
  | .ok (state, rest) =>
      if rest.finished then .ok state
      else .error (.of .persistenceCorrupt
        (text "snapshot section contains trailing bytes after its declared content"))

/-- The section loop. `allowed` counts the sections the format still admits, `seen` the kinds read
so far. -/
def readSections : Nat → List Section → CoordinatorState → Reader →
    Result (List Section × CoordinatorState)
  | allowed, seen, state, reader =>
      if reader.finished then .ok (seen, state)
      else
        match allowed with
        | 0 =>
            .error (.of .persistenceCorrupt
              (text "snapshot declares more sections than the format allows"))
        | allowed + 1 => do
            let (raw, reader) ← Reader.u16 reader
            match Section.ofKind raw with
            | none =>
                .error (.of .persistenceFormatError
                  (text "snapshot contains an unknown section kind"))
            | some part => do
                let (region, reader) ← Reader.subRegion kMaxSnapshotBytes reader
                rejectWhen (seen.contains part) .persistenceCorrupt part.duplicate
                let state ← readBody state part region
                readSections allowed (part :: seen) state reader

def checkDecoded (seen : List Section) (state : CoordinatorState) : Result Unit := do
  rejectWhen (!Section.all.all fun part => seen.contains part) .persistenceCorrupt
    "snapshot is missing one or more mandatory sections"
  rejectWhen (state.policy.generation != state.activePolicyGeneration) .persistenceCorrupt
    "snapshot policy generation does not match the recorded active policy generation"
  rejectWhen (state.policy.id != state.activePolicy) .persistenceCorrupt
    "snapshot policy identity does not match the recorded active policy identity"
  rejectWhen (state.policy.policyDigest != state.activePolicyDigest) .persistenceCorrupt
    "snapshot policy digest does not match the recorded digest"

/-- Advances a generator past every identity already present. -/
def observeAll {tag : IdentityTag} (generator : IdentityGenerator tag)
    (ids : List (Identity tag)) : IdentityGenerator tag :=
  ids.foldl IdentityGenerator.observeExisting generator

def observeState (state : CoordinatorState) : CoordinatorState :=
  { state with
    revisionGenerator := observeAll state.revisionGenerator
      (state.artifacts.toList.flatMap fun entry => entry.2.map ArtifactRecord.revision)
    evidenceGenerator := observeAll state.evidenceGenerator state.evidence.keys
    planGenerator := observeAll state.planGenerator state.plans.keys
    decisionGenerator := observeAll state.decisionGenerator state.decisions.keys
    transitionGenerator := observeAll state.transitionGenerator state.records.keys
    internalRequestGenerator := observeAll state.internalRequestGenerator state.idempotency.keys }

def decodePayload (payload : ByteBuffer) : Result CoordinatorState := do
  let (seen, state) ← readSections kMaxSections [] {} { data := payload }
  checkDecoded seen state
  return observeState state

def readFileHeader : Decode UInt64 := do
  let _ ← Reader.raw kMagic.length
  let version ← Reader.u16
  if version ≠ kFormatVersion then
    Reader.fail .persistenceVersionUnsupported (text "state file format version " ++
      text (toString version.toNat) ++ text " is not supported by this build")
  else
    let reserved ← Reader.u16
    rejectDecode (reserved != 0) .persistenceFormatError "reserved header field is not zero"
    Reader.u64

def decode (bytes : ByteBuffer) : Result CoordinatorState := do
  rejectWhen (bytes.length < kHeaderSize + kFooterSize) .persistenceCorrupt
    "state file is smaller than the minimum snapshot size"
  rejectWhen (bytes.take kMagic.length != kMagic) .persistenceFormatError
    "state file does not begin with the expected magic"
  let covered := bytes.take (bytes.length - kFooterSize)
  rejectWhen (bytes.drop (bytes.length - kFooterSize) != (sha256 covered).bytes) .persistenceCorrupt
    "snapshot footer digest does not match the snapshot content"
  let (payloadLength, reader) ← readFileHeader { data := bytes }
  rejectWhen (payloadLength.toNat > kMaxSnapshotBytes) .persistenceCorrupt
    "declared snapshot payload exceeds the supported bound"
  rejectWhen (kHeaderSize + payloadLength.toNat + kFooterSize != bytes.length) .persistenceCorrupt
    ("declared snapshot length does not match the file size; the file is truncated or has " ++
      "trailing bytes")
  let (payload, reader) ← Reader.raw payloadLength.toNat reader
  let (_, reader) ← Reader.consume kFooterSize "input ended while skipping a byte region"
    (fun _ => ()) reader
  reader.requireFinished
  decodePayload payload

end StatePersistence

end ArtifactPromotion
