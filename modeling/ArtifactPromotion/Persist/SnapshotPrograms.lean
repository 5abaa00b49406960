import ArtifactPromotion.Core.ReaderPrograms
import ArtifactPromotion.Persist.Reading
import ArtifactPromotion.Persist.Snapshot

/-! The record decoders and the snapshot decoder as programs over readers. -/

namespace ArtifactPromotion

namespace Codec

open StatePersistence (rejectDecode)

instance {bad : Bool} {code : ErrorCode} {message : String} :
    Programmed (rejectDecode bad code message) where
  program := if bad then .fail (.of code (text message)) else .pure ()
  model_eq := by cases bad <;> rfl
  fits := by cases bad <;> trivial

instance {α : Type} {known : Nat → Bool} {ofByte : UInt8 → α} {code : ErrorCode}
    {message : String} : Programmed (readEnum known ofByte code message) := by
  delta readEnum
  infer_instance

instance {α : Type} {limit : Nat} {readElement : Decode α} [Programmed readElement] :
    Programmed (readList limit readElement) := by
  delta readList
  infer_instance

instance : Programmed readStage := by delta readStage; infer_instance

instance : Programmed readOptionalStage := by delta readOptionalStage; infer_instance

instance : Programmed readKind := by delta readKind; infer_instance

instance : Programmed readEvidenceType := by delta readEvidenceType; infer_instance

instance : Programmed readEvidenceResult := by delta readEvidenceResult; infer_instance

instance : Programmed readProvenanceResolution := by delta readProvenanceResolution; infer_instance

instance : Programmed readGateKind := by delta readGateKind; infer_instance

instance : Programmed readOrderingRule := by delta readOrderingRule; infer_instance

instance : Programmed readHistoryKind := by delta readHistoryKind; infer_instance

instance : Programmed readOutcome := by delta readOutcome; infer_instance

instance : Programmed readOptionalOutcome := by delta readOptionalOutcome; infer_instance

instance : Programmed readGateStatus := by delta readGateStatus; infer_instance

instance : Programmed readErrorCode := by delta readErrorCode; infer_instance

instance : Programmed readProducer := by delta readProducer; infer_instance

instance {limit : Nat} : Programmed (readProvenance limit) := by
  delta readProvenance
  infer_instance

instance edgesProgrammed : (count : Nat) → (graph : LifecycleGraph) →
    Programmed (readEdges count graph)
  | 0, graph => inferInstanceAs (Programmed (pure graph))
  | count + 1, graph =>
      have := edgesProgrammed count
      inferInstanceAs (Programmed do
        let source ← readStage
        let target ← readStage
        if source = .invalid || target = .invalid then
          Reader.fail .invalidStage (text "encoded lifecycle graph contains the INVALID stage")
        else if !(graph.addEdge source target).1 then
          Reader.fail .invalidTransition
            (text "encoded lifecycle graph contains a duplicate or self-referential edge")
        else readEdges count (graph.addEdge source target).2)

instance : Programmed readLifecycleGraph := by delta readLifecycleGraph; infer_instance

instance : Programmed readGateEvidenceType := by delta readGateEvidenceType; infer_instance

abbrev gateValidated (gate : Gate) : Programmed (match gate.validate with
    | .error status => (Reader.fail .persistenceCorrupt
        (text "decoded policy gate is not valid: " ++ status.render) : Decode Gate)
    | .ok () => return gate) where
  program := match gate.validate with
    | .error status =>
        .fail (.of .persistenceCorrupt (text "decoded policy gate is not valid: " ++ status.render))
    | .ok () => .pure gate
  model_eq := by cases gate.validate <;> rfl
  fits := by cases gate.validate <;> trivial

instance : Programmed readGate := by
  delta readGate
  have := gateValidated
  infer_instance

instance {hasKindScope : Bool} : Programmed (readScope hasKindScope) := by
  delta readScope
  infer_instance

instance : Programmed readRule := by delta readRule; infer_instance

instance : Programmed readPolicy := by delta readPolicy; infer_instance

instance : Programmed readQuarantine := by delta readQuarantine; infer_instance

instance : Programmed readRevocation := by delta readRevocation; infer_instance

instance : Programmed readSupersession := by delta readSupersession; infer_instance

instance : Programmed readArtifact := by delta readArtifact; infer_instance

instance : Programmed readEvidence := by delta readEvidence; infer_instance

instance : Programmed readAuthority := by delta readAuthority; infer_instance

instance : Programmed readPlan := by delta readPlan; infer_instance

instance : Programmed readGateExplanation := by delta readGateExplanation; infer_instance

instance : Programmed readFinding := by delta readFinding; infer_instance

instance : Programmed readReason := by delta readReason; infer_instance

instance : Programmed readDecision := by delta readDecision; infer_instance

instance : Programmed readPromotionRecord := by delta readPromotionRecord; infer_instance

instance : Programmed readIdempotency := by delta readIdempotency; infer_instance

instance : Programmed readHistoryEvent := by delta readHistoryEvent; infer_instance

instance : Programmed readVeto := by delta readVeto; infer_instance

end Codec

namespace StatePersistence

instance {state : CoordinatorState} : Programmed (readHeader state) := by
  delta readHeader
  infer_instance

instance {id : ArtifactId} : Programmed (readChainRecord id) := by
  delta readChainRecord
  infer_instance

instance chainsProgrammed : (count : Nat) →
    (chains : OrderedMap ArtifactId (List ArtifactRecord)) → Programmed (readChains count chains)
  | 0, chains => inferInstanceAs (Programmed (pure chains))
  | count + 1, chains => by
      have := chainsProgrammed count
      dsimp only [readChains]
      infer_instance

instance keyedProgrammed {κ ν : Type} [Ord κ] [Std.TransOrd κ] (readRecord : Decode ν) (key : ν → κ)
    [Programmed readRecord] : (count : Nat) → (map : OrderedMap κ ν) →
    Programmed (readKeyed readRecord key count map)
  | 0, map => inferInstanceAs (Programmed (pure map))
  | count + 1, map => by
      have := keyedProgrammed readRecord key count
      dsimp only [readKeyed]
      infer_instance

instance evidenceProgrammed : (count : Nat) → (map : OrderedMap EvidenceId EvidenceRecord) →
    Programmed (readEvidenceRecords count map)
  | 0, map => inferInstanceAs (Programmed (pure map))
  | count + 1, map => by
      have := evidenceProgrammed count
      dsimp only [readEvidenceRecords]
      infer_instance

instance vetoesProgrammed : (count : Nat) → (map : OrderedMap ArtifactId VetoState) →
    Programmed (readVetoes count map)
  | 0, map => inferInstanceAs (Programmed (pure map))
  | count + 1, map => by
      have := vetoesProgrammed count
      dsimp only [readVetoes]
      infer_instance

instance {tag : IdentityTag} : Programmed (readGenerator : Decode (IdentityGenerator tag)) := by
  delta readGenerator
  infer_instance

instance {state : CoordinatorState} : Programmed (readGenerators state) := by
  delta readGenerators
  infer_instance

instance sectionProgrammed (state : CoordinatorState) :
    (part : Section) → Programmed (readSection state part)
  | .header => by dsimp only [readSection]; infer_instance
  | .policy => by dsimp only [readSection]; infer_instance
  | .artifacts => by dsimp only [readSection]; infer_instance
  | .evidence => by dsimp only [readSection]; infer_instance
  | .plans => by dsimp only [readSection]; infer_instance
  | .decisions => by dsimp only [readSection]; infer_instance
  | .records => by dsimp only [readSection]; infer_instance
  | .idempotency => by dsimp only [readSection]; infer_instance
  | .history => by dsimp only [readSection]; infer_instance
  | .vetoes => by dsimp only [readSection]; infer_instance
  | .generators => by dsimp only [readSection]; infer_instance

instance : Programmed readFileHeader := by delta readFileHeader; infer_instance

abbrev reject (bad : Bool) (code : ErrorCode) (message : String) : Program Unit :=
  Programmed.program (rejectDecode bad code message)

def bodyProgram (state : CoordinatorState) (part : Section) : Program CoordinatorState := do
  let state ← Programmed.program (readSection state part)
  let done ← .ask .finished
  if done then return state
  else .fail (.of .persistenceCorrupt
    (text "snapshot section contains trailing bytes after its declared content"))

def sectionsProgram : Nat → List Section → CoordinatorState →
    Program (List Section × CoordinatorState)
  | allowed, seen, state => do
      let done ← .ask .finished
      if done then return (seen, state)
      else
        match allowed with
        | 0 => .fail (.of .persistenceCorrupt
            (text "snapshot declares more sections than the format allows"))
        | allowed + 1 => do
            let raw ← .ask .u16
            match Section.ofKind raw with
            | none => .fail (.of .persistenceFormatError
                (text "snapshot contains an unknown section kind"))
            | some part =>
                .within kMaxSnapshotBytes
                  (do
                    reject (seen.contains part) .persistenceCorrupt part.duplicate
                    bodyProgram state part)
                  (sectionsProgram allowed (part :: seen))

def payloadProgram : Program CoordinatorState := do
  let (seen, state) ← sectionsProgram kMaxSections [] {}
  match checkDecoded seen state with
  | .error status => .fail status
  | .ok () => return observeState state

/-- `StatePersistence::decode` over a file of this size: the magic and the footer are looked at
before the reader starts, and the payload is copied out and read by a reader of its own. -/
def fileProgram (size : Nat) : Program CoordinatorState :=
  if size < kHeaderSize + kFooterSize then
    .fail (.of .persistenceCorrupt (text "state file is smaller than the minimum snapshot size"))
  else do
    let magic ← .look 0 kMagic.length
    reject (magic != kMagic) .persistenceFormatError
      "state file does not begin with the expected magic"
    let stored ← .look (size - kFooterSize) kFooterSize
    let covered ← .look 0 (size - kFooterSize)
    reject (stored != (sha256 covered).bytes) .persistenceCorrupt
      "snapshot footer digest does not match the snapshot content"
    let payloadLength ← Programmed.program readFileHeader
    reject (payloadLength.toNat > kMaxSnapshotBytes) .persistenceCorrupt
      "declared snapshot payload exceeds the supported bound"
    reject (kHeaderSize + payloadLength.toNat + kFooterSize != size) .persistenceCorrupt
      ("declared snapshot length does not match the file size; the file is truncated or has " ++
        "trailing bytes")
    let payload ← .ask (.raw payloadLength.toNat)
    .ask (.skip kFooterSize)
    .ask .requireFinished
    .fork payload payloadProgram .pure

theorem answer_reject {α : Type} {bad : Bool} {code : ErrorCode} {message : String}
    (next : Unit → Program α) (reader : Reader) :
    (reject bad code message >>= next).answer reader =
      rejectWhen bad code message >>= fun done => (next done).answer reader := by
  rw [Program.answer_bind, Programmed.model_eq]
  cases bad with
  | false => rfl
  | true => rfl

theorem fits_reject {α : Type} {room : Nat} {bad : Bool} {code : ErrorCode} {message : String}
    {next : Unit → Program α} (continued : ∀ done, (next done).Fits room) :
    (reject bad code message >>= next).Fits room :=
  Program.fits_bind (Programmed.fits_any _ room) continued

theorem bodyProgram_answer (state : CoordinatorState) (part : Section) (region : Reader) :
    (bodyProgram state part).answer region = readBody state part region := by
  rw [bodyProgram, Program.answer_bind, Programmed.model_eq, readBody]
  cases readSection state part region with
  | error status => rfl
  | ok reply =>
      obtain ⟨after, rest⟩ := reply
      change (ite _ _ _ : Program CoordinatorState).answer rest = ite _ _ _
      by_cases done : rest.finished = true
      · rw [if_pos done, if_pos done]
        rfl
      · rw [if_neg done, if_neg done]
        rfl

theorem sectionsProgram_answer (allowed : Nat) (seen : List Section) (state : CoordinatorState)
    (reader : Reader) :
    (sectionsProgram allowed seen state).answer reader = readSections allowed seen state reader := by
  induction allowed generalizing seen state reader with
  | zero =>
      rw [sectionsProgram.eq_def, readSections.eq_def]
      change (ite _ _ _ : Program _).answer reader = _
      dsimp only
      by_cases done : reader.finished = true
      · rw [if_pos done, if_pos done]
        rfl
      · rw [if_neg done, if_neg done]
        rfl
  | succ allowed ih =>
      rw [sectionsProgram.eq_def, readSections.eq_def]
      change (ite _ _ _ : Program _).answer reader = _
      dsimp only
      by_cases done : reader.finished = true
      · rw [if_pos done, if_pos done]
        rfl
      · rw [if_neg done, if_neg done, Program.answer_ask]
        change Reader.u16 reader >>= _ = _
        cases Reader.u16 reader with
        | error status => rfl
        | ok reply =>
            obtain ⟨raw, rest⟩ := reply
            dsimp only [bind, Except.bind]
            cases known : Section.ofKind raw with
            | none => rfl
            | some part =>
                dsimp only
                rw [Program.answer_within]
                dsimp only [bind, Except.bind]
                cases Reader.subRegion kMaxSnapshotBytes rest with
                | error status => rfl
                | ok opened =>
                    obtain ⟨region, next⟩ := opened
                    have held : ((reject (seen.contains part) .persistenceCorrupt
                        part.duplicate).bind fun _ => bodyProgram state part).answer region =
                        rejectWhen (seen.contains part) .persistenceCorrupt part.duplicate >>=
                          fun _ => readBody state part region := by
                      rw [← bodyProgram_answer]
                      exact answer_reject _ region
                    dsimp only
                    rw [held]
                    cases rejectWhen (seen.contains part) .persistenceCorrupt part.duplicate with
                    | error status => rfl
                    | ok fresh =>
                        dsimp only [bind, Except.bind]
                        cases readBody state part region with
                        | error status => rfl
                        | ok after => exact ih (part :: seen) after next

theorem payloadProgram_answer (payload : ByteBuffer) :
    payloadProgram.answer { data := payload } = decodePayload payload := by
  rw [payloadProgram, Program.answer_bind, decodePayload, ← sectionsProgram_answer, Program.answer]
  cases (sectionsProgram kMaxSections [] {}).model { data := payload } with
  | error status => rfl
  | ok reply =>
      obtain ⟨⟨seen, state⟩, rest⟩ := reply
      dsimp only [bind, Except.bind, Except.map]
      cases checkDecoded seen state with
      | error status => rfl
      | ok checked => rfl

theorem fileProgram_answer (file : ByteBuffer) :
    (fileProgram file.length).answer { data := file } = decode file := by
  rw [fileProgram, decode]
  by_cases short : file.length < kHeaderSize + kFooterSize
  · rw [if_pos short, decide_eq_true short]
    rfl
  · rw [if_neg short, decide_eq_false short]
    have footer : (file.drop (file.length - kFooterSize)).take kFooterSize =
        file.drop (file.length - kFooterSize) := by
      apply List.take_of_length_le
      rw [List.length_drop]
      omega
    rw [Program.answer_look, List.drop_zero, answer_reject]
    change _ = rejectWhen _ _ _ >>= _
    refine bind_congr fun _ => ?_
    rw [Program.answer_look, Program.answer_look, footer, List.drop_zero, answer_reject]
    refine bind_congr fun _ => ?_
    rw [Program.answer_bind, Programmed.model_eq]
    refine bind_congr ?_
    rintro ⟨payloadLength, afterHeader⟩
    dsimp only
    rw [answer_reject]
    refine bind_congr fun _ => ?_
    rw [answer_reject]
    refine bind_congr fun _ => ?_
    rw [Program.answer_ask]
    refine bind_congr ?_
    rintro ⟨payload, afterPayload⟩
    dsimp only
    rw [Program.answer_ask]
    refine bind_congr ?_
    rintro ⟨skipped, afterFooter⟩
    dsimp only
    rw [Program.answer_requireFinished]
    refine bind_congr fun _ => ?_
    rw [Program.answer_fork, payloadProgram_answer]
    exact bind_pure _

theorem bodyProgram_fits (state : CoordinatorState) (part : Section) :
    (bodyProgram state part).Fits 0 := by
  refine Program.fits_bind (Programmed.fits_any _ 0) fun after => ?_
  refine fun done reader rest _ => ?_
  change (ite _ _ _ : Program CoordinatorState).Fits 0
  by_cases finished : done = true
  · rw [if_pos finished]
    trivial
  · rw [if_neg finished]
    trivial

theorem sectionsProgram_fits (allowed : Nat) (seen : List Section) (state : CoordinatorState)
    (room : Nat) : (sectionsProgram allowed seen state).Fits room := by
  induction allowed generalizing seen state with
  | zero =>
      rw [sectionsProgram.eq_def]
      refine fun done reader rest _ => ?_
      change (ite _ _ _ : Program _).Fits room
      by_cases finished : done = true
      · rw [if_pos finished]
        trivial
      · rw [if_neg finished]
        trivial
  | succ allowed ih =>
      rw [sectionsProgram.eq_def]
      refine fun done reader rest _ => ?_
      change (ite _ _ _ : Program _).Fits room
      by_cases finished : done = true
      · rw [if_pos finished]
        trivial
      · rw [if_neg finished]
        refine fun raw _ _ _ => ?_
        dsimp only [Program.bind]
        cases Section.ofKind raw with
        | none => trivial
        | some part =>
            refine ⟨?_, fun after => ih (part :: seen) after⟩
            exact fits_reject fun _ => bodyProgram_fits state part

theorem payloadProgram_fits (room : Nat) : payloadProgram.Fits room := by
  refine Program.fits_bind (sectionsProgram_fits _ _ _ room) ?_
  rintro ⟨seen, state⟩
  dsimp only
  cases checkDecoded seen state with
  | error status => trivial
  | ok checked => trivial

theorem fileProgram_fits (size : Nat) : (fileProgram size).Fits size := by
  rw [fileProgram]
  by_cases short : size < kHeaderSize + kFooterSize
  · rw [if_pos short]
    trivial
  · rw [if_neg short]
    have header : kMagic.length ≤ kHeaderSize := by decide
    refine Program.fits_look (by omega) fun magic => fits_reject fun _ => ?_
    refine Program.fits_look (by omega) fun stored => ?_
    refine Program.fits_look (by omega) fun covered => fits_reject fun _ => ?_
    refine Program.fits_bind (Programmed.fits_any _ size) fun payloadLength => ?_
    refine fits_reject fun _ => fits_reject fun _ => ?_
    intro payload _ _ copied skipped _ _ _ checked _ _ _
    have length : payload.length = payloadLength.toNat := Reader.raw_length copied
    refine ⟨?_, payloadProgram_fits payload.length, fun _ => trivial⟩
    rw [length]
    exact payloadLength.toNat_lt

theorem decode_runs : Program.RunsInBounds fileProgram decode :=
  Program.runsInBounds fileProgram_fits fileProgram_answer

end StatePersistence

end ArtifactPromotion
