import ArtifactPromotion.Persist.Accepted
import ArtifactPromotion.Persist.Contradictions

/-! Whether every record that a snapshot declares is still there once it is read. -/

namespace ArtifactPromotion

open Decoding

namespace StatePersistence

open Reader

def mapSections : List Section :=
  [.artifacts, .evidence, .plans, .decisions, .records, .idempotency, .history, .vetoes]

def declaredCount (bytes : ByteBuffer) (part : Section) : Option Nat :=
  (bodyOf bytes part).map fun body => (loadU32 body).toNat

def entryCount (state : CoordinatorState) : Section → Nat
  | .artifacts => state.artifacts.size
  | .evidence => state.evidence.size
  | .plans => state.plans.size
  | .decisions => state.decisions.size
  | .records => state.records.size
  | .idempotency => state.idempotency.size
  | .history => state.history.size
  | .vetoes => state.vetoes.size
  | .header | .policy | .generators => 0

def readVetoEntry : Decode (ArtifactId × VetoState) := do
  let id ← Reader.identity
  let veto ← Codec.readVeto
  return (id, veto)

def KeysApart {κ : Type} (limit : Nat) (readKey : Decode κ) (body : ByteBuffer) : Prop :=
  ∃ keys rest, Codec.readList limit readKey { data := body } = .ok (keys, rest) ∧ keys.Nodup

def NoKeyTwice (body : ByteBuffer) : Section → Prop
  | .plans => KeysApart 10000000 (PromotionPlan.id <$> Codec.readPlan) body
  | .decisions => KeysApart 10000000 (PromotionDecision.id <$> Codec.readDecision) body
  | .records => KeysApart 10000000 (PromotionRecord.transition <$> Codec.readPromotionRecord) body
  | .idempotency => KeysApart 10000000 (IdempotencyRecord.request <$> Codec.readIdempotency) body
  | .history => KeysApart 10000000 (HistoryEvent.sequence <$> Codec.readHistoryEvent) body
  | .vetoes => KeysApart 1000000 (Prod.fst <$> readVetoEntry) body
  | .header | .artifacts | .evidence | .policy | .generators => True

theorem keysApart_iff {κ : Type} [DecidableEq κ] {limit : Nat} {readKey : Decode κ}
    {body : ByteBuffer} : KeysApart limit readKey body ↔
      ((Codec.readList limit readKey { data := body }).toOption.any (·.1.Nodup)) = true := by
  rw [KeysApart]
  cases Codec.readList limit readKey { data := body } with
  | error status => simp [Except.toOption]
  | ok answer => simp [Except.toOption, Prod.ext_iff]

instance {κ : Type} [DecidableEq κ] {limit : Nat} {readKey : Decode κ} {body : ByteBuffer} :
    Decidable (KeysApart limit readKey body) :=
  decidable_of_iff' _ keysApart_iff

instance (body : ByteBuffer) : (part : Section) → Decidable (NoKeyTwice body part)
  | .plans | .decisions | .records | .idempotency | .history | .vetoes =>
      inferInstanceAs (Decidable (KeysApart _ _ _))
  | .header | .artifacts | .evidence | .policy | .generators => inferInstanceAs (Decidable True)

section Counting

variable {κ ν : Type} [Ord κ] [Std.TransOrd κ]

theorem elements_map {α β : Type} (change : α → β) (read : Decode α) (count : Nat) :
    elements (change <$> read) count = List.map change <$> elements read count := by
  induction count with
  | zero => simp [elements]
  | succ count ih => simp [elements, ih]

theorem readKeyed_fills (read : Decode ν) (key : ν → κ) (count : Nat) (map : OrderedMap κ ν) :
    readKeyed read key count map = (do
      let entries ← elements ((fun record => (key record, record)) <$> read) count
      return OrderedMaps.fill entries map) := by
  induction count generalizing map with
  | zero => simp [readKeyed, elements, OrderedMaps.fill]
  | succ count ih =>
      simp only [readKeyed, elements, ih, bind_assoc, pure_bind, bind_map_left]
      rfl

theorem readVetoes_fills (count : Nat) (map : OrderedMap ArtifactId VetoState) :
    readVetoes count map = (do
      let entries ← elements readVetoEntry count
      return OrderedMaps.fill entries map) := by
  induction count generalizing map with
  | zero => simp [readVetoes, elements, OrderedMaps.fill]
  | succ count ih =>
      simp only [readVetoes, readVetoEntry, elements, ih, bind_assoc, pure_bind]
      rfl

theorem count_answers {limit count : Nat} {body : ByteBuffer} {next : Reader}
    (read : Reader.count limit { data := body } = .ok (count, next)) :
    count = (loadU32 body).toNat := by
  obtain ⟨declared, middle, loaded, read⟩ := bind_answers.mp read
  obtain ⟨-, rfl, -⟩ := consume_eq_ok loaded
  split at read
  · cases read
  · obtain ⟨rfl, -⟩ := pure_answers.mp read
    rfl

theorem filled_iff [Std.LawfulEqOrd κ] {read : Decode (κ × ν)} {limit count : Nat}
    {body : ByteBuffer} {middle rest : Reader} {start filled : OrderedMap κ ν}
    (empty : start.size = 0) (counted : Reader.count limit { data := body } = .ok (count, middle))
    (answer : (do
      let entries ← elements read count
      return OrderedMaps.fill entries start : Decode _) middle = .ok (filled, rest)) :
    filled.size = (loadU32 body).toNat ↔ KeysApart limit (Prod.fst <$> read) body := by
  obtain ⟨entries, final, entriesRead, answer⟩ := bind_answers.mp answer
  obtain ⟨rfl, -⟩ := pure_answers.mp answer
  have keysRead : Codec.readList limit (Prod.fst <$> read) { data := body } =
      .ok (entries.map Prod.fst, final) := by
    simp only [Codec.readList, elements_map]
    simp only [map_eq_pure_bind]
    exact bind_answers.mpr ⟨count, middle, counted,
      bind_answers.mpr ⟨entries, final, entriesRead, pure_answers.mpr ⟨rfl, rfl⟩⟩⟩
  have any : Delivers read fun _ => True := fun _ _ _ _ => trivial
  have length : (loadU32 body).toNat = start.size + entries.length := by
    rw [empty, (Codec.elements_delivers any count _ _ _ entriesRead).1, count_answers counted,
      Nat.zero_add]
  have free (key : κ) : start.contains key = false := by
    rw [Std.ExtTreeMap.eq_empty_iff_size_eq_zero.mpr empty, Std.ExtTreeMap.contains_empty]
  rw [length, OrderedMaps.fill_size_iff]
  constructor
  · rintro ⟨distinct, _⟩
    exact ⟨_, _, keysRead, distinct⟩
  · rintro ⟨keys, last, again, distinct⟩
    rw [keysRead] at again
    cases again
    exact ⟨distinct, fun key _ => free key⟩

end Counting

theorem readChains_size {count : Nat} {start chains : OrderedMap ArtifactId (List ArtifactRecord)}
    {reader next : Reader} (read : readChains count start reader = .ok (chains, next)) :
    chains.size = start.size + count := by
  induction count generalizing start reader with
  | zero =>
      obtain ⟨rfl, -⟩ := pure_answers.mp read
      rfl
  | succ count ih =>
      obtain ⟨id, _, -, read⟩ := bind_answers.mp read
      obtain ⟨_, _, passed, read⟩ := bind_answers.mp read
      obtain ⟨chain, _, -, read⟩ := bind_answers.mp read
      obtain ⟨_, _, -, read⟩ := bind_answers.mp read
      have free : ¬start.contains id = true := by simp [(rejectDecode_answers.mp passed).1]
      rw [ih read, Std.ExtTreeMap.size_insert, if_neg free]
      omega

theorem readEvidenceRecords_size {count : Nat} {start records : OrderedMap EvidenceId EvidenceRecord}
    {reader next : Reader} (read : readEvidenceRecords count start reader = .ok (records, next)) :
    records.size = start.size + count := by
  induction count generalizing start reader with
  | zero =>
      obtain ⟨rfl, -⟩ := pure_answers.mp read
      rfl
  | succ count ih =>
      obtain ⟨record, _, -, read⟩ := bind_answers.mp read
      obtain ⟨_, _, passed, read⟩ := bind_answers.mp read
      have free : ¬start.contains record.id = true := by simp [(rejectDecode_answers.mp passed).1]
      rw [ih read, emplace, Std.ExtTreeMap.size_insertIfNew, if_neg (mt Std.ExtTreeMap.mem_iff_contains.mp free)]
      omega

theorem readBody_keeps {state after : CoordinatorState} {part other : Section} {body : ByteBuffer}
    (read : readBody state part { data := body } = .ok after) (apart : other ≠ part) :
    entryCount after other = entryCount state other := by
  obtain ⟨rest, read⟩ := readBody_answers read
  cases part with
  | header =>
      rw [readSection, readHeader_eq] at read
      obtain ⟨fields, _, _, read⟩ := bind_answers.mp read
      obtain ⟨rfl, _⟩ := pure_answers.mp read
      cases other <;> rfl
  | policy =>
      obtain ⟨policy, _, _, read⟩ := bind_answers.mp read
      obtain ⟨rfl, _⟩ := pure_answers.mp read
      cases other <;> rfl
  | generators =>
      rw [readSection, readGenerators] at read
      iterate 10 obtain ⟨_, _, _, read⟩ := bind_answers.mp read
      obtain ⟨rfl, _⟩ := pure_answers.mp read
      cases other <;> rfl
  | artifacts | evidence | plans | decisions | records | idempotency | history | vetoes =>
      obtain ⟨count, _, _, read⟩ := bind_answers.mp read
      obtain ⟨map, _, _, read⟩ := bind_answers.mp read
      obtain ⟨rfl, _⟩ := pure_answers.mp read
      cases other <;> first | rfl | exact absurd rfl apart

theorem readBody_complete {state after : CoordinatorState} {part : Section} {body : ByteBuffer}
    (read : readBody state part { data := body } = .ok after) (empty : entryCount state part = 0)
    (looks : part = .artifacts ∨ part = .evidence) :
    entryCount after part = (loadU32 body).toNat := by
  obtain ⟨rest, read⟩ := readBody_answers read
  rcases looks with rfl | rfl
  · obtain ⟨count, _, counted, read⟩ := bind_answers.mp read
    obtain ⟨map, _, filled, read⟩ := bind_answers.mp read
    obtain ⟨rfl, _⟩ := pure_answers.mp read
    have size := readChains_size filled
    rw [entryCount] at empty
    rw [entryCount, size, empty, count_answers counted, Nat.zero_add]
  · obtain ⟨count, _, counted, read⟩ := bind_answers.mp read
    obtain ⟨map, _, filled, read⟩ := bind_answers.mp read
    obtain ⟨rfl, _⟩ := pure_answers.mp read
    have size := readEvidenceRecords_size filled
    rw [entryCount] at empty
    rw [entryCount, size, empty, count_answers counted, Nat.zero_add]

theorem readBody_complete_iff {state after : CoordinatorState} {part : Section} {body : ByteBuffer}
    (read : readBody state part { data := body } = .ok after) (empty : entryCount state part = 0)
    (restores : part ∈ mapSections) :
    entryCount after part = (loadU32 body).toNat ↔ NoKeyTwice body part := by
  by_cases looks : part = .artifacts ∨ part = .evidence
  · refine iff_of_true (readBody_complete read empty looks) ?_
    rcases looks with rfl | rfl <;> trivial
  obtain ⟨rest, read⟩ := readBody_answers read
  cases part with
  | header | policy | generators => exact absurd restores (by decide)
  | artifacts | evidence => exact absurd (by simp) looks
  | vetoes =>
      obtain ⟨count, _, counted, read⟩ := bind_answers.mp read
      obtain ⟨map, _, filled, read⟩ := bind_answers.mp read
      obtain ⟨rfl, _⟩ := pure_answers.mp read
      rw [readVetoes_fills] at filled
      exact filled_iff empty counted filled
  | plans | decisions | records | idempotency | history =>
      obtain ⟨count, _, counted, read⟩ := bind_answers.mp read
      obtain ⟨map, _, filled, read⟩ := bind_answers.mp read
      obtain ⟨rfl, _⟩ := pure_answers.mp read
      rw [readKeyed_fills] at filled
      have whole := filled_iff empty counted filled
      rw [Functor.map_map] at whole
      exact whole

theorem entryCount_blank (part : Section) : entryCount {} part = 0 := by
  cases part <;> rfl

theorem entryCount_observed (state : CoordinatorState) (part : Section) :
    entryCount (observeState state) part = entryCount state part := by
  cases part <;> rfl

theorem Assembles.keeps {state final : CoordinatorState} {parts : List (Section × ByteBuffer)}
    {part : Section} (assembled : Assembles state parts final)
    (absent : part ∉ parts.map Prod.fst) : entryCount final part = entryCount state part := by
  induction assembled with
  | nil => rfl
  | cons read others ih =>
      rw [List.map_cons, List.mem_cons, not_or] at absent
      rw [ih absent.2, readBody_keeps read absent.1]

/-- Every section of an accepted file was read once, into a state that held nothing of it, and
nothing was added to what it restored. -/
theorem decode_restores {bytes : ByteBuffer} {state : CoordinatorState} (part : Section)
    (decoded : decode bytes = .ok state) :
    ∃ body before after, bodyOf bytes part = some body ∧
      readBody before part { data := body } = .ok after ∧ entryCount before part = 0 ∧
      entryCount state part = entryCount after part := by
  obtain ⟨parts, final, split, complete, assembled, -, rfl⟩ := decode_assembles decoded
  have known : part ∈ parts.map Prod.fst := complete.mem_iff.mpr (by cases part <;> decide)
  obtain ⟨⟨_, body⟩, inside, rfl⟩ := List.mem_map.mp known
  obtain ⟨front, back, rfl⟩ := List.append_of_mem inside
  have distinct := complete.nodup_iff.mpr (by decide)
  obtain ⟨inFront, inBack⟩ := alone distinct
  obtain ⟨before, frontAssembled, rest⟩ := assembled.split
  cases rest with
  | @cons _ after _ _ _ _ read backAssembled =>
      refine ⟨body, before, after, bodyOf_eq split distinct, read, ?_, ?_⟩
      · rw [frontAssembled.keeps inFront, entryCount_blank]
      · rw [entryCount_observed, backAssembled.keeps inBack]

/-- Decoding an accepted file drops no entry exactly when no key comes twice in any of the six
sections that are read without looking for one; from the other two it never drops any. -/
theorem decode_drops_nothing_iff {bytes : ByteBuffer} {state : CoordinatorState}
    (decoded : decode bytes = .ok state) :
    (∀ part ∈ [Section.artifacts, .evidence],
      declaredCount bytes part = some (entryCount state part)) ∧
    ((∀ part ∈ mapSections, declaredCount bytes part = some (entryCount state part)) ↔
      ∀ part ∈ mapSections, ∃ body, bodyOf bytes part = some body ∧ NoKeyTwice body part) := by
  constructor
  · intro part looks
    obtain ⟨body, before, after, bodied, read, empty, kept⟩ := decode_restores part decoded
    rw [declaredCount, bodied, Option.map_some, kept,
      readBody_complete read empty (by simpa using looks)]
  · refine forall₂_congr fun part restores => ?_
    obtain ⟨body, before, after, bodied, read, empty, kept⟩ := decode_restores part decoded
    rw [declaredCount, bodied, Option.map_some, kept, Option.some.injEq, eq_comm,
      readBody_complete_iff read empty restores]
    simp

def vetoPayload (entries : List (ArtifactId × VetoState)) : ByteBuffer :=
  sectionOrder.flatMap fun part => Writer.region part.kind
    (if part = .vetoes then Writer.list entries writeVetoEntry else sectionBody {} part)

def vetoedAgain : ByteBuffer :=
  sealFile (vetoPayload [(⟨0, 1⟩, {}), (⟨0, 1⟩, { securityVeto := true })])

def vetoedOnce : ByteBuffer :=
  sealFile (vetoPayload [(⟨0, 1⟩, {}), (⟨0, 2⟩, { securityVeto := true })])

theorem bodyOf_sealFile (payload : ByteBuffer) (part : Section) :
    bodyOf (sealFile payload) part =
      (sectionsFrom kMaxSections { data := payload }).bind fun parts =>
        (parts.find? fun entry => entry.1 == part).map Prod.snd := by
  rw [bodyOf, sectionsOf, payloadOf_sealFile]

theorem vetoedAgain_drops : ∃ state, decode vetoedAgain = .ok state ∧
    declaredCount vetoedAgain .vetoes = some 2 ∧ entryCount state .vetoes = 1 ∧
    state.vetoes[(⟨0, 1⟩ : ArtifactId)]? = some {} := by
  have fits : (vetoPayload [(⟨0, 1⟩, {}), (⟨0, 1⟩, { securityVeto := true })]).length ≤
      kMaxSnapshotBytes := by
    decide +kernel
  have evaluated : ((decodePayload
      (vetoPayload [(⟨0, 1⟩, {}), (⟨0, 1⟩, { securityVeto := true })])).toOption.map fun state =>
        (entryCount state .vetoes, state.vetoes[(⟨0, 1⟩ : ArtifactId)]?)) = some (1, some {}) := by
    decide +kernel
  rw [vetoedAgain, decode_sealFile_fits fits, declaredCount, bodyOf_sealFile]
  cases answer : decodePayload _ with
  | error status => simp [answer, Except.toOption] at evaluated
  | ok state =>
      simp only [answer, Except.toOption, Option.map_some, Option.some.injEq, Prod.mk.injEq]
        at evaluated
      exact ⟨state, rfl, by decide +kernel, evaluated⟩

theorem vetoedOnce_restored : ∃ state, decode vetoedOnce = .ok state ∧
    ∀ part ∈ mapSections, declaredCount vetoedOnce part = some (entryCount state part) := by
  have fits : (vetoPayload [(⟨0, 1⟩, {}), (⟨0, 2⟩, { securityVeto := true })]).length ≤
      kMaxSnapshotBytes := by
    decide +kernel
  have evaluated : (decodePayload
      (vetoPayload [(⟨0, 1⟩, {}), (⟨0, 2⟩, { securityVeto := true })])).toBool = true := by
    decide +kernel
  obtain ⟨state, decoded⟩ : ∃ state, decode vetoedOnce = .ok state := by
    rw [vetoedOnce, decode_sealFile_fits fits]
    cases answer : decodePayload _ with
    | error status => simp [answer, Except.toBool] at evaluated
    | ok state => exact ⟨state, rfl⟩
  refine ⟨state, decoded, (decode_drops_nothing_iff decoded).2.mpr ?_⟩
  have apart : ∀ part ∈ mapSections, ((sectionsFrom kMaxSections
      ⟨vetoPayload [(⟨0, 1⟩, {}), (⟨0, 2⟩, { securityVeto := true })], 0⟩).bind fun parts =>
        (parts.find? fun entry => entry.1 == part).map Prod.snd).any (NoKeyTwice · part) = true := by
    decide +kernel
  intro part restores
  rw [vetoedOnce, bodyOf_sealFile]
  have held := apart part restores
  rw [Option.any_eq_true] at held
  simpa using held

end StatePersistence

end ArtifactPromotion
