import ArtifactPromotion.Persist.Restore
import ArtifactPromotion.Persist.Snapshot
import ArtifactPromotion.Library.OrderedMaps

/-! Decoding what `encode` wrote: exactly which states come back, and as what. -/

namespace ArtifactPromotion

open Decoding

def KeyedBy {κ ν : Type} [Ord κ] [Std.TransOrd κ] (map : OrderedMap κ ν) (key : ν → κ) : Prop :=
  ∀ entry ∈ map.toList, key entry.2 = entry.1

namespace StatePersistence

open Reader

-- As in the record codecs, the steps are composed and not unfolded.
attribute [local irreducible] Writer.u16 Writer.u32 Writer.u64 Writer.boolean Writer.text
  Writer.identity Writer.counter Writer.digest Writer.list Codec.readArtifact Codec.readEvidence
  Codec.readList

section Maps

variable {κ ν : Type} [Ord κ] [Std.TransOrd κ] [Std.LawfulEqOrd κ]

/-- Nothing is stored yet under the keys still to be read, and no key comes twice. -/
structure Fresh (keys : List κ) (map : OrderedMap κ ν) : Prop where
  distinct : keys.Pairwise fun left right => left ≠ right
  absent : ∀ key ∈ keys, map[key]? = none

theorem Fresh.tail {key : κ} {keys : List κ} {map : OrderedMap κ ν}
    (fresh : Fresh (key :: keys) map) (value : ν) : Fresh keys (map.insert key value) := by
  obtain ⟨distinct, absent⟩ := fresh
  rw [List.pairwise_cons] at distinct
  refine ⟨distinct.2, fun other inside => ?_⟩
  rw [OrderedMaps.getElem?_insert_ne _ _ (distinct.1 other inside).symm]
  exact absent other (List.mem_cons_of_mem _ inside)

omit [Std.LawfulEqOrd κ] in
theorem Fresh.head {key : κ} {keys : List κ} {map : OrderedMap κ ν}
    (fresh : Fresh (key :: keys) map) : map[key]? = none :=
  fresh.absent key List.mem_cons_self

omit [Std.LawfulEqOrd κ] in
theorem Fresh.head_contains {key : κ} {keys : List κ} {map : OrderedMap κ ν}
    (fresh : Fresh (key :: keys) map) : map.contains key = false := by
  rw [Std.ExtTreeMap.contains_eq_isSome_getElem?, fresh.head]
  rfl

theorem fresh_keys {μ : Type} (map : OrderedMap κ μ) :
    Fresh (map.toList.map Prod.fst) (∅ : OrderedMap κ ν) := by
  constructor
  · rw [List.pairwise_map]
    refine Std.ExtTreeMap.distinct_keys_toList.imp ?_
    intro left right apart same
    exact apart (by rw [same]; exact Std.ReflCmp.compare_self)
  · simp

theorem readKeyed_reads {read : Decode ν} {write : ν → ByteBuffer} {acceptable : ν → Prop}
    {restored : ν → ν} {key : ν → κ} {bound : Nat} (keeps : ∀ value, key (restored value) = key value)
    (each : ∀ value, Reads view bound read (write value) (acceptable value) (restored value))
    (values : List ν) (map : OrderedMap κ ν) (fresh : Fresh (values.map key) map) :
    Reads view bound (readKeyed read key values.length map) (values.flatMap write)
      (∀ value ∈ values, acceptable value)
      (map.insertMany (values.map fun value => (key value, restored value))) := by
  induction values generalizing map with
  | nil =>
      rw [List.map_nil, Std.ExtTreeMap.insertMany_nil]
      exact (Reads.pure _).congr (by simp)
  | cons first rest ih =>
      rw [List.map_cons] at fresh
      have continued := ih (map.insert (key first) (restored first)) (fresh.tail _)
      rw [List.map_cons, Std.ExtTreeMap.insertMany_cons, List.flatMap_cons]
      refine Reads.congr (.bind (each first) fun _ => ?_) (by rw [List.forall_mem_cons])
      rw [keeps, emplace, OrderedMaps.insertIfNew_fresh _ fresh.head]
      exact continued

end Maps

theorem rejectDecode_passes {α : Type} (code : ErrorCode) (message : String) (next : Decode α) :
    (do rejectDecode false code message; next) = next := rfl

theorem readEvidenceRecords_reads (values : List EvidenceRecord)
    (map : OrderedMap EvidenceId EvidenceRecord) (fresh : Fresh (values.map EvidenceRecord.id) map) :
    Reads view kLengthBound (readEvidenceRecords values.length map)
      (values.flatMap Codec.writeEvidence) (∀ value ∈ values, value.Readable)
      (map.insertMany (values.map fun value => (value.id, value.restored))) := by
  induction values generalizing map with
  | nil =>
      rw [List.map_nil, Std.ExtTreeMap.insertMany_nil]
      exact (Reads.pure _).congr (by simp)
  | cons first rest ih =>
      rw [List.map_cons] at fresh
      have continued := ih (map.insert first.id first.restored) (fresh.tail _)
      have unseen : map.contains first.restored.id = false := fresh.head_contains
      rw [List.map_cons, Std.ExtTreeMap.insertMany_cons, List.flatMap_cons]
      refine Reads.congr (.bind (Codec.readEvidence_reads first) fun _ => ?_)
        (by rw [List.forall_mem_cons])
      have stored : emplace map first.restored.id first.restored =
          map.insert first.id first.restored := OrderedMaps.insertIfNew_fresh _ fresh.head
      rw [unseen, rejectDecode_passes, stored]
      exact continued

@[mk_iff]
structure ChainReadable (entry : ArtifactId × List ArtifactRecord) : Prop where
  fits : entry.2.length ≤ 1024
  records : ∀ record ∈ entry.2, record.Readable ∧ record.id = entry.1
  nonempty : entry.2 ≠ []

theorem readChainRecord_reads (id : ArtifactId) (record : ArtifactRecord) :
    Reads view kLengthBound (readChainRecord id) (Codec.writeArtifact record)
      (record.Readable ∧ record.id = id) record.restored := by
  refine Reads.congr (.last (Codec.readArtifact_reads record) fun _ => ?_) (Iff.rfl)
  by_cases same : record.id = id
  · have passes : (record.restored.id != id) = false := by simpa [ArtifactRecord.restored] using same
    rw [passes]
    exact (Reads.pure _).congr (by simp [same])
  · have rejects : (record.restored.id != id) = true := by simpa [ArtifactRecord.restored] using same
    rw [rejects]
    exact (Reads.failed _ fun _ => ⟨_, rfl⟩).congr (by simp [same])

theorem readChains_reads (entries : List (ArtifactId × List ArtifactRecord))
    (map : OrderedMap ArtifactId (List ArtifactRecord)) (fresh : Fresh (entries.map Prod.fst) map) :
    Reads view kLengthBound (readChains entries.length map) (entries.flatMap writeChain)
      (∀ entry ∈ entries, ChainReadable entry)
      (map.insertMany (entries.map fun entry => (entry.1, entry.2.map ArtifactRecord.restored))) := by
  induction entries generalizing map with
  | nil =>
      rw [List.map_nil, Std.ExtTreeMap.insertMany_nil]
      exact (Reads.pure _).congr (by simp)
  | cons first rest ih =>
      rw [List.map_cons] at fresh
      have continued := ih (map.insert first.1 (first.2.map ArtifactRecord.restored)) (fresh.tail _)
      have chain : Reads view kLengthBound (Codec.readList 1024 (readChainRecord first.1))
          (Writer.list first.2 Codec.writeArtifact) _ _ :=
        Codec.readList_reads Codec.writeArtifact_ne_nil (readChainRecord_reads first.1)
      rw [List.map_cons, Std.ExtTreeMap.insertMany_cons, List.flatMap_cons, writeChain,
        List.append_assoc]
      have whole : Reads view kLengthBound (readChains (first :: rest).length map)
          (Writer.identity first.1 ++ (Writer.list first.2 Codec.writeArtifact ++
            rest.flatMap writeChain))
          ((first.2.length ≤ 1024 ∧ ∀ record ∈ first.2, record.Readable ∧ record.id = first.1) ∧
            first.2 ≠ [] ∧ ∀ entry ∈ rest, ChainReadable entry)
          ((map.insert first.1 (first.2.map ArtifactRecord.restored)).insertMany
            (rest.map fun entry => (entry.1, entry.2.map ArtifactRecord.restored))) := by
        refine .step (identity_yields _) ?_
        rw [fresh.head_contains, rejectDecode_passes]
        refine Reads.bind chain fun _ => ?_
        by_cases empty : first.2 = []
        · rw [empty]
          exact (Reads.failed _ fun _ => ⟨_, rfl⟩).congr (by simp)
        · have filled : (first.2.map ArtifactRecord.restored).isEmpty = false := by
            simpa using empty
          rw [filled, rejectDecode_passes]
          exact continued.congr (by simp [empty])
      refine whole.congr ?_
      rw [List.forall_mem_cons]
      constructor
      · rintro ⟨⟨fits, records⟩, nonempty, others⟩
        exact ⟨⟨fits, records, nonempty⟩, others⟩
      · rintro ⟨⟨fits, records, nonempty⟩, others⟩
        exact ⟨⟨fits, records⟩, nonempty, others⟩

theorem readVetoes_reads (entries : List (ArtifactId × VetoState))
    (map : OrderedMap ArtifactId VetoState) (fresh : Fresh (entries.map Prod.fst) map) :
    Yields view (readVetoes entries.length map) (entries.flatMap writeVetoEntry)
      (map.insertMany (entries.map fun entry => (entry.1, entry.2.restored))) := by
  induction entries generalizing map with
  | nil =>
      rw [List.map_nil, Std.ExtTreeMap.insertMany_nil]
      exact yields_pure _
  | cons first rest ih =>
      rw [List.map_cons] at fresh
      have continued := ih (map.insert first.1 first.2.restored) (fresh.tail _)
      rw [List.map_cons, Std.ExtTreeMap.insertMany_cons, List.flatMap_cons, writeVetoEntry,
        List.append_assoc]
      refine yields_bind (identity_yields _) (yields_bind (Codec.readVeto_yields _) ?_)
      rw [emplace, OrderedMaps.insertIfNew_fresh _ fresh.head]
      exact continued

/-- A generator resumes with a usable salt. -/
def resumed {tag : IdentityTag} (generator : IdentityGenerator tag) : IdentityGenerator tag :=
  .resumeAfter generator.salt generator.counter

theorem readGenerator_yields {tag : IdentityTag} (generator : IdentityGenerator tag) :
    Yields view readGenerator (writeGenerator generator) (resumed generator) :=
  yields_bind (u64_yields _) (yields_last (u64_yields _) (yields_pure _))

/-- What one section adds to the state read so far. -/
def restoreSection (state built : CoordinatorState) : Section → CoordinatorState
  | .header => { built with
      coordinator := state.coordinator, epoch := state.epoch,
      commitSequence := state.commitSequence, decisionSequence := state.decisionSequence,
      artifactGeneration := state.artifactGeneration,
      compatibilityGeneration := state.compatibilityGeneration,
      compatibilityProfile := state.compatibilityProfile, activePolicy := state.activePolicy,
      activePolicyGeneration := state.activePolicyGeneration,
      activePolicyDigest := state.activePolicyDigest }
  | .policy => built.setActivePolicy state.policy.restored
  | .artifacts => { built with
      artifacts := state.artifacts.map fun _ chain => chain.map ArtifactRecord.restored }
  | .evidence => { built with evidence := state.evidence.map fun _ => EvidenceRecord.restored }
  | .plans => { built with plans := state.plans.map fun _ => PromotionPlan.restored }
  | .decisions => { built with decisions := state.decisions.map fun _ => PromotionDecision.restored }
  | .records => { built with records := state.records.map fun _ => PromotionRecord.restored }
  | .idempotency => { built with idempotency := state.idempotency }
  | .history => { built with history := state.history.map fun _ => HistoryEvent.restored }
  | .vetoes => { built with vetoes := state.vetoes.map fun _ => VetoState.restored }
  | .generators => { built with
      revisionGenerator := resumed state.revisionGenerator,
      evidenceGenerator := resumed state.evidenceGenerator,
      planGenerator := resumed state.planGenerator,
      decisionGenerator := resumed state.decisionGenerator,
      transitionGenerator := resumed state.transitionGenerator,
      reservationGenerator := resumed state.reservationGenerator,
      instanceGenerator := resumed state.instanceGenerator,
      provenanceGenerator := resumed state.provenanceGenerator,
      internalRequestGenerator := resumed state.internalRequestGenerator,
      internalAttemptGenerator := resumed state.internalAttemptGenerator }

/-- When the reader accepts a section. -/
def SectionReadable (state : CoordinatorState) : Section → Prop
  | .header => True
  | .policy => state.policy.Readable
  | .artifacts =>
      state.artifacts.size ≤ 1000000 ∧ ∀ entry ∈ state.artifacts.toList, ChainReadable entry
  | .evidence =>
      state.evidence.size ≤ 10000000 ∧ ∀ entry ∈ state.evidence.toList, entry.2.Readable
  | .plans => state.plans.size ≤ 10000000 ∧ ∀ entry ∈ state.plans.toList, entry.2.Readable
  | .decisions =>
      state.decisions.size ≤ 10000000 ∧ ∀ entry ∈ state.decisions.toList, entry.2.Readable
  | .records => state.records.size ≤ 10000000 ∧ ∀ entry ∈ state.records.toList, entry.2.Readable
  | .idempotency =>
      state.idempotency.size ≤ 10000000 ∧ ∀ entry ∈ state.idempotency.toList, entry.2.Readable
  | .history => state.history.size ≤ 10000000 ∧ ∀ entry ∈ state.history.toList, entry.2.Readable
  | .vetoes => state.vetoes.size ≤ 1000000
  | .generators => True

/-- Nothing of the section was read yet. -/
def Blank (built : CoordinatorState) : Section → Prop
  | .artifacts => built.artifacts = ∅
  | .evidence => built.evidence = ∅
  | .plans => built.plans = ∅
  | .decisions => built.decisions = ∅
  | .records => built.records = ∅
  | .idempotency => built.idempotency = ∅
  | .history => built.history = ∅
  | .vetoes => built.vetoes = ∅
  | _ => True

/-- Every stored record lies under its own key. -/
structure Keyed (state : CoordinatorState) : Prop where
  evidence : KeyedBy state.evidence EvidenceRecord.id
  plans : KeyedBy state.plans PromotionPlan.id
  decisions : KeyedBy state.decisions PromotionDecision.id
  records : KeyedBy state.records PromotionRecord.transition
  idempotency : KeyedBy state.idempotency IdempotencyRecord.request
  history : KeyedBy state.history HistoryEvent.sequence

theorem counted_reads {α γ δ : Type} {limit : Nat} {write : α → ByteBuffer} {acceptable : Prop}
    {result : γ} (values : List α) (reader : Nat → Decode γ) (finish : γ → δ)
    (nonempty : ∀ value, write value ≠ [])
    (body : Reads view kLengthBound (reader values.length) (values.flatMap write) acceptable
      result) :
    Reads view kLengthBound (do
      let count ← Reader.count limit
      let elements ← reader count
      return finish elements) (Writer.list values write) (values.length ≤ limit ∧ acceptable)
      (finish result) := by
  have whole (small : values.length < kLengthBound) : Reads view kLengthBound (do
      let count ← Reader.count limit
      let elements ← reader count
      return finish elements) (Writer.list values write) (values.length ≤ limit ∧ acceptable)
      (finish result) := by
    unfold Writer.list
    have finished : Reads view kLengthBound (do
        let elements ← reader values.length
        return finish elements) (values.flatMap write) (acceptable ∧ True) (finish result) :=
      .last body fun _ => .pure _
    exact .bind (count_reads small) fun _ => finished.congr (by rw [and_true])
  have counted := Codec.length_le_flatMap values nonempty
  have fits (small : (Writer.list values write).length < kLengthBound) :
      values.length < kLengthBound := by
    rw [Writer.list, List.length_append] at small
    omega
  exact ⟨fun small => (whole (fits small)).yields small,
    fun small => (whole (fits small)).refuses small⟩

theorem identity_ne_nil {tag : IdentityTag} (value : Identity tag) (rest : ByteBuffer) :
    Writer.identity value ++ rest ≠ [] := by
  apply List.append_ne_nil_of_left_ne_nil
  unfold Writer.identity Writer.u64
  exact List.ne_nil_of_length_pos (by simp [storeU64_length])

theorem counter_ne_nil {tag : CounterTag} (value : Counter tag) (rest : ByteBuffer) :
    Writer.counter value ++ rest ≠ [] := by
  apply List.append_ne_nil_of_left_ne_nil
  unfold Writer.counter Writer.u64
  exact List.ne_nil_of_length_pos (by simp [storeU64_length])

section Maps

variable {κ ν : Type} [Ord κ] [Std.TransOrd κ] [Std.LawfulEqOrd κ]

omit [Std.LawfulEqOrd κ] in
theorem keyed_entries {map : OrderedMap κ ν} {key : ν → κ} (keyed : KeyedBy map key)
    (restored : ν → ν) :
    (map.toList.map Prod.snd).map (fun value => (key value, restored value)) =
      map.toList.map fun entry => (entry.1, restored entry.2) := by
  rw [List.map_map]
  refine List.map_congr_left fun entry inside => ?_
  rw [Function.comp_apply, keyed entry inside]

omit [Std.LawfulEqOrd κ] in
theorem keyed_keys {map : OrderedMap κ ν} {key : ν → κ} (keyed : KeyedBy map key) :
    (map.toList.map Prod.snd).map key = map.toList.map Prod.fst := by
  rw [List.map_map]
  exact List.map_congr_left fun entry inside => keyed entry inside

theorem keyedSection_reads {δ : Type} {map : OrderedMap κ ν} {read : Decode ν}
    {write : ν → ByteBuffer} {acceptable : ν → Prop} {restored : ν → ν} {key : ν → κ} {limit : Nat}
    (finish : OrderedMap κ ν → δ) (keyed : KeyedBy map key)
    (each : ∀ value, Reads view kLengthBound read (write value) (acceptable value)
      (restored value))
    (keeps : ∀ value, key (restored value) = key value) (nonempty : ∀ value, write value ≠ []) :
    Reads view kLengthBound (do
      let count ← Reader.count limit
      let elements ← readKeyed read key count ∅
      return finish elements) (Writer.list (map.toList.map Prod.snd) write)
      (map.size ≤ limit ∧ ∀ entry ∈ map.toList, acceptable entry.2)
      (finish (map.map fun _ => restored)) := by
  have fresh : Fresh ((map.toList.map Prod.snd).map key) (∅ : OrderedMap κ ν) := by
    rw [keyed_keys keyed]
    exact fresh_keys map
  have body := readKeyed_reads keeps each (map.toList.map Prod.snd) ∅ fresh
  rw [keyed_entries keyed restored, OrderedMaps.insertMany_toList map fun _ => restored] at body
  refine (counted_reads _ (readKeyed read key · ∅) finish nonempty body).congr ?_
  rw [List.length_map, Std.ExtTreeMap.length_toList, List.forall_mem_map]

end Maps

theorem readHeader_yields (state built : CoordinatorState) :
    Yields view (readHeader built) (writeHeader state) (restoreSection state built .header) := by
  unfold readHeader writeHeader
  simp only [List.append_assoc]
  exact yields_bind (identity_yields _) (yields_bind (counter_yields _)
    (yields_bind (counter_yields _) (yields_bind (counter_yields _)
    (yields_bind (counter_yields _) (yields_bind (counter_yields _)
    (yields_bind (identity_yields _) (yields_bind (identity_yields _)
    (yields_bind (counter_yields _) (yields_last (digest_yields _) (yields_pure _))))))))))

theorem readGenerators_yields (state built : CoordinatorState) :
    Yields view (readGenerators built) (writeGenerators state)
      (restoreSection state built .generators) := by
  unfold readGenerators writeGenerators
  simp only [List.append_assoc]
  exact yields_bind (readGenerator_yields _) (yields_bind (readGenerator_yields _)
    (yields_bind (readGenerator_yields _) (yields_bind (readGenerator_yields _)
    (yields_bind (readGenerator_yields _) (yields_bind (readGenerator_yields _)
    (yields_bind (readGenerator_yields _) (yields_bind (readGenerator_yields _)
    (yields_bind (readGenerator_yields _) (yields_last (readGenerator_yields _)
    (yields_pure _))))))))))

attribute [local irreducible] Codec.readPlan Codec.readDecision Codec.readPromotionRecord
  Codec.readIdempotency Codec.readHistoryEvent Codec.readVeto Codec.readPolicy

theorem readSection_reads {state built : CoordinatorState} (keyed : Keyed state) (part : Section)
    (blank : Blank built part) :
    Reads view kLengthBound (readSection built part) (sectionBody state part)
      (SectionReadable state part) (restoreSection state built part) := by
  cases part with
  | header => exact .of_yields (readHeader_yields state built)
  | policy =>
      refine Reads.congr (.last (Codec.readPolicy_reads state.policy) fun _ => .pure _) ?_
      rw [and_true]
      rfl
  | artifacts =>
      have blank : built.artifacts = ∅ := blank
      have body := readChains_reads state.artifacts.toList ∅ (fresh_keys state.artifacts)
      rw [OrderedMaps.insertMany_toList state.artifacts
        fun _ chain => chain.map ArtifactRecord.restored] at body
      simp only [readSection, blank]
      refine (counted_reads state.artifacts.toList (readChains · ∅)
        (fun artifacts => { built with artifacts }) (fun entry => ?_) body).congr ?_
      · exact identity_ne_nil _ _
      · rw [Std.ExtTreeMap.length_toList]
        rfl
  | evidence =>
      have blank : built.evidence = ∅ := blank
      have fresh : Fresh ((state.evidence.toList.map Prod.snd).map EvidenceRecord.id)
          (∅ : OrderedMap EvidenceId EvidenceRecord) := by
        rw [keyed_keys keyed.evidence]
        exact fresh_keys state.evidence
      have body := readEvidenceRecords_reads (state.evidence.toList.map Prod.snd) ∅ fresh
      rw [keyed_entries keyed.evidence, OrderedMaps.insertMany_toList state.evidence
        fun _ => EvidenceRecord.restored] at body
      simp only [readSection, blank]
      refine (counted_reads _ (readEvidenceRecords · ∅) (fun evidence => { built with evidence })
        (fun value => ?_) body).congr ?_
      · unfold Codec.writeEvidence
        simp only [List.append_assoc]
        exact identity_ne_nil _ _
      · rw [List.length_map, Std.ExtTreeMap.length_toList, List.forall_mem_map]
        rfl
  | plans =>
      have blank : built.plans = ∅ := blank
      simp only [readSection, blank]
      refine keyedSection_reads (fun plans => { built with plans }) keyed.plans
        Codec.readPlan_reads (fun _ => rfl) fun value => ?_
      unfold Codec.writePlan
      simp only [List.append_assoc]
      exact identity_ne_nil _ _
  | decisions =>
      have blank : built.decisions = ∅ := blank
      simp only [readSection, blank]
      refine keyedSection_reads (fun decisions => { built with decisions }) keyed.decisions
        Codec.readDecision_reads (fun _ => rfl) fun value => ?_
      unfold Codec.writeDecision
      simp only [List.append_assoc]
      exact identity_ne_nil _ _
  | records =>
      have blank : built.records = ∅ := blank
      simp only [readSection, blank]
      refine keyedSection_reads (fun records => { built with records }) keyed.records
        Codec.readPromotionRecord_reads (fun _ => rfl) fun value => ?_
      unfold Codec.writePromotionRecord
      simp only [List.append_assoc]
      exact identity_ne_nil _ _
  | idempotency =>
      have blank : built.idempotency = ∅ := blank
      have each (value : IdempotencyRecord) : Reads view kLengthBound Codec.readIdempotency
          (Codec.writeIdempotency value) value.Readable (id value) :=
        Codec.readIdempotency_reads value
      have same : state.idempotency.map (fun _ => id) = state.idempotency :=
        OrderedMaps.map_id _
      simp only [readSection, blank, restoreSection]
      rw [← same]
      refine keyedSection_reads (fun idempotency => { built with idempotency }) keyed.idempotency
        each (fun _ => rfl) fun value => ?_
      unfold Codec.writeIdempotency
      simp only [List.append_assoc]
      exact identity_ne_nil _ _
  | history =>
      have blank : built.history = ∅ := blank
      simp only [readSection, blank]
      refine keyedSection_reads (fun history => { built with history }) keyed.history
        Codec.readHistoryEvent_reads (fun _ => rfl) fun value => ?_
      unfold Codec.writeHistoryEvent
      simp only [List.append_assoc]
      exact counter_ne_nil _ _
  | vetoes =>
      have blank : built.vetoes = ∅ := blank
      have body := readVetoes_reads state.vetoes.toList ∅ (fresh_keys state.vetoes)
      rw [OrderedMaps.insertMany_toList state.vetoes fun _ => VetoState.restored] at body
      simp only [readSection, blank]
      refine (counted_reads state.vetoes.toList (readVetoes · ∅)
        (fun vetoes => { built with vetoes }) (fun entry => ?_) (.of_yields body)).congr ?_
      · exact identity_ne_nil _ _
      · rw [Std.ExtTreeMap.length_toList, and_true]
        rfl
  | generators => exact .of_yields (readGenerators_yields state built)

theorem finished_of_unread {reader : Reader} (sound : view.sound reader)
    (unread : view.unread reader = []) : reader.finished = true := by
  have sound : reader.offset ≤ reader.data.length := sound
  have past : reader.data.length ≤ reader.offset := List.drop_eq_nil_iff.mp unread
  simp only [Reader.finished, beq_iff_eq]
  omega

theorem unfinished_of_unread {reader : Reader} (unread : view.unread reader ≠ []) :
    reader.finished = false := by
  rw [← Bool.not_eq_true]
  intro finished
  simp only [Reader.finished, beq_iff_eq] at finished
  exact unread (List.drop_eq_nil_iff.mpr finished.ge)

theorem readBody_eq_ok {state built result : CoordinatorState} (keyed : Keyed state)
    {part : Section} (blank : Blank built part)
    (small : (sectionBody state part).length < kLengthBound) :
    readBody built part { data := sectionBody state part } = .ok result ↔
      SectionReadable state part ∧ result = restoreSection state built part := by
  have reads := readSection_reads keyed part blank
  have sound : view.sound { data := sectionBody state part } := Nat.zero_le _
  have unread : view.unread { data := sectionBody state part } = sectionBody state part ++ [] :=
    (List.append_nil _).symm
  by_cases accepted : SectionReadable state part
  · obtain ⟨next, answer, nextSound, nextUnread⟩ :=
      reads.yields small accepted _ _ sound unread
    have finished := finished_of_unread nextSound nextUnread
    simp only [readBody, answer, finished, if_true, accepted, true_and, Except.ok.injEq]
    exact eq_comm
  · obtain ⟨failure, answer⟩ := reads.refuses small accepted _ _ sound unread
    simp [readBody, answer, accepted]

theorem blank_restoreSection (state : CoordinatorState) {built : CoordinatorState} {part other : Section}
    (distinct : part ≠ other) (blank : Blank built other) :
    Blank (restoreSection state built part) other := by
  cases part <;> cases other <;> first | exact blank | exact absurd rfl distinct

theorem ofKind_kind (part : Section) : Section.ofKind part.kind = some part := by
  cases part <;> decide

theorem subRegion_yields {body : ByteBuffer} (fits : body.length ≤ kMaxSnapshotBytes) :
    Yields view (subRegion kMaxSnapshotBytes) (Writer.u32 body.length.toUInt32 ++ body)
      { data := body } := by
  have small : body.length < 2 ^ 32 := lt_of_le_of_lt fits (by decide)
  refine yields_bind (u32_yields _) ?_
  rw [toUInt32_toNat small, if_neg (not_lt.mpr fits)]
  exact consume_yields rfl fun rest => by rw [List.take_left' rfl]

theorem ok_bind {α β : Type} (value : α) (next : α → Result β) :
    (Except.ok value >>= next) = next value := rfl

theorem readSections_turn (allowed : Nat) {seen : List Section} (built : CoordinatorState)
    {reader : Reader} {part : Section} {body rest : ByteBuffer} (sound : view.sound reader)
    (unread : view.unread reader = Writer.region part.kind body ++ rest)
    (fits : body.length ≤ kMaxSnapshotBytes) (unseen : part ∉ seen) :
    ∃ next, view.sound next ∧ view.unread next = rest ∧
      readSections (allowed + 1) seen built reader =
        (readBody built part { data := body } >>= fun after =>
          readSections allowed (part :: seen) after next) := by
  rw [Writer.region, List.append_assoc, List.append_assoc] at unread
  have started : view.unread reader ≠ [] := by
    rw [unread]
    apply List.append_ne_nil_of_left_ne_nil
    unfold Writer.u16
    exact List.ne_nil_of_length_pos (by rw [storeU16_length]; decide)
  obtain ⟨afterKind, kindRead, kindSound, kindUnread⟩ := u16_yields _ _ _ sound unread
  rw [← List.append_assoc] at kindUnread
  obtain ⟨next, bodyRead, nextSound, nextUnread⟩ :=
    subRegion_yields fits _ _ kindSound kindUnread
  refine ⟨next, nextSound, nextUnread, ?_⟩
  have new : seen.contains part = false := by simpa using unseen
  rw [readSections.eq_def]
  simp only [unfinished_of_unread started, Bool.false_eq_true, if_false]
  rw [kindRead, ok_bind]
  dsimp only
  rw [ofKind_kind]
  dsimp only
  rw [bodyRead, ok_bind]
  dsimp only
  rw [new]
  rfl

/-- The section loop over the remaining sections, from a state that holds nothing of them. -/
theorem readSections_eq_ok {state : CoordinatorState} (keyed : Keyed state) (parts : List Section)
    {allowed : Nat} {seen : List Section} {built : CoordinatorState} {reader : Reader}
    {result : List Section × CoordinatorState} (sound : view.sound reader)
    (unread : view.unread reader =
      parts.flatMap fun part => Writer.region part.kind (sectionBody state part))
    (fits : ∀ part ∈ parts, (sectionBody state part).length ≤ kMaxSnapshotBytes)
    (enough : parts.length ≤ allowed) (distinct : parts.Nodup)
    (unseen : ∀ part ∈ parts, part ∉ seen) (blank : ∀ part ∈ parts, Blank built part) :
    readSections allowed seen built reader = .ok result ↔
      (∀ part ∈ parts, SectionReadable state part) ∧
        result = (parts.reverse ++ seen, parts.foldl (restoreSection state) built) := by
  induction parts generalizing allowed seen built reader with
  | nil =>
      rw [readSections.eq_def]
      simp only [finished_of_unread sound unread, if_true, Except.ok.injEq]
      simp [eq_comm]
  | cons part rest ih =>
      rw [List.forall_mem_cons] at fits unseen blank
      rw [List.nodup_cons] at distinct
      obtain ⟨allowed, rfl⟩ : ∃ fewer, allowed = fewer + 1 :=
        Nat.exists_eq_add_one.mpr (lt_of_lt_of_le (by simp) enough)
      obtain ⟨next, nextSound, nextUnread, turn⟩ := readSections_turn allowed built sound
        unread fits.1 unseen.1
      have apart (other : Section) (inside : other ∈ rest) : other ≠ part :=
        fun same => distinct.1 (same ▸ inside)
      have continued := ih nextSound nextUnread fits.2 (Nat.le_of_succ_le_succ enough) distinct.2
        (fun other inside => show other ∉ part :: seen by
          simpa [apart other inside] using unseen.2 other inside)
        (fun other inside => blank_restoreSection state (apart other inside).symm
          (blank.2 other inside))
      have small : (sectionBody state part).length < kLengthBound :=
        lt_of_le_of_lt fits.1 (by decide)
      rw [turn, bind_eq_ok, List.forall_mem_cons, List.reverse_cons, List.append_assoc,
        List.singleton_append, List.foldl_cons, and_assoc, ← continued]
      constructor
      · rintro ⟨after, read, looped⟩
        obtain ⟨accepted, rfl⟩ := (readBody_eq_ok keyed blank.1 small).mp read
        exact ⟨accepted, looped⟩
      · rintro ⟨accepted, looped⟩
        exact ⟨_, (readBody_eq_ok keyed blank.1 small).mpr ⟨accepted, rfl⟩, looped⟩

/-- The state read back, before its generators are advanced past the identities in it. -/
def restoredState (state : CoordinatorState) : CoordinatorState :=
  sectionOrder.foldl (restoreSection state) {}

theorem restoredState_eq (state : CoordinatorState) : restoredState state =
    { coordinator := state.coordinator, epoch := state.epoch,
      commitSequence := state.commitSequence, decisionSequence := state.decisionSequence,
      artifactGeneration := state.artifactGeneration,
      compatibilityGeneration := state.compatibilityGeneration,
      compatibilityProfile := state.compatibilityProfile, activePolicy := state.policy.id,
      activePolicyId := state.policy.id, activePolicyGeneration := state.policy.generation,
      activePolicyDigest := state.policy.policyDigest, policy := state.policy.restored,
      artifacts := state.artifacts.map fun _ chain => chain.map ArtifactRecord.restored,
      evidence := state.evidence.map fun _ => EvidenceRecord.restored,
      plans := state.plans.map fun _ => PromotionPlan.restored,
      decisions := state.decisions.map fun _ => PromotionDecision.restored,
      records := state.records.map fun _ => PromotionRecord.restored,
      idempotency := state.idempotency,
      history := state.history.map fun _ => HistoryEvent.restored,
      vetoes := state.vetoes.map fun _ => VetoState.restored,
      revisionGenerator := resumed state.revisionGenerator,
      evidenceGenerator := resumed state.evidenceGenerator,
      planGenerator := resumed state.planGenerator,
      decisionGenerator := resumed state.decisionGenerator,
      transitionGenerator := resumed state.transitionGenerator,
      reservationGenerator := resumed state.reservationGenerator,
      instanceGenerator := resumed state.instanceGenerator,
      provenanceGenerator := resumed state.provenanceGenerator,
      internalRequestGenerator := resumed state.internalRequestGenerator,
      internalAttemptGenerator := resumed state.internalAttemptGenerator } := by
  simp only [restoredState, sectionOrder, List.foldl_cons, List.foldl_nil, restoreSection,
    CoordinatorState.setActivePolicy, PromotionPolicy.restored]

theorem sectionBody_le (state : CoordinatorState) (part : Section) :
    (sectionBody state part).length ≤ (encodePayload state).length := by
  have inside : part ∈ sectionOrder := by cases part <;> decide
  obtain ⟨before, after, split⟩ := List.append_of_mem inside
  rw [encodePayload, split, List.flatMap_append, List.flatMap_cons]
  simp only [Writer.region, List.length_append]
  omega

theorem decodePayload_eq_ok {state result : CoordinatorState} (keyed : Keyed state)
    (fits : (encodePayload state).length ≤ kMaxSnapshotBytes) :
    decodePayload (encodePayload state) = .ok result ↔
      (∀ part, SectionReadable state part) ∧ result = observeState (restoredState state) := by
  have all (part : Section) : part ∈ sectionOrder := by cases part <;> decide
  have looped (found : List Section × CoordinatorState) :
      readSections kMaxSections [] {} { data := encodePayload state } = .ok found ↔ _ :=
    readSections_eq_ok keyed sectionOrder (Nat.zero_le _) rfl
      (fun part _ => le_trans (sectionBody_le state part) fits) (by decide) (by decide)
      (fun part _ => List.not_mem_nil) (fun part _ => by cases part <;> trivial)
  have checked : checkDecoded (sectionOrder.reverse ++ []) (restoredState state) = .ok () := by
    have complete : (!Section.all.all fun part =>
        (sectionOrder.reverse ++ []).contains part) = false := by decide
    simp only [checkDecoded, complete, bind_eq_ok, rejectWhen_eq_ok]
    simp [restoredState, sectionOrder, restoreSection, CoordinatorState.setActivePolicy]
  rw [decodePayload, bind_eq_ok]
  constructor
  · rintro ⟨found, read, rest⟩
    obtain ⟨accepted, rfl⟩ := (looped found).mp read
    refine ⟨fun part => accepted part (all part), ?_⟩
    change (checkDecoded _ (restoredState state) >>= fun _ =>
      pure (observeState (restoredState state))) = .ok result at rest
    rw [checked] at rest
    exact (Except.ok.inj rest).symm
  · rintro ⟨accepted, rfl⟩
    refine ⟨_, (looped _).mpr ⟨fun part _ => accepted part, rfl⟩, ?_⟩
    change (checkDecoded _ (restoredState state) >>= fun _ =>
      pure (observeState (restoredState state))) = _
    rw [checked]
    rfl

/-- The fixed part of the file, before the payload. -/
def fileHeader (size : Nat) : ByteBuffer :=
  kMagic ++ Writer.u16 kFormatVersion ++ Writer.u16 0 ++ Writer.u64 size.toUInt64

theorem fileHeader_length (size : Nat) : (fileHeader size).length = kHeaderSize := by
  simp [fileHeader, Writer.u16, Writer.u64, storeU16_length, storeU64_length, kMagic, kHeaderSize]

theorem readFileHeader_yields (size : Nat) :
    Yields view readFileHeader (fileHeader size) size.toUInt64 := by
  unfold readFileHeader fileHeader
  simp only [List.append_assoc]
  refine yields_bind (raw_yields (rfl : kMagic.length = _)) (yields_bind (u16_yields _) ?_)
  rw [if_neg (by simp)]
  exact yields_bind (u16_yields 0) (u64_yields _)

/-- The whole file around a payload. -/
def sealFile (payload : ByteBuffer) : ByteBuffer :=
  encodeBody payload ++ Writer.digest (sha256 (encodeBody payload))

theorem sealFile_length (payload : ByteBuffer) :
    (sealFile payload).length = kHeaderSize + payload.length + kFooterSize := by
  have footer : (Writer.digest (sha256 (encodeBody payload))).length = kFooterSize := by
    rw [Writer.digest]
    exact (sha256 (encodeBody payload)).sized
  have file : encodeBody payload = fileHeader payload.length ++ payload := rfl
  rw [sealFile, List.length_append, footer, file, List.length_append, fileHeader_length]

theorem decode_sealFile (payload : ByteBuffer) :
    ∃ reader, view.sound reader ∧
      view.unread reader = payload ++ Writer.digest (sha256 (encodeBody payload)) ∧
      decode (sealFile payload) = (do
        rejectWhen (payload.length.toUInt64.toNat > kMaxSnapshotBytes) .persistenceCorrupt
          "declared snapshot payload exceeds the supported bound"
        rejectWhen (kHeaderSize + payload.length.toUInt64.toNat + kFooterSize !=
            (sealFile payload).length) .persistenceCorrupt
          ("declared snapshot length does not match the file size; the file is truncated or has " ++
            "trailing bytes")
        let (payload, reader) ← Reader.raw payload.length.toUInt64.toNat reader
        let (_, reader) ← Reader.consume kFooterSize "input ended while skipping a byte region"
          (fun _ => ()) reader
        reader.requireFinished
        decodePayload payload) := by
  have length := sealFile_length payload
  have covered : (sealFile payload).length - kFooterSize = (encodeBody payload).length := by
    have file : encodeBody payload = fileHeader payload.length ++ payload := rfl
    rw [length, file, List.length_append, fileHeader_length, Nat.add_sub_cancel]
  have long : decide ((sealFile payload).length < kHeaderSize + kFooterSize) = false := by
    rw [length]
    simp
  have magic : ((sealFile payload).take kMagic.length != kMagic) = false := by
    have front : sealFile payload = kMagic ++ (Writer.u16 kFormatVersion ++ (Writer.u16 0 ++
        (Writer.u64 payload.length.toUInt64 ++ (payload ++
          Writer.digest (sha256 (encodeBody payload)))))) := by
      rw [sealFile, encodeBody]
      simp only [List.append_assoc]
    rw [front, List.take_left' rfl]
    simp
  have digest : ((sealFile payload).drop ((sealFile payload).length - kFooterSize) !=
      (sha256 ((sealFile payload).take ((sealFile payload).length - kFooterSize))).bytes) =
      false := by
    rw [covered, sealFile, List.take_left' rfl, List.drop_left' rfl, Writer.digest]
    simp
  have unread : view.unread { data := sealFile payload } = fileHeader payload.length ++
      (payload ++ Writer.digest (sha256 (encodeBody payload))) := by
    rw [← List.append_assoc]
    rfl
  obtain ⟨reader, read, sound, rest⟩ := readFileHeader_yields payload.length
    { data := sealFile payload } _ (Nat.zero_le _) unread
  refine ⟨reader, sound, rest, ?_⟩
  unfold decode
  dsimp only
  rw [long, magic, digest, read]
  rfl

theorem decode_sealFile_large {payload : ByteBuffer} (large : kMaxSnapshotBytes < payload.length) :
    ∃ status, decode (sealFile payload) = .error status := by
  obtain ⟨reader, _, _, decoded⟩ := decode_sealFile payload
  rw [decoded]
  by_cases declared : payload.length.toUInt64.toNat > kMaxSnapshotBytes
  · rw [decide_eq_true declared]
    exact ⟨_, rfl⟩
  · have other : (kHeaderSize + payload.length.toUInt64.toNat + kFooterSize !=
        (sealFile payload).length) = true := by
      rw [sealFile_length, bne_iff_ne]
      omega
    rw [decide_eq_false declared, other]
    exact ⟨_, rfl⟩

theorem decode_sealFile_fits {payload : ByteBuffer} (fits : payload.length ≤ kMaxSnapshotBytes) :
    decode (sealFile payload) = decodePayload payload := by
  have declared : payload.length.toUInt64.toNat = payload.length := by
    simp only [Nat.toUInt64, UInt64.toNat_ofNat']
    exact Nat.mod_eq_of_lt (lt_of_le_of_lt fits (by decide))
  obtain ⟨reader, sound, unread, decoded⟩ := decode_sealFile payload
  obtain ⟨afterPayload, payloadRead, payloadSound, payloadUnread⟩ :=
    raw_yields (rfl : payload.length = _) reader _ sound unread
  rw [← List.append_nil (Writer.digest _)] at payloadUnread
  have footer : Yields view (Reader.consume kFooterSize "input ended while skipping a byte region"
      (fun _ => ())) (Writer.digest (sha256 (encodeBody payload))) () :=
    consume_yields (by rw [Writer.digest]; exact Digest.sized _) fun _ => rfl
  obtain ⟨last, footerRead, lastSound, lastUnread⟩ := footer _ _ payloadSound payloadUnread
  have finished := finished_of_unread lastSound lastUnread
  have same : (kHeaderSize + payload.length + kFooterSize != (sealFile payload).length) = false := by
    rw [sealFile_length]
    simp
  rw [decoded, declared, same, decide_eq_false (not_lt.mpr fits), payloadRead]
  change (Reader.consume kFooterSize _ _ afterPayload >>= _) = _
  rw [footerRead]
  change (last.requireFinished >>= _) = _
  rw [Reader.requireFinished, finished]
  rfl

/-- A saved state decodes exactly when it fits the file and every section is readable, and then to
the restored state. -/
theorem decode_encode_eq_ok {state result : CoordinatorState} (keyed : Keyed state) :
    decode (encode state) = .ok result ↔
      (encodePayload state).length ≤ kMaxSnapshotBytes ∧
        (∀ part, SectionReadable state part) ∧ result = observeState (restoredState state) := by
  have file : encode state = sealFile (encodePayload state) := rfl
  rw [file]
  by_cases fits : (encodePayload state).length ≤ kMaxSnapshotBytes
  · rw [decode_sealFile_fits fits, decodePayload_eq_ok keyed fits]
    simp [fits]
  · obtain ⟨status, failed⟩ := decode_sealFile_large (not_le.mp fits)
    simp [failed, fits]

end StatePersistence

end ArtifactPromotion
