import ArtifactPromotion.Core.WrittenFields
import ArtifactPromotion.Domain.Evidence

/-! What the evidence digests tell apart. The bytes under the integrity digest determine the record
and the bytes under a snapshot digest determine the set of its entries, whose order is no matter. -/

namespace ArtifactPromotion

open Delimiting Writer

namespace EvidenceRecord

structure Admitted (record : EvidenceRecord) : Prop where
  customType : record.customType.length ≤ kMaxNameLength
  measurement : record.measurement.length ≤ kMaxTextLength
  detail : record.detail.length ≤ kMaxTextLength
  environment : record.environment.length ≤ kMaxTextLength

/-- Two records agree in every field the integrity digest covers. -/
structure CoveredAlike (left right : EvidenceRecord) : Prop where
  id : left.id = right.id
  type : left.type = right.type
  customType : left.customType = right.customType
  generation : left.generation = right.generation
  subject : left.subject = right.subject
  subjectDigest : left.subjectDigest = right.subjectDigest
  subjectRevision : left.subjectRevision = right.subjectRevision
  producer : left.producer = right.producer
  result : left.result = right.result
  confidenceMilli : left.confidenceMilli = right.confidenceMilli
  measurement : left.measurement = right.measurement
  detail : left.detail = right.detail
  payloadDigest : left.payloadDigest = right.payloadDigest
  provenance : left.provenance = right.provenance
  createdSequence : left.createdSequence = right.createdSequence
  producedUnixMillis : left.producedUnixMillis = right.producedUnixMillis
  hasValidityWindow : left.hasValidityWindow = right.hasValidityWindow
  validFromUnixMillis : left.validFromUnixMillis = right.validFromUnixMillis
  validUntilUnixMillis : left.validUntilUnixMillis = right.validUntilUnixMillis
  environment : left.environment = right.environment
  revoked : left.revoked = right.revoked

end EvidenceRecord

theorem producer_eq {left right : ProducerIncarnation} (worker : left.worker = right.worker)
    (boot : left.boot = right.boot) : left = right := by
  cases left
  cases right
  simp_all

theorem take_alike {left right : Text} {limit : Nat} (fits : left.length ≤ limit)
    (otherFits : right.length ≤ limit) (same : left.take limit = right.take limit) :
    left = right := by
  rwa [List.take_of_length_le fits, List.take_of_length_le otherFits] at same

theorem integrityPreimage_alike {left right : EvidenceRecord} (admitted : left.Admitted)
    (otherAdmitted : right.Admitted) (same : integrityPreimage left = integrityPreimage right) :
    left.CoveredAlike right := by
  have names := text_delimited (show kMaxNameLength < UInt32.size by decide)
  have texts := text_delimited (show kMaxTextLength < UInt32.size by decide)
  -- Each field ends before the next one begins, in the order they are written.
  have fields := (identity_delimited.comp EvidenceRecord.id)
    |>.append ((u8_delimited EvidenceType.ofByte EvidenceType.ofByte_toByte).comp
      EvidenceRecord.type)
    |>.append (names.comp EvidenceRecord.customType)
    |>.append (counter_delimited.comp EvidenceRecord.generation)
    |>.append (identity_delimited.comp EvidenceRecord.subject)
    |>.append (digest_delimited.comp EvidenceRecord.subjectDigest)
    |>.append (identity_delimited.comp EvidenceRecord.subjectRevision)
    |>.append (identity_delimited.comp fun record : EvidenceRecord => record.producer.worker)
    |>.append (identity_delimited.comp fun record : EvidenceRecord => record.producer.boot)
    |>.append ((u8_delimited EvidenceResult.ofByte EvidenceResult.ofByte_toByte).comp
      EvidenceRecord.result)
    |>.append (u32_delimited.comp EvidenceRecord.confidenceMilli)
    |>.append (texts.comp EvidenceRecord.measurement)
    |>.append (texts.comp EvidenceRecord.detail)
    |>.append (digest_delimited.comp EvidenceRecord.payloadDigest)
    |>.append (identity_delimited.comp EvidenceRecord.provenance)
    |>.append (counter_delimited.comp EvidenceRecord.createdSequence)
    |>.append (u64_delimited.comp EvidenceRecord.producedUnixMillis)
    |>.append (boolean_delimited.comp EvidenceRecord.hasValidityWindow)
    |>.append (u64_delimited.comp EvidenceRecord.validFromUnixMillis)
    |>.append (u64_delimited.comp EvidenceRecord.validUntilUnixMillis)
    |>.append (texts.comp EvidenceRecord.environment)
    |>.append (boolean_delimited.comp EvidenceRecord.revoked)
  have seen := (fields left right [] [] (by rw [List.append_nil, List.append_nil]; exact same)).1
  simp only [Prod.mk.injEq, id_eq] at seen
  obtain ⟨⟨⟨⟨⟨⟨⟨⟨⟨⟨⟨⟨⟨⟨⟨⟨⟨⟨⟨⟨⟨id, type⟩, customType⟩, generation⟩, subject⟩, subjectDigest⟩,
    subjectRevision⟩, worker⟩, boot⟩, result⟩, confidence⟩, measurement⟩, detail⟩, payload⟩,
    provenance⟩, sequence⟩, produced⟩, window⟩, validFrom⟩, validUntil⟩, environment⟩, revoked⟩ :=
    seen
  exact {
    id, type, generation, subject, subjectDigest, subjectRevision, result, provenance, revoked
    customType := take_alike admitted.customType otherAdmitted.customType customType
    producer := producer_eq worker boot
    confidenceMilli := confidence
    measurement := take_alike admitted.measurement otherAdmitted.measurement measurement
    detail := take_alike admitted.detail otherAdmitted.detail detail
    payloadDigest := payload
    createdSequence := sequence
    producedUnixMillis := produced
    hasValidityWindow := window
    validFromUnixMillis := validFrom
    validUntilUnixMillis := validUntil
    environment := take_alike admitted.environment otherAdmitted.environment environment }

namespace EvidenceSnapshotEntry

def clipped (entry : EvidenceSnapshotEntry) : EvidenceSnapshotEntry :=
  { entry with customType := entry.customType.take kMaxNameLength }

theorem encode_delimited : Delimited encode clipped := by
  have fields := (identity_delimited.comp EvidenceSnapshotEntry.id)
    |>.append ((u8_delimited EvidenceType.ofByte EvidenceType.ofByte_toByte).comp
      EvidenceSnapshotEntry.type)
    |>.append ((text_delimited (show kMaxNameLength < UInt32.size by decide)).comp
      EvidenceSnapshotEntry.customType)
    |>.append (counter_delimited.comp EvidenceSnapshotEntry.generation)
    |>.append ((u8_delimited EvidenceResult.ofByte EvidenceResult.ofByte_toByte).comp
      EvidenceSnapshotEntry.result)
    |>.append (digest_delimited.comp EvidenceSnapshotEntry.subjectDigest)
    |>.append (identity_delimited.comp EvidenceSnapshotEntry.subjectRevision)
    |>.append (identity_delimited.comp fun entry : EvidenceSnapshotEntry => entry.producer.worker)
    |>.append (identity_delimited.comp fun entry : EvidenceSnapshotEntry => entry.producer.boot)
    |>.append (digest_delimited.comp EvidenceSnapshotEntry.integrityDigest)
  intro first second rest other same
  obtain ⟨seen, same⟩ := fields first second rest other same
  refine ⟨?_, same⟩
  simp only [Prod.mk.injEq, id_eq] at seen
  obtain ⟨⟨⟨⟨⟨⟨⟨⟨⟨id, type⟩, customType⟩, generation⟩, result⟩, digest⟩, revision⟩, worker⟩, boot⟩,
    integrity⟩ := seen
  simp only [clipped, EvidenceSnapshotEntry.mk.injEq]
  exact ⟨id, type, customType, generation, result, digest, revision, producer_eq worker boot,
    integrity⟩

theorem clipped_eq {entry : EvidenceSnapshotEntry}
    (fits : entry.customType.length ≤ kMaxNameLength) : entry.clipped = entry := by
  unfold clipped
  rw [List.take_of_length_le fits]

theorem stops_end : Stops encode [] := by
  intro entry more same
  have length := congrArg List.length same
  simp only [encode, Writer.identity, Writer.u64, List.length_append, List.length_nil,
    storeU64_length] at length
  omega

theorem textCompare_trans : Std.TransCmp textCompare :=
  Std.TransOrd.compareOfLessAndEq_of_antisymm_of_trans_of_total_of_not_le
    List.le_antisymm List.le_trans List.le_total List.not_le

abbrev Keys := UInt8 × Text × EvidenceId

def keys (entry : EvidenceSnapshotEntry) : Keys := (entry.type.toByte, entry.customType, entry.id)

def compareKeys (left right : Keys) : Ordering :=
  compareLex (compareOn Prod.fst)
    (compareLex (fun left right => textCompare left.2.1 right.2.1) (compareOn fun keys => keys.2.2))
    left right

theorem compareKeys_trans : Std.TransCmp compareKeys := by
  have texts := textCompare_trans
  have : Std.TransCmp fun left right : Keys => textCompare left.2.1 right.2.1 :=
    { eq_swap := texts.eq_swap, isLE_trans := texts.isLE_trans }
  unfold compareKeys
  infer_instance

theorem le_iff {left right : EvidenceSnapshotEntry} :
    left.le right ↔ (compareKeys left.keys right.keys).isLE = true := by
  rw [Ordering.isLE_iff_ne_gt]
  rfl

theorem le_antisymm {left right : EvidenceSnapshotEntry} (below : left.le right)
    (above : right.le left) : left.id = right.id := by
  have lawful := compareKeys_trans
  have same := Std.OrientedCmp.isLE_antisymm (le_iff.mp below) (le_iff.mp above)
  simp only [compareKeys, compareLex, Ordering.then_eq_eq, compareOn,
    Std.LawfulEqCmp.compare_eq_iff_eq] at same
  exact same.2.2

instance : Std.Total EvidenceSnapshotEntry.le := ⟨fun left right => by
  have lawful := compareKeys_trans
  have swapped : compareKeys right.keys left.keys = (compareKeys left.keys right.keys).swap :=
    Std.OrientedCmp.eq_swap
  rw [le_iff, le_iff, swapped]
  cases compareKeys left.keys right.keys with
  | lt => exact Or.inl rfl
  | eq => exact Or.inl rfl
  | gt => exact Or.inr rfl⟩

instance : IsTrans EvidenceSnapshotEntry EvidenceSnapshotEntry.le := ⟨fun first second third => by
  have lawful := compareKeys_trans
  rw [le_iff, le_iff, le_iff]
  exact Std.TransCmp.isLE_trans⟩

end EvidenceSnapshotEntry

theorem snapshotPreimage_clipped {subject otherSubject : ArtifactId}
    {revision otherRevision : ArtifactRevision} {digest otherDigest : Digest}
    {entries others : List EvidenceSnapshotEntry}
    (same : snapshotPreimage subject revision digest entries =
      snapshotPreimage otherSubject otherRevision otherDigest others) :
    subject = otherSubject ∧ revision = otherRevision ∧ digest = otherDigest ∧
      (entries.insertionSort EvidenceSnapshotEntry.le).map EvidenceSnapshotEntry.clipped =
        (others.insertionSort EvidenceSnapshotEntry.le).map EvidenceSnapshotEntry.clipped := by
  simp only [snapshotPreimage, Writer.list, List.append_assoc] at same
  obtain ⟨subjects, same⟩ := identity_delimited _ _ _ _ same
  obtain ⟨revisions, same⟩ := identity_delimited _ _ _ _ same
  obtain ⟨digests, same⟩ := digest_delimited _ _ _ _ same
  obtain ⟨_, same⟩ := u32_delimited _ _ _ _ same
  -- The entries are the last thing written, so they end with the input whatever the count says.
  have same : (entries.insertionSort EvidenceSnapshotEntry.le).flatMap EvidenceSnapshotEntry.encode ++
      [] = (others.insertionSort EvidenceSnapshotEntry.le).flatMap EvidenceSnapshotEntry.encode ++
      [] := by
    rw [List.append_nil, List.append_nil]
    exact same
  obtain ⟨sorted, _⟩ := EvidenceSnapshotEntry.encode_delimited.flatMap
    EvidenceSnapshotEntry.stops_end EvidenceSnapshotEntry.stops_end same
  exact ⟨subjects, revisions, digests, sorted⟩

theorem sorted_clipped {entries : List EvidenceSnapshotEntry}
    (fits : ∀ entry ∈ entries, entry.customType.length ≤ kMaxNameLength) :
    (entries.insertionSort EvidenceSnapshotEntry.le).map EvidenceSnapshotEntry.clipped =
      entries.insertionSort EvidenceSnapshotEntry.le := by
  calc (entries.insertionSort EvidenceSnapshotEntry.le).map EvidenceSnapshotEntry.clipped
      = (entries.insertionSort EvidenceSnapshotEntry.le).map id := by
        apply List.map_congr_left
        intro entry inside
        exact EvidenceSnapshotEntry.clipped_eq (fits entry ((List.mem_insertionSort _).mp inside))
    _ = entries.insertionSort EvidenceSnapshotEntry.le := List.map_id _

theorem snapshotPreimage_alike {subject otherSubject : ArtifactId}
    {revision otherRevision : ArtifactRevision} {digest otherDigest : Digest}
    {entries others : List EvidenceSnapshotEntry}
    (admitted : ∀ entry ∈ entries, entry.customType.length ≤ kMaxNameLength)
    (otherAdmitted : ∀ entry ∈ others, entry.customType.length ≤ kMaxNameLength)
    (same : snapshotPreimage subject revision digest entries =
      snapshotPreimage otherSubject otherRevision otherDigest others) :
    subject = otherSubject ∧ revision = otherRevision ∧ digest = otherDigest ∧
      entries.Perm others := by
  obtain ⟨subjects, revisions, digests, sorted⟩ := snapshotPreimage_clipped same
  rw [sorted_clipped admitted, sorted_clipped otherAdmitted] at sorted
  refine ⟨subjects, revisions, digests, ?_⟩
  have permuted := (List.perm_insertionSort EvidenceSnapshotEntry.le entries).symm
  rw [sorted] at permuted
  exact permuted.trans (List.perm_insertionSort EvidenceSnapshotEntry.le others)

theorem snapshotPreimage_ids {subject otherSubject : ArtifactId}
    {revision otherRevision : ArtifactRevision} {digest otherDigest : Digest}
    {entries others : List EvidenceSnapshotEntry}
    (same : snapshotPreimage subject revision digest entries =
      snapshotPreimage otherSubject otherRevision otherDigest others) (id : EvidenceId) :
    id ∈ entries.map EvidenceSnapshotEntry.id ↔ id ∈ others.map EvidenceSnapshotEntry.id := by
  obtain ⟨_, _, _, sorted⟩ := snapshotPreimage_clipped same
  have ids := congrArg (List.map EvidenceSnapshotEntry.id) sorted
  rw [List.map_map, List.map_map] at ids
  have ids : (entries.insertionSort EvidenceSnapshotEntry.le).map EvidenceSnapshotEntry.id =
      (others.insertionSort EvidenceSnapshotEntry.le).map EvidenceSnapshotEntry.id := ids
  have left := ((List.perm_insertionSort EvidenceSnapshotEntry.le entries).map
    EvidenceSnapshotEntry.id).mem_iff (a := id)
  have right := ((List.perm_insertionSort EvidenceSnapshotEntry.le others).map
    EvidenceSnapshotEntry.id).mem_iff (a := id)
  rw [← left, ids, right]

theorem sorted_entries_alike {entries others : List EvidenceSnapshotEntry}
    (distinct : (entries.map EvidenceSnapshotEntry.id).Nodup) (permuted : entries.Perm others) :
    entries.insertionSort EvidenceSnapshotEntry.le =
      others.insertionSort EvidenceSnapshotEntry.le := by
  have sorted := List.perm_insertionSort EvidenceSnapshotEntry.le entries
  have otherSorted := List.perm_insertionSort EvidenceSnapshotEntry.le others
  apply List.Perm.eq_of_pairwise _ (List.pairwise_insertionSort _ entries)
    (List.pairwise_insertionSort _ others) (sorted.trans (permuted.trans otherSorted.symm))
  intro first second inside otherInside below above
  have firstInside := sorted.mem_iff.mp inside
  have secondInside := permuted.mem_iff.mpr (otherSorted.mem_iff.mp otherInside)
  exact List.inj_on_of_nodup_map distinct firstInside secondInside
    (EvidenceSnapshotEntry.le_antisymm below above)

theorem computeSnapshotDigest_perm (subject : ArtifactId) (revision : ArtifactRevision)
    (digest : Digest) {entries others : List EvidenceSnapshotEntry}
    (distinct : (entries.map EvidenceSnapshotEntry.id).Nodup) (permuted : entries.Perm others) :
    computeSnapshotDigest subject revision digest entries =
      computeSnapshotDigest subject revision digest others := by
  unfold computeSnapshotDigest snapshotPreimage
  rw [sorted_entries_alike distinct permuted]

/-- The bytes under the evidence digests determine what they are about, and the order in which the
entries of a snapshot are given is no part of it. -/
theorem evidence_digests_injective :
    (∀ left right : EvidenceRecord, left.Admitted → right.Admitted →
      integrityPreimage left = integrityPreimage right → left.CoveredAlike right) ∧
    (∀ (subject otherSubject : ArtifactId) (revision otherRevision : ArtifactRevision)
      (digest otherDigest : Digest) (entries others : List EvidenceSnapshotEntry),
      (∀ entry ∈ entries, entry.customType.length ≤ kMaxNameLength) →
      (∀ entry ∈ others, entry.customType.length ≤ kMaxNameLength) →
      snapshotPreimage subject revision digest entries =
        snapshotPreimage otherSubject otherRevision otherDigest others →
      subject = otherSubject ∧ revision = otherRevision ∧ digest = otherDigest ∧
        entries.Perm others) ∧
    ∀ (subject : ArtifactId) (revision : ArtifactRevision) (digest : Digest)
      (entries others : List EvidenceSnapshotEntry),
      (entries.map EvidenceSnapshotEntry.id).Nodup → entries.Perm others →
      computeSnapshotDigest subject revision digest entries =
        computeSnapshotDigest subject revision digest others := by
  refine ⟨?_, ?_, ?_⟩
  · intro left right admitted otherAdmitted same
    exact integrityPreimage_alike admitted otherAdmitted same
  · intro subject otherSubject revision otherRevision digest otherDigest entries others admitted
      otherAdmitted same
    exact snapshotPreimage_alike admitted otherAdmitted same
  · intro subject revision digest entries others distinct permuted
    exact computeSnapshotDigest_perm subject revision digest distinct permuted

theorem evidence_digests_samples :
    EvidenceRecord.CoveredAlike { id := ⟨1, 2⟩, detail := text "ok" }
      { id := ⟨1, 2⟩, detail := text "ok", superseded := true } ∧
    [{ id := ⟨1, 1⟩ }, { id := ⟨1, 2⟩ }].Perm
      [{ id := ⟨1, 2⟩ }, ({ id := ⟨1, 1⟩ } : EvidenceSnapshotEntry)] ∧
    computeSnapshotDigest ⟨0, 1⟩ ⟨0, 2⟩ .zero [{ id := ⟨1, 1⟩ }, { id := ⟨1, 2⟩ }] =
      computeSnapshotDigest ⟨0, 1⟩ ⟨0, 2⟩ .zero [{ id := ⟨1, 2⟩ }, { id := ⟨1, 1⟩ }] := by
  obtain ⟨records, snapshots, orders⟩ := evidence_digests_injective
  refine ⟨?_, ?_, ?_⟩
  · exact records _ _ ⟨by decide, by decide, by decide, by decide⟩
      ⟨by decide, by decide, by decide, by decide⟩ rfl
  · exact (snapshots ⟨0, 1⟩ ⟨0, 1⟩ ⟨0, 2⟩ ⟨0, 2⟩ .zero .zero _ _ (by decide) (by decide)
      (by decide +kernel)).2.2.2
  · exact orders ⟨0, 1⟩ ⟨0, 2⟩ .zero _ _ (by decide) (List.Perm.swap _ _ [])

end ArtifactPromotion
