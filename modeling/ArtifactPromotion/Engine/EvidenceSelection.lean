import Mathlib.Data.List.MinMax
import ArtifactPromotion.Engine.Gates

/-! Which evidence answers a gate: the newest record of the first class that has any. -/

namespace ArtifactPromotion

open List (argmax)

/-- How a record relates to the artifact revision that a gate is evaluated for, the preferred class
first. -/
inductive EvidenceClass where
  | live
  | revoked
  | superseded
  | otherDigest
  | otherRevision
deriving DecidableEq, Repr

namespace EvidenceClass

def ranked : List EvidenceClass := [live, revoked, superseded, otherDigest, otherRevision]

def code : EvidenceClass → ErrorCode
  | live => .ok
  | revoked => .evidenceRevoked
  | superseded => .evidenceSuperseded
  | otherDigest => .evidenceMismatch
  | otherRevision => .artifactGenerationStale

variable (gate : Gate) (digest : Digest) (revision : ArtifactRevision)

def Targeted (record : EvidenceRecord) : Prop :=
  gateTargets gate.evidenceType gate.customEvidenceType record = true

def Holds (record : EvidenceRecord) : EvidenceClass → Prop
  | live => Targeted gate record ∧ record.subjectDigest = digest ∧
      record.subjectRevision = revision ∧ record.revoked = false ∧ record.superseded = false
  | revoked => Targeted gate record ∧ record.subjectDigest = digest ∧
      record.subjectRevision = revision ∧ record.revoked = true
  | superseded => Targeted gate record ∧ record.subjectDigest = digest ∧
      record.subjectRevision = revision ∧ record.revoked = false ∧ record.superseded = true
  | otherDigest => Targeted gate record ∧ record.subjectDigest ≠ digest
  | otherRevision => Targeted gate record ∧ record.subjectDigest = digest ∧
      record.subjectRevision ≠ revision

instance (record : EvidenceRecord) : DecidablePred (Holds gate digest revision record)
  | live | revoked | superseded | otherDigest | otherRevision => by
      unfold Holds Targeted
      infer_instance

def members (evidence : List EvidenceRecord) (cls : EvidenceClass) : List EvidenceRecord :=
  evidence.filter fun record => Holds gate digest revision record cls

structure Newest (records : List EvidenceRecord) (record : EvidenceRecord) : Prop where
  held : record ∈ records
  greatest : ∀ other ∈ records, other.createdSequence.value ≤ record.createdSequence.value

/-- What the specification selects: nothing if no class has a record, otherwise the newest record
of the first class that has one. -/
inductive Selects (evidence : List EvidenceRecord) : ErrorCode → Option EvidenceRecord → Prop
  | missing (empty : ∀ cls, members gate digest revision evidence cls = []) :
      Selects evidence .evidenceMissing none
  | newest {cls : EvidenceClass} {preferred rest : List EvidenceClass} {record : EvidenceRecord}
      (split : ranked = preferred ++ cls :: rest)
      (empty : ∀ other ∈ preferred, members gate digest revision evidence other = [])
      (newest : Newest (members gate digest revision evidence cls) record) :
      Selects evidence cls.code (some record)

end EvidenceClass

def EvidenceRecord.ingested (record : EvidenceRecord) : Nat := record.createdSequence.value.toNat

namespace EvidenceCandidates

variable {gate : Gate} {digest : Digest} {revision : ArtifactRevision}
  {evidence : List EvidenceRecord}

def best (found : EvidenceCandidates) : EvidenceClass → Option EvidenceRecord
  | .live => found.exact
  | .revoked => found.revoked
  | .superseded => found.superseded
  | .otherDigest => found.mismatchedDigest
  | .otherRevision => found.staleRevision

theorem ext_best {found other : EvidenceCandidates}
    (same : ∀ cls, found.best cls = other.best cls) : found = other := by
  obtain ⟨_, _, _, _, _⟩ := found
  obtain ⟨_, _, _, _, _⟩ := other
  have live := same .live
  have revoked := same .revoked
  have superseded := same .superseded
  have otherDigest := same .otherDigest
  have otherRevision := same .otherRevision
  simp only [best] at live revoked superseded otherDigest otherRevision
  simp [live, revoked, superseded, otherDigest, otherRevision]

theorem consider_best (found : EvidenceCandidates) (record : EvidenceRecord) (cls : EvidenceClass) :
    (consider gate digest revision found record).best cls =
      if EvidenceClass.Holds gate digest revision record cls then newer (found.best cls) record
      else found.best cls := by
  unfold consider
  by_cases targeted : gateTargets gate.evidenceType gate.customEvidenceType record = true
  · by_cases content : record.subjectDigest = digest
    · by_cases current : record.subjectRevision = revision
      · by_cases withdrawn : record.revoked = true
        · cases cls <;>
            simp [best, EvidenceClass.Holds, EvidenceClass.Targeted, targeted, content, current,
              withdrawn]
        · by_cases replaced : record.superseded = true
          · cases cls <;>
              simp [best, EvidenceClass.Holds, EvidenceClass.Targeted, targeted, content, current,
                withdrawn, replaced]
          · cases cls <;>
              simp [best, EvidenceClass.Holds, EvidenceClass.Targeted, targeted, content, current,
                withdrawn, replaced]
      · cases cls <;>
          simp [best, EvidenceClass.Holds, EvidenceClass.Targeted, targeted, content, current]
    · cases cls <;> simp [best, EvidenceClass.Holds, EvidenceClass.Targeted, targeted, content]
  · cases cls <;> simp [best, EvidenceClass.Holds, EvidenceClass.Targeted, targeted]

theorem foldl_best (found : EvidenceCandidates) (cls : EvidenceClass) :
    (evidence.foldl (consider gate digest revision) found).best cls =
      (EvidenceClass.members gate digest revision evidence cls).foldl newer (found.best cls) := by
  induction evidence generalizing found with
  | nil => rfl
  | cons record rest ih =>
      rw [List.foldl_cons, ih, consider_best]
      by_cases holds : EvidenceClass.Holds gate digest revision record cls
      · simp [EvidenceClass.members, holds]
      · simp [EvidenceClass.members, holds]

theorem newer_argAux (held : Option EvidenceRecord) (record : EvidenceRecord) :
    newer held record = List.argAux (fun left right : EvidenceRecord =>
      right.ingested < left.ingested) held record := by
  cases held with
  | none => rfl
  | some old =>
      simp only [newer, List.argAux, UInt64.lt_iff_toNat_lt, EvidenceRecord.ingested]
      by_cases later : old.createdSequence.value.toNat < record.createdSequence.value.toNat
      · simp [later]
      · simp [later]

theorem best_argmax (cls : EvidenceClass) :
    (evidence.foldl (consider gate digest revision) {}).best cls =
      argmax EvidenceRecord.ingested (EvidenceClass.members gate digest revision evidence cls) := by
  have blank : ({} : EvidenceCandidates).best cls = none := by
    cases cls <;> rfl
  rw [foldl_best, blank, argmax]
  congr
  funext held record
  exact newer_argAux held record

end EvidenceCandidates

namespace EvidenceClass

variable {gate : Gate} {digest : Digest} {revision : ArtifactRevision}
  {evidence arranged : List EvidenceRecord} {cls : EvidenceClass} {code : ErrorCode}
  {record : EvidenceRecord} {referenced : Option EvidenceRecord}

theorem mem_members : record ∈ members gate digest revision evidence cls ↔
    record ∈ evidence ∧ Holds gate digest revision record cls := by
  simp [members]

theorem Newest.unique (distinct : (evidence.map EvidenceRecord.createdSequence).Nodup)
    {other : EvidenceRecord} (first : Newest (members gate digest revision evidence cls) record)
    (second : Newest (members gate digest revision evidence cls) other) : record = other := by
  have value : record.createdSequence.value = other.createdSequence.value :=
    UInt64.le_antisymm (second.greatest record first.held) (first.greatest other second.held)
  have sequence : record.createdSequence = other.createdSequence := by
    cases left : record.createdSequence
    cases right : other.createdSequence
    simpa [left, right] using value
  have known := (mem_members.mp first.held).1
  have otherKnown := (mem_members.mp second.held).1
  exact List.inj_on_of_nodup_map distinct known otherKnown sequence

theorem first_unique (holds : EvidenceClass → Prop)
    {preferred rest otherPreferred otherRest : List EvidenceClass} {other : EvidenceClass}
    (split : ranked = preferred ++ cls :: rest)
    (empty : ∀ earlier ∈ preferred, ¬holds earlier) (held : holds cls)
    (otherSplit : ranked = otherPreferred ++ other :: otherRest)
    (otherEmpty : ∀ earlier ∈ otherPreferred, ¬holds earlier) (otherHeld : holds other) :
    cls = other := by
  have same := split.symm.trans otherSplit
  rcases List.append_eq_append_iff.mp same with ⟨between, rfl, eq⟩ | ⟨between, rfl, eq⟩
  · cases between with
    | nil => exact (List.cons.inj eq).1
    | cons head tail =>
        rw [List.cons_append, List.cons.injEq] at eq
        exact absurd held (otherEmpty cls (by simp [eq.1]))
  · cases between with
    | nil => exact (List.cons.inj eq).1.symm
    | cons head tail =>
        rw [List.cons_append, List.cons.injEq] at eq
        exact absurd otherHeld (empty other (by simp [eq.1]))

theorem Selects.known (selects : Selects gate digest revision evidence code (some record)) :
    record ∈ evidence := by
  cases selects with
  | newest _ _ newest => exact (mem_members.mp newest.held).1

theorem Selects.unique (distinct : (evidence.map EvidenceRecord.createdSequence).Nodup)
    {other : ErrorCode} {otherReferenced : Option EvidenceRecord}
    (selects : Selects gate digest revision evidence code referenced)
    (otherSelects : Selects gate digest revision evidence other otherReferenced) :
    code = other ∧ referenced = otherReferenced := by
  have filled {cls : EvidenceClass} {record : EvidenceRecord}
      (newest : Newest (members gate digest revision evidence cls) record) :
      ¬members gate digest revision evidence cls = [] := List.ne_nil_of_mem newest.held
  cases selects with
  | missing empty =>
      cases otherSelects with
      | missing => exact ⟨rfl, rfl⟩
      | newest _ _ newest => exact absurd (empty _) (filled newest)
  | @newest cls _ _ record split empty newest =>
      cases otherSelects with
      | missing otherEmpty => exact absurd (otherEmpty _) (filled newest)
      | @newest otherCls _ _ other otherSplit otherEmpty otherNewest =>
          have same : cls = otherCls := first_unique
            (fun cls => ¬members gate digest revision evidence cls = []) split
            (fun earlier inside => not_not.mpr (empty earlier inside)) (filled newest) otherSplit
            (fun earlier inside => not_not.mpr (otherEmpty earlier inside)) (filled otherNewest)
          subst same
          exact ⟨rfl, congrArg some (newest.unique distinct otherNewest)⟩

theorem argmax_newest {records : List EvidenceRecord}
    (found : argmax EvidenceRecord.ingested records = some record) : Newest records record := by
  refine ⟨List.argmax_mem found, fun other inside => ?_⟩
  rw [UInt64.le_iff_toNat_le]
  exact @List.le_of_mem_argmax _ _ _ EvidenceRecord.ingested _ _ _ inside found

theorem Newest.perm {records reordered : List EvidenceRecord} (newest : Newest records record)
    (permuted : reordered.Perm records) : Newest reordered record :=
  ⟨permuted.mem_iff.mpr newest.held,
    fun other inside => newest.greatest other (permuted.mem_iff.mp inside)⟩

theorem argmax_perm (distinct : (evidence.map EvidenceRecord.createdSequence).Nodup)
    (permuted : arranged.Perm evidence) :
    argmax EvidenceRecord.ingested (members gate digest revision arranged cls) =
      argmax EvidenceRecord.ingested (members gate digest revision evidence cls) := by
  have same : (members gate digest revision arranged cls).Perm
      (members gate digest revision evidence cls) := permuted.filter _
  cases first : argmax EvidenceRecord.ingested (members gate digest revision arranged cls) with
  | none =>
      rw [List.argmax_eq_none] at first
      rw [first] at same
      simp [same.nil_eq.symm]
  | some record =>
      have newest := (argmax_newest first).perm same.symm
      cases second : argmax EvidenceRecord.ingested (members gate digest revision evidence cls) with
      | none =>
          rw [List.argmax_eq_none] at second
          rw [second] at newest
          exact absurd newest.held List.not_mem_nil
      | some other => rw [newest.unique distinct (argmax_newest second)]

end EvidenceClass

variable {gate : Gate} {digest : Digest} {revision : ArtifactRevision}
  {evidence : List EvidenceRecord}

theorem selectEvidenceForGate_selects :
    EvidenceClass.Selects gate digest revision evidence
      (selectEvidenceForGate evidence gate digest revision).code
      (selectEvidenceForGate evidence gate digest revision).referenced := by
  have newest (cls : EvidenceClass) := @EvidenceCandidates.best_argmax gate digest revision
    evidence cls
  have absent {cls : EvidenceClass} {found : Option EvidenceRecord}
      (best : found = argmax EvidenceRecord.ingested
        (EvidenceClass.members gate digest revision evidence cls))
      (none : ¬found.isSome = true) :
      EvidenceClass.members gate digest revision evidence cls = [] := by
    rw [best, Option.not_isSome_iff_eq_none, List.argmax_eq_none] at none
    exact none
  have chosen {cls : EvidenceClass} {found : Option EvidenceRecord}
      {preferred rest : List EvidenceClass}
      (best : found = argmax EvidenceRecord.ingested
        (EvidenceClass.members gate digest revision evidence cls))
      (some : found.isSome = true) (split : EvidenceClass.ranked = preferred ++ cls :: rest)
      (empty : ∀ other ∈ preferred,
        EvidenceClass.members gate digest revision evidence other = []) :
      EvidenceClass.Selects gate digest revision evidence cls.code found := by
    obtain ⟨record, rfl⟩ := Option.isSome_iff_exists.mp some
    exact .newest split empty (EvidenceClass.argmax_newest best.symm)
  unfold selectEvidenceForGate
  dsimp only
  split
  · rename_i live
    exact @chosen .live _ [] _ (newest .live) live rfl (by simp)
  rename_i live
  have live := absent (newest .live) live
  split
  · rename_i revoked
    exact @chosen .revoked _ [.live] _ (newest .revoked) revoked rfl (by simp [live])
  rename_i revoked
  have revoked := absent (newest .revoked) revoked
  split
  · rename_i superseded
    exact @chosen .superseded _ [.live, .revoked] _ (newest .superseded) superseded rfl
      (by simp [live, revoked])
  rename_i superseded
  have superseded := absent (newest .superseded) superseded
  split
  · rename_i other
    exact @chosen .otherDigest _ [.live, .revoked, .superseded] _ (newest .otherDigest) other rfl
      (by simp [live, revoked, superseded])
  rename_i otherDigest
  have otherDigest := absent (newest .otherDigest) otherDigest
  split
  · rename_i other
    exact @chosen .otherRevision _ [.live, .revoked, .superseded, .otherDigest] _
      (newest .otherRevision) other rfl (by simp [live, revoked, superseded, otherDigest])
  rename_i otherRevision
  have otherRevision := absent (newest .otherRevision) otherRevision
  refine .missing fun cls => ?_
  cases cls with
  | live => exact live
  | revoked => exact revoked
  | superseded => exact superseded
  | otherDigest => exact otherDigest
  | otherRevision => exact otherRevision

theorem selectEvidenceForGate_perm {arranged : List EvidenceRecord}
    (distinct : (evidence.map EvidenceRecord.createdSequence).Nodup)
    (permuted : arranged.Perm evidence) :
    selectEvidenceForGate arranged gate digest revision =
      selectEvidenceForGate evidence gate digest revision := by
  have same : arranged.foldl (EvidenceCandidates.consider gate digest revision) {} =
      evidence.foldl (EvidenceCandidates.consider gate digest revision) {} := by
    apply EvidenceCandidates.ext_best
    intro cls
    rw [EvidenceCandidates.best_argmax, EvidenceCandidates.best_argmax]
    exact EvidenceClass.argmax_perm distinct permuted
  unfold selectEvidenceForGate
  rw [same]

theorem selection_exact (distinct : (evidence.map EvidenceRecord.createdSequence).Nodup) :
    (∀ code referenced, EvidenceClass.Selects gate digest revision evidence code referenced ↔
      (selectEvidenceForGate evidence gate digest revision).code = code ∧
        (selectEvidenceForGate evidence gate digest revision).referenced = referenced) ∧
    ∀ arranged : List EvidenceRecord, arranged.Perm evidence →
      selectEvidenceForGate arranged gate digest revision =
        selectEvidenceForGate evidence gate digest revision := by
  refine ⟨fun code referenced => ⟨fun selects => ?_, ?_⟩, fun arranged permuted => ?_⟩
  · exact selectEvidenceForGate_selects.unique distinct selects
  · rintro ⟨rfl, rfl⟩
    exact selectEvidenceForGate_selects
  · exact selectEvidenceForGate_perm distinct permuted

theorem selection_exact_live :
    let records : List EvidenceRecord :=
      [{ type := .buildPass, createdSequence := ⟨1⟩ },
        { type := .buildPass, createdSequence := ⟨3⟩ },
        { type := .buildPass, createdSequence := ⟨4⟩, revoked := true }]
    EvidenceClass.Selects { evidenceType := .buildPass } .zero {} records .ok
      (some { type := .buildPass, createdSequence := ⟨3⟩ }) := by
  intro records
  exact ((selection_exact (by decide)).1 _ _).mpr ⟨by decide +kernel, by decide +kernel⟩

end ArtifactPromotion
