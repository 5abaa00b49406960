import ArtifactPromotion.Persist.Acceptance

/-! What a snapshot says twice: the identity, generation and digest of the active policy stand in
its header and in the policy body. -/

namespace ArtifactPromotion

open Decoding

structure PolicyStamp where
  id : PromotionPolicyId := {}
  generation : PolicyGeneration := {}
  digest : Digest := .zero
deriving DecidableEq

def PromotionPolicy.stamp (policy : PromotionPolicy) : PolicyStamp :=
  ⟨policy.id, policy.generation, policy.policyDigest⟩

def CoordinatorState.stamp (state : CoordinatorState) : PolicyStamp :=
  ⟨state.activePolicy, state.activePolicyGeneration, state.activePolicyDigest⟩

namespace StatePersistence

open Reader

def sectionsFrom : Nat → Reader → Option (List (Section × ByteBuffer))
  | allowed, reader =>
      if reader.finished then some []
      else
        match allowed with
        | 0 => none
        | allowed + 1 =>
            match Reader.u16 reader with
            | .error _ => none
            | .ok (raw, reader) =>
                match Section.ofKind raw, Reader.subRegion kMaxSnapshotBytes reader with
                | some part, .ok (region, reader) =>
                    (sectionsFrom allowed reader).map ((part, region.data) :: ·)
                | _, _ => none

def payloadOf (bytes : ByteBuffer) : ByteBuffer :=
  (bytes.drop kHeaderSize).take (bytes.length - kFooterSize - kHeaderSize)

def sectionsOf (bytes : ByteBuffer) : Option (List (Section × ByteBuffer)) :=
  sectionsFrom kMaxSections { data := payloadOf bytes }

def orderOf (bytes : ByteBuffer) : Option (List Section) :=
  (sectionsOf bytes).map fun parts => parts.map Prod.fst

def bodyOf (bytes : ByteBuffer) (part : Section) : Option ByteBuffer :=
  (sectionsOf bytes).bind fun parts => (parts.find? fun entry => entry.1 == part).map Prod.snd

def headerStamp (bytes : ByteBuffer) : Option PolicyStamp :=
  (bodyOf bytes .header).bind fun body =>
    match readHeader {} { data := body } with
    | .error _ => none
    | .ok (fields, _) => some fields.stamp

def policyStamp (bytes : ByteBuffer) : Option PolicyStamp :=
  (bodyOf bytes .policy).bind fun body =>
    match Codec.readPolicy { data := body } with
    | .error _ => none
    | .ok (policy, _) => some policy.stamp

/-- The section loop over these sections leads from one state to the other. -/
inductive Assembles : CoordinatorState → List (Section × ByteBuffer) → CoordinatorState → Prop
  | nil (state : CoordinatorState) : Assembles state [] state
  | cons {state after final : CoordinatorState} {part : Section} {body : ByteBuffer}
      {rest : List (Section × ByteBuffer)} (read : readBody state part { data := body } = .ok after)
      (others : Assembles after rest final) : Assembles state ((part, body) :: rest) final

theorem subRegion_eq_ok {limit : Nat} {reader region next : Reader}
    (read : subRegion limit reader = .ok (region, next)) : region = { data := region.data } := by
  obtain ⟨⟨declared, middle⟩, _, read⟩ := (bind_eq_ok _ _ _).mp read
  dsimp only at read
  split at read
  · cases read
  · obtain ⟨_, rfl, _⟩ := consume_eq_ok read
    rfl

theorem readSections_assembles {allowed : Nat} {seen : List Section} {built : CoordinatorState}
    {reader : Reader} {result : List Section × CoordinatorState}
    (read : readSections allowed seen built reader = .ok result) :
    ∃ parts, sectionsFrom allowed reader = some parts ∧
      result.1 = (parts.map Prod.fst).reverse ++ seen ∧
      (parts.map Prod.fst).Nodup ∧ (∀ part ∈ parts.map Prod.fst, part ∉ seen) ∧
      Assembles built parts result.2 := by
  induction allowed generalizing seen built reader with
  | zero =>
      rw [readSections.eq_def] at read
      rw [sectionsFrom.eq_def]
      by_cases done : reader.finished = true
      · simp only [done, if_true, Except.ok.injEq] at read ⊢
        subst read
        exact ⟨[], rfl, rfl, .nil, by simp, .nil built⟩
      · simp [done] at read
  | succ allowed ih =>
      rw [readSections.eq_def] at read
      rw [sectionsFrom.eq_def]
      by_cases done : reader.finished = true
      · simp only [done, if_true, Except.ok.injEq] at read ⊢
        subst read
        exact ⟨[], rfl, rfl, .nil, by simp, .nil built⟩
      · simp only [done] at read ⊢
        obtain ⟨⟨raw, afterKind⟩, kindRead, read⟩ := (bind_eq_ok _ _ _).mp read
        simp only [kindRead]
        dsimp only at read
        cases known : Section.ofKind raw with
        | none => simp [known] at read
        | some part =>
            simp only [known] at read ⊢
            obtain ⟨⟨region, next⟩, bodyRead, read⟩ := (bind_eq_ok _ _ _).mp read
            simp only [bodyRead]
            obtain ⟨_, unrepeated, read⟩ := (bind_eq_ok _ _ _).mp read
            obtain ⟨after, sectionRead, read⟩ := (bind_eq_ok _ _ _).mp read
            obtain ⟨parts, split, order, distinct, unseen, assembled⟩ := ih read
            have fresh : part ∉ seen := by simpa using unrepeated
            rw [subRegion_eq_ok bodyRead] at sectionRead
            refine ⟨(part, region.data) :: parts, by simp [split], by simp [order], ?_, ?_,
              .cons sectionRead assembled⟩
            · rw [List.map_cons, List.nodup_cons]
              exact ⟨fun again => unseen part again List.mem_cons_self, distinct⟩
            · rw [List.map_cons, List.forall_mem_cons]
              exact ⟨fresh, fun other inside seenToo =>
                unseen other inside (List.mem_cons_of_mem _ seenToo)⟩

theorem readHeader_eq (state : CoordinatorState) :
    readHeader state = (do
      let fields ← readHeader {}
      return { state with
        coordinator := fields.coordinator, epoch := fields.epoch,
        commitSequence := fields.commitSequence, decisionSequence := fields.decisionSequence,
        artifactGeneration := fields.artifactGeneration,
        compatibilityGeneration := fields.compatibilityGeneration,
        compatibilityProfile := fields.compatibilityProfile, activePolicy := fields.activePolicy,
        activePolicyGeneration := fields.activePolicyGeneration,
        activePolicyDigest := fields.activePolicyDigest }) := by
  simp only [readHeader, bind_assoc, pure_bind]

/-- What reading one section does to the two copies of the stamp. -/
inductive Stamps (state after : CoordinatorState) (body : ByteBuffer) : Section → Prop
  | header {fields : CoordinatorState} {rest : Reader}
      (read : readHeader {} { data := body } = .ok (fields, rest))
      (stamped : after.stamp = fields.stamp) (policy : after.policy = state.policy) :
      Stamps state after body .header
  | policy {policy : PromotionPolicy} {rest : Reader}
      (read : Codec.readPolicy { data := body } = .ok (policy, rest))
      (installed : after = state.setActivePolicy policy) : Stamps state after body .policy
  | other {part : Section} (header : part ≠ .header) (policy : part ≠ .policy)
      (stamped : after.stamp = state.stamp) (kept : after.policy = state.policy) :
      Stamps state after body part

theorem readBody_answers {state after : CoordinatorState} {part : Section} {region : Reader}
    (read : readBody state part region = .ok after) :
    ∃ rest, readSection state part region = .ok (after, rest) := by
  unfold readBody at read
  split at read
  · cases read
  · rename_i found rest answered
    split at read
    · cases read
      exact ⟨rest, answered⟩
    · cases read

theorem readBody_stamps {state after : CoordinatorState} {part : Section} {body : ByteBuffer}
    (read : readBody state part { data := body } = .ok after) : Stamps state after body part := by
  obtain ⟨rest, read⟩ := readBody_answers read
  cases part with
  | header =>
      rw [readSection, readHeader_eq] at read
      obtain ⟨fields, final, answered, finished⟩ := bind_answers.mp read
      obtain ⟨rfl, rfl⟩ := pure_answers.mp finished
      exact .header answered rfl rfl
  | policy =>
      obtain ⟨policy, final, answered, finished⟩ := bind_answers.mp read
      obtain ⟨rfl, rfl⟩ := pure_answers.mp finished
      exact .policy answered rfl
  | generators =>
      rw [readSection, readGenerators] at read
      iterate 10 obtain ⟨_, _, _, read⟩ := bind_answers.mp read
      obtain ⟨rfl, _⟩ := pure_answers.mp read
      exact .other (by decide) (by decide) rfl rfl
  | artifacts | evidence | plans | decisions | records | idempotency | history | vetoes =>
      obtain ⟨count, _, _, counted⟩ := bind_answers.mp read
      obtain ⟨map, _, _, finished⟩ := bind_answers.mp counted
      obtain ⟨rfl, _⟩ := pure_answers.mp finished
      exact .other (by decide) (by decide) rfl rfl

theorem Assembles.split {state final : CoordinatorState} {front back : List (Section × ByteBuffer)}
    (assembled : Assembles state (front ++ back) final) :
    ∃ middle, Assembles state front middle ∧ Assembles middle back final := by
  induction front generalizing state with
  | nil => exact ⟨state, .nil state, assembled⟩
  | cons entry rest ih =>
      cases assembled with
      | cons read others =>
          obtain ⟨middle, before, behind⟩ := ih others
          exact ⟨middle, .cons read before, behind⟩

theorem Assembles.policy_kept {state final : CoordinatorState}
    {parts : List (Section × ByteBuffer)} (assembled : Assembles state parts final)
    (absent : .policy ∉ parts.map Prod.fst) : final.policy = state.policy := by
  induction assembled with
  | nil => rfl
  | cons read others ih =>
      rw [List.map_cons, List.mem_cons, not_or] at absent
      rw [ih absent.2]
      cases readBody_stamps read with
      | header _ _ kept => exact kept
      | policy => exact absurd rfl absent.1
      | other _ _ _ kept => exact kept

theorem Assembles.stamp_kept {state final : CoordinatorState}
    {parts : List (Section × ByteBuffer)} (assembled : Assembles state parts final)
    (noHeader : .header ∉ parts.map Prod.fst) (noPolicy : .policy ∉ parts.map Prod.fst) :
    final.stamp = state.stamp := by
  induction assembled with
  | nil => rfl
  | cons read others ih =>
      rw [List.map_cons, List.mem_cons, not_or] at noHeader noPolicy
      rw [ih noHeader.2 noPolicy.2]
      cases readBody_stamps read with
      | header => exact absurd rfl noHeader.1
      | policy => exact absurd rfl noPolicy.1
      | other _ _ stamped _ => exact stamped

theorem readFileHeader_offset {bytes : ByteBuffer} {size : UInt64} {reader : Reader}
    (read : readFileHeader { data := bytes } = .ok (size, reader)) :
    reader = { data := bytes, offset := kHeaderSize } := by
  rw [readFileHeader] at read
  obtain ⟨_, _, magic, unversioned⟩ := bind_answers.mp read
  obtain ⟨-, -, rfl⟩ := consume_eq_ok magic
  obtain ⟨version, _, versioned, supported⟩ := bind_answers.mp unversioned
  obtain ⟨-, -, rfl⟩ := consume_eq_ok versioned
  split at supported
  · cases supported
  · obtain ⟨reserved, _, held, tested⟩ := bind_answers.mp supported
    obtain ⟨-, -, rfl⟩ := consume_eq_ok held
    obtain ⟨_, _, zero, sized⟩ := bind_answers.mp tested
    obtain ⟨-, rfl⟩ := rejectDecode_answers.mp zero
    obtain ⟨-, -, rfl⟩ := consume_eq_ok sized
    rfl

theorem decode_payload {bytes : ByteBuffer} {state : CoordinatorState}
    (decoded : decode bytes = .ok state) : decodePayload (payloadOf bytes) = .ok state := by
  unfold decode at decoded
  obtain ⟨_, _, decoded⟩ := (bind_eq_ok _ _ _).mp decoded
  obtain ⟨_, _, decoded⟩ := (bind_eq_ok _ _ _).mp decoded
  obtain ⟨_, _, decoded⟩ := (bind_eq_ok _ _ _).mp decoded
  obtain ⟨⟨size, reader⟩, headerRead, decoded⟩ := (bind_eq_ok _ _ _).mp decoded
  obtain ⟨_, _, decoded⟩ := (bind_eq_ok _ _ _).mp decoded
  obtain ⟨_, sized, decoded⟩ := (bind_eq_ok _ _ _).mp decoded
  obtain ⟨⟨payload, rest⟩, payloadRead, decoded⟩ := (bind_eq_ok _ _ _).mp decoded
  obtain ⟨_, _, decoded⟩ := (bind_eq_ok _ _ _).mp decoded
  obtain ⟨_, _, decoded⟩ := (bind_eq_ok _ _ _).mp decoded
  rw [readFileHeader_offset headerRead] at payloadRead
  obtain ⟨-, payload_eq, -⟩ := consume_eq_ok payloadRead
  rw [rejectWhen_eq_ok] at sized
  have length : size.toNat = bytes.length - kFooterSize - kHeaderSize := by
    simp only [bne_eq_false_iff_eq] at sized
    omega
  rw [payloadOf, ← length]
  rw [payload_eq] at decoded
  exact decoded

/-- An accepted file holds every section once, and the section loop has assembled a state whose
policy carries the stamp of the state. -/
theorem decode_assembles {bytes : ByteBuffer} {state : CoordinatorState}
    (decoded : decode bytes = .ok state) :
    ∃ parts final, sectionsOf bytes = some parts ∧ (parts.map Prod.fst).Perm Section.all ∧
      Assembles {} parts final ∧ final.policy.stamp = final.stamp ∧ state = observeState final := by
  have payload := decode_payload decoded
  rw [decodePayload] at payload
  obtain ⟨⟨seen, final⟩, read, rest⟩ := (bind_eq_ok _ _ _).mp payload
  obtain ⟨_, checked, observed⟩ := (bind_eq_ok _ _ _).mp rest
  cases observed
  obtain ⟨parts, split, order, distinct, _, assembled⟩ := readSections_assembles read
  simp only [checkDecoded, bind_eq_ok, rejectWhen_eq_ok, Bool.not_eq_false', List.all_eq_true,
    List.contains_iff_mem, bne_eq_false_iff_eq, exists_and_left, exists_const] at checked
  obtain ⟨complete, generation, id, digest⟩ := checked
  refine ⟨parts, final, split, ?_, assembled, ?_, rfl⟩
  · rw [List.perm_ext_iff_of_nodup distinct (by decide)]
    intro part
    have known : part ∈ Section.all := by cases part <;> decide
    have present := complete part known
    have order : seen = (parts.map Prod.fst).reverse ++ [] := order
    rw [order, List.append_nil, List.mem_reverse] at present
    exact iff_of_true present known
  · simp only [PromotionPolicy.stamp, CoordinatorState.stamp, id, generation, digest]

theorem alone {part : Section} {body : ByteBuffer} {front back : List (Section × ByteBuffer)}
    (distinct : ((front ++ (part, body) :: back).map Prod.fst).Nodup) :
    part ∉ front.map Prod.fst ∧ part ∉ back.map Prod.fst := by
  rw [List.map_append, List.map_cons, List.nodup_middle, List.nodup_cons, List.mem_append,
    not_or] at distinct
  exact distinct.1

theorem bodyOf_eq {bytes body : ByteBuffer} {part : Section}
    {front back : List (Section × ByteBuffer)}
    (split : sectionsOf bytes = some (front ++ (part, body) :: back))
    (distinct : ((front ++ (part, body) :: back).map Prod.fst).Nodup) :
    bodyOf bytes part = some body := by
  have elsewhere : front.find? (fun entry => entry.1 == part) = none := by
    rw [List.find?_eq_none]
    intro entry inside same
    exact (alone distinct).1 (beq_iff_eq.mp same ▸ List.mem_map_of_mem inside)
  rw [bodyOf, split, Option.bind_some, List.find?_append, elsewhere, Option.none_or,
    List.find?_cons_of_pos (by simp), Option.map_some]

theorem accepted_policy_first {bytes : ByteBuffer} {state : CoordinatorState} {order : List Section}
    (decoded : decode bytes = .ok state) (arranged : orderOf bytes = some order)
    (policyFirst : [.policy, .header].Sublist order) :
    ∃ stamp, headerStamp bytes = some stamp ∧ policyStamp bytes = some stamp := by
  obtain ⟨parts, final, split, complete, assembled, agreed, _⟩ := decode_assembles decoded
  have distinct : (parts.map Prod.fst).Nodup := complete.nodup_iff.mpr (by decide)
  rw [orderOf, split, Option.map_some, Option.some.injEq] at arranged
  subst arranged
  obtain ⟨front, back, divided, early, late⟩ := List.cons_sublist_iff.mp policyFirst
  obtain ⟨frontParts, backParts, rfl, rfl, rfl⟩ := List.map_eq_append_iff.mp divided
  obtain ⟨⟨_, policyBody⟩, inFront, rfl⟩ := List.mem_map.mp early
  obtain ⟨⟨_, headerBody⟩, inBack, rfl⟩ := List.mem_map.mp (List.singleton_sublist.mp late)
  obtain ⟨before, between, rfl⟩ := List.append_of_mem inFront
  obtain ⟨beside, behind, rfl⟩ := List.append_of_mem inBack
  have fromPolicy : (before ++ (.policy, policyBody) :: between) ++
      (beside ++ (.header, headerBody) :: behind) = before ++ (.policy, policyBody) ::
        (between ++ (beside ++ (.header, headerBody) :: behind)) := by
    simp only [List.append_assoc, List.cons_append]
  have fromHeader : (before ++ (.policy, policyBody) :: between) ++
      (beside ++ (.header, headerBody) :: behind) = ((before ++ (.policy, policyBody) :: between) ++
        beside) ++ (.header, headerBody) :: behind := by
    simp only [List.append_assoc]
  have policyAlone := alone (fromPolicy ▸ distinct)
  have headerAlone := alone (fromHeader ▸ distinct)
  simp only [List.map_append, List.map_cons, List.mem_append, List.mem_cons, not_or]
    at policyAlone headerAlone
  obtain ⟨middle, frontAssembled, backAssembled⟩ := assembled.split
  obtain ⟨_, _, policyAssembled⟩ := frontAssembled.split
  obtain ⟨_, besideAssembled, headerAssembled⟩ := backAssembled.split
  cases policyAssembled with
  | cons policyRead betweenAssembled =>
    cases headerAssembled with
    | cons headerRead behindAssembled =>
      cases readBody_stamps policyRead with
      | other _ apart => exact absurd rfl apart
      | @policy policy _ policyAnswer installed =>
        cases readBody_stamps headerRead with
        | other apart => exact absurd rfl apart
        | @header fields _ headerAnswer stamped kept =>
          have policyBodied := bodyOf_eq (fromPolicy ▸ split) (fromPolicy ▸ distinct)
          have headerBodied := bodyOf_eq (fromHeader ▸ split) (fromHeader ▸ distinct)
          have same : final.policy = policy := by
            rw [behindAssembled.policy_kept policyAlone.2.2.2.2, kept,
              besideAssembled.policy_kept policyAlone.2.2.1,
              betweenAssembled.policy_kept policyAlone.2.1, installed]
            rfl
          have last : final.stamp = fields.stamp := by
            rw [behindAssembled.stamp_kept headerAlone.2 policyAlone.2.2.2.2, stamped]
          refine ⟨fields.stamp, ?_, ?_⟩
          · rw [headerStamp, headerBodied, Option.bind_some, headerAnswer]
          · rw [policyStamp, policyBodied, Option.bind_some, policyAnswer, ← last, ← agreed, same]

def arrange (state : CoordinatorState) (order : List Section) : ByteBuffer :=
  sealFile (order.flatMap fun part => Writer.region part.kind (sectionBody state part))

theorem payloadOf_sealFile (payload : ByteBuffer) : payloadOf (sealFile payload) = payload := by
  have length := sealFile_length payload
  have file : sealFile payload =
      fileHeader payload.length ++ (payload ++ Writer.digest (sha256 (encodeBody payload))) := by
    rw [← List.append_assoc]
    rfl
  have size : (sealFile payload).length - kFooterSize - kHeaderSize = payload.length := by omega
  rw [payloadOf, size, file, List.drop_left' (fileHeader_length _), List.take_left' rfl]

theorem sectionsFrom_regions {state : CoordinatorState} (parts : List Section) {allowed : Nat}
    {reader : Reader} (sound : view.sound reader)
    (unread : view.unread reader =
      parts.flatMap fun part => Writer.region part.kind (sectionBody state part))
    (fits : ∀ part ∈ parts, (sectionBody state part).length ≤ kMaxSnapshotBytes)
    (enough : parts.length ≤ allowed) :
    sectionsFrom allowed reader = some (parts.map fun part => (part, sectionBody state part)) := by
  induction parts generalizing allowed reader with
  | nil =>
      rw [sectionsFrom.eq_def]
      simp [finished_of_unread sound unread]
  | cons part rest ih =>
      rw [List.forall_mem_cons] at fits
      obtain ⟨allowed, rfl⟩ : ∃ fewer, allowed = fewer + 1 :=
        Nat.exists_eq_add_one.mpr (lt_of_lt_of_le (by simp) enough)
      rw [List.flatMap_cons, Writer.region, List.append_assoc, List.append_assoc] at unread
      have started : view.unread reader ≠ [] := by
        rw [unread]
        apply List.append_ne_nil_of_left_ne_nil
        exact List.ne_nil_of_length_pos (by simp [Writer.u16])
      obtain ⟨_, kindRead, kindSound, kindUnread⟩ := u16_yields _ _ _ sound unread
      rw [← List.append_assoc] at kindUnread
      obtain ⟨_, bodyRead, nextSound, nextUnread⟩ :=
        subRegion_yields fits.1 _ _ kindSound kindUnread
      have continued := ih nextSound nextUnread fits.2 (Nat.le_of_succ_le_succ enough)
      rw [sectionsFrom.eq_def]
      simp only [unfinished_of_unread started, Bool.false_eq_true, if_false, kindRead,
        ofKind_kind, bodyRead, continued, Option.map_some, List.map_cons]

section Arranged

variable {state : CoordinatorState} {order : List Section}

theorem sectionsOf_arrange (complete : order.Perm Section.all)
    (fits : (encodePayload state).length ≤ kMaxSnapshotBytes) :
    sectionsOf (arrange state order) =
      some (order.map fun part => (part, sectionBody state part)) := by
  rw [sectionsOf, arrange, payloadOf_sealFile]
  refine sectionsFrom_regions order (Nat.zero_le _) rfl
    (fun part _ => le_trans (sectionBody_le state part) fits) ?_
  rw [complete.length_eq]
  decide

theorem orderOf_arrange (complete : order.Perm Section.all)
    (fits : (encodePayload state).length ≤ kMaxSnapshotBytes) :
    orderOf (arrange state order) = some order := by
  rw [orderOf, sectionsOf_arrange complete fits, Option.map_some, List.map_map]
  exact congrArg some (List.map_id order)

theorem bodyOf_arrange (complete : order.Perm Section.all)
    (fits : (encodePayload state).length ≤ kMaxSnapshotBytes) (part : Section) :
    bodyOf (arrange state order) part = some (sectionBody state part) := by
  have known : part ∈ order := complete.mem_iff.mpr (by cases part <;> decide)
  obtain ⟨front, back, rfl⟩ := List.append_of_mem known
  have split := sectionsOf_arrange complete fits
  rw [List.map_append, List.map_cons] at split
  refine bodyOf_eq split ?_
  have distinct := complete.nodup_iff.mpr (by decide)
  simpa [Function.comp_def] using distinct

theorem stamps_arrange (complete : order.Perm Section.all)
    (fits : (encodePayload state).length ≤ kMaxSnapshotBytes) (readable : state.policy.Readable) :
    headerStamp (arrange state order) = some state.stamp ∧
      policyStamp (arrange state order) = some state.policy.stamp := by
  constructor
  · obtain ⟨_, read, _⟩ := readHeader_yields state {} { data := sectionBody state .header } []
      (Nat.zero_le _) (List.append_nil _).symm
    rw [headerStamp, bodyOf_arrange complete fits, Option.bind_some, read]
    rfl
  · have small : (sectionBody state .policy).length < kLengthBound :=
      lt_of_le_of_lt (le_trans (sectionBody_le state .policy) fits) (by decide)
    obtain ⟨_, read, _⟩ := (Codec.readPolicy_reads state.policy).yields small readable
      { data := sectionBody state .policy } [] (Nat.zero_le _) (List.append_nil _).symm
    rw [policyStamp, bodyOf_arrange complete fits, Option.bind_some, read]
    rfl

theorem restoreSections_kept (parts : List Section) (built : CoordinatorState)
    (noHeader : .header ∉ parts) (noPolicy : .policy ∉ parts) :
    (parts.foldl (restoreSection state) built).policy = built.policy ∧
      (parts.foldl (restoreSection state) built).stamp = built.stamp := by
  induction parts generalizing built with
  | nil => exact ⟨rfl, rfl⟩
  | cons part rest ih =>
      rw [List.mem_cons, not_or] at noHeader noPolicy
      obtain ⟨policy, stamp⟩ := ih (restoreSection state built part) noHeader.2 noPolicy.2
      rw [List.foldl_cons, policy, stamp]
      cases part with
      | header => exact absurd rfl noHeader.1
      | policy => exact absurd rfl noPolicy.1
      | _ => exact ⟨rfl, rfl⟩

theorem restored_stamp (distinct : order.Nodup)
    (headerFirst : [.header, .policy].Sublist order) :
    (order.foldl (restoreSection state) {}).policy = state.policy.restored ∧
      (order.foldl (restoreSection state) {}).stamp = state.policy.restored.stamp := by
  obtain ⟨front, back, rfl, early, late⟩ := List.cons_sublist_iff.mp headerFirst
  obtain ⟨middle, behind, rfl⟩ := List.append_of_mem (List.singleton_sublist.mp late)
  have noHeader : Section.header ∉ behind := by
    intro again
    exact (List.nodup_append.mp distinct).2.2 _ early _
      (List.mem_append_right _ (List.mem_cons_of_mem _ again)) rfl
  have noPolicy : Section.policy ∉ behind :=
    (List.nodup_cons.mp (List.nodup_append.mp (List.nodup_append.mp distinct).2.1).2.1).1
  rw [List.foldl_append, List.foldl_append, List.foldl_cons]
  obtain ⟨policy, stamp⟩ := restoreSections_kept behind _ noHeader noPolicy
  exact ⟨policy, stamp⟩

theorem readSections_arranged (keyed : Keyed state)
    (readable : ∀ part, SectionReadable state part)
    (fits : (encodePayload state).length ≤ kMaxSnapshotBytes) (complete : order.Perm Section.all) :
    readSections kMaxSections [] {}
        ⟨order.flatMap fun part => Writer.region part.kind (sectionBody state part), 0⟩ =
      .ok (order.reverse ++ [], order.foldl (restoreSection state) {}) := by
  have distinct : order.Nodup := complete.nodup_iff.mpr (by decide)
  have enough : order.length ≤ kMaxSections := complete.length_eq.trans_le (by decide)
  have blank (part : Section) (_ : part ∈ order) : Blank {} part := by
    cases part with
    | header | policy | generators => trivial
    | _ => rfl
  rw [readSections_eq_ok keyed order (Nat.zero_le _) rfl
    (fun part _ => le_trans (sectionBody_le state part) fits) enough distinct
    (fun _ _ => List.not_mem_nil) blank]
  exact ⟨fun part _ => readable part, rfl⟩

theorem checkDecoded_arranged (complete : order.Perm Section.all)
    (headerFirst : [.header, .policy].Sublist order) :
    checkDecoded (order.reverse ++ []) (order.foldl (restoreSection state) {}) = .ok () := by
  obtain ⟨policy, stamp⟩ :=
    @restored_stamp state _ (complete.nodup_iff.mpr (by decide)) headerFirst
  simp only [CoordinatorState.stamp, PromotionPolicy.stamp, PolicyStamp.mk.injEq] at stamp
  have all (part : Section) : part ∈ order := complete.mem_iff.mpr (by cases part <;> decide)
  simp only [checkDecoded, bind_eq_ok, rejectWhen_eq_ok]
  simp [policy, stamp, all]

theorem decode_arrange (keyed : Keyed state) (readable : ∀ part, SectionReadable state part)
    (fits : (encodePayload state).length ≤ kMaxSnapshotBytes) (complete : order.Perm Section.all)
    (headerFirst : [.header, .policy].Sublist order) :
    ∃ result, decode (arrange state order) = .ok result := by
  have written : order.Perm sectionOrder := complete.trans (by decide)
  have size := (written.flatMap_right
    fun part => Writer.region part.kind (sectionBody state part)).length_eq
  rw [arrange, decode_sealFile_fits (size.trans_le fits)]
  refine ⟨observeState (order.foldl (restoreSection state) {}), ?_⟩
  rw [decodePayload, bind_eq_ok]
  refine ⟨_, readSections_arranged keyed readable fits complete, ?_⟩
  rw [bind_eq_ok]
  exact ⟨(), checkDecoded_arranged complete headerFirst, rfl⟩

end Arranged

def contradictory : CoordinatorState := { activePolicy := ⟨0, 1⟩ }

theorem contradictory_keyed : Keyed contradictory := by
  constructor <;> rintro ⟨key, value⟩ inside <;>
    simp [contradictory, Std.ExtTreeMap.mem_toList_iff_getElem?_eq_some] at inside

theorem contradictory_accepted : accepts contradictory = true := by decide +kernel

theorem contradictory_readable (part : Section) : SectionReadable contradictory part := by
  have accepted := contradictory_accepted
  simp only [accepts, Bool.and_eq_true, decide_eq_true_eq, List.all_eq_true] at accepted
  exact accepted.2 part (by cases part <;> decide)

theorem contradictory_fits : (encodePayload contradictory).length ≤ kMaxSnapshotBytes := by
  have accepted := contradictory_accepted
  simp only [accepts, Bool.and_eq_true, decide_eq_true_eq] at accepted
  exact accepted.1

theorem policy_first_or_last {order : List Section} (complete : order.Perm Section.all) :
    [.policy, .header].Sublist order ∨ [.header, .policy].Sublist order := by
  have header : .header ∈ order := complete.mem_iff.mpr (by decide)
  have policy : .policy ∈ order := complete.mem_iff.mpr (by decide)
  obtain ⟨front, back, rfl⟩ := List.append_of_mem header
  rcases List.mem_append.mp policy with early | late
  · exact .inl ((List.singleton_sublist.mpr early).append
      (List.singleton_sublist.mpr List.mem_cons_self))
  · have behind : .policy ∈ back := (List.mem_cons.mp late).resolve_left (by decide)
    exact .inr (((List.singleton_sublist.mpr behind).cons_cons .header).trans
      (List.sublist_append_right front _))

/-- Every accepted file holds the sections in some order, each once. In that order, all accepted
files repeat the policy's stamp correctly exactly when the Policy section comes before the Header
section. -/
theorem accepted_agree_iff (order : List Section) (complete : order.Perm Section.all) :
    (∀ bytes state, decode bytes = .ok state →
      ∃ arranged, orderOf bytes = some arranged ∧ arranged.Perm Section.all) ∧
    ((∀ bytes state, decode bytes = .ok state → orderOf bytes = some order →
        ∃ stamp, headerStamp bytes = some stamp ∧ policyStamp bytes = some stamp) ↔
      [.policy, .header].Sublist order) := by
  constructor
  · intro bytes state decoded
    obtain ⟨parts, _, split, complete, _⟩ := decode_assembles decoded
    exact ⟨parts.map Prod.fst, by rw [orderOf, split, Option.map_some], complete⟩
  constructor
  · intro agree
    rcases policy_first_or_last complete with policyFirst | headerFirst
    · exact policyFirst
    obtain ⟨state, decoded⟩ := decode_arrange contradictory_keyed contradictory_readable
      contradictory_fits complete headerFirst
    obtain ⟨stamp, header, policy⟩ :=
      agree _ _ decoded (orderOf_arrange complete contradictory_fits)
    obtain ⟨written, stored⟩ :=
      stamps_arrange complete contradictory_fits (contradictory_readable .policy)
    rw [written, Option.some.injEq] at header
    rw [stored, Option.some.injEq] at policy
    exact absurd (header.trans policy.symm) (by decide)
  · intro policyFirst bytes state decoded arranged
    exact accepted_policy_first decoded arranged policyFirst

theorem accepted_agree_iff_reversed :
    ∃ bytes state stamp, decode bytes = .ok state ∧
      orderOf bytes = some sectionOrder.reverse ∧ headerStamp bytes = some stamp ∧
      policyStamp bytes = some stamp := by
  have complete : sectionOrder.reverse.Perm Section.all := by decide
  have fits : (encodePayload {}).length ≤ kMaxSnapshotBytes := by decide +kernel
  have size : (sectionOrder.reverse.flatMap fun part =>
      Writer.region part.kind (sectionBody {} part)).length ≤ kMaxSnapshotBytes := by
    decide +kernel
  have evaluated : (decodePayload (sectionOrder.reverse.flatMap fun part =>
      Writer.region part.kind (sectionBody {} part))).toBool = true := by
    decide +kernel
  obtain ⟨state, decoded⟩ : ∃ state, decode (arrange {} sectionOrder.reverse) = .ok state := by
    rw [arrange, decode_sealFile_fits size]
    cases answer : decodePayload _ with
    | error status => simp [answer, Except.toBool] at evaluated
    | ok state => exact ⟨state, rfl⟩
  have arranged := orderOf_arrange complete fits
  obtain ⟨stamp, header, policy⟩ :=
    (accepted_agree_iff _ complete).2.mpr (by decide) _ _ decoded arranged
  exact ⟨_, state, stamp, decoded, arranged, header, policy⟩

/-- A file in the order in which `encode` writes it is accepted although its header names another
policy than the one it holds. -/
theorem contradiction_accepted :
    ∃ state header policy, decode (encode contradictory) = .ok state ∧
      headerStamp (encode contradictory) = some header ∧
      policyStamp (encode contradictory) = some policy ∧ header.id ≠ policy.id := by
  have complete : sectionOrder.Perm Section.all := by decide
  obtain ⟨state, decoded⟩ := decode_arrange contradictory_keyed contradictory_readable
    contradictory_fits complete (by decide)
  obtain ⟨written, stored⟩ :=
    stamps_arrange complete contradictory_fits (contradictory_readable .policy)
  exact ⟨state, _, _, decoded, written, stored, by decide⟩

end StatePersistence

end ArtifactPromotion
