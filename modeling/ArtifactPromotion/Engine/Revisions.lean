import ArtifactPromotion.Engine.Coherence
import ArtifactPromotion.Engine.Reservations

/-! What one operation can do to one revision of a chain, and what follows for authority. -/

namespace ArtifactPromotion

open Runs

def Engine.Current (engine : Engine) (id : ArtifactId) (index : Nat) : Prop :=
  index + 1 = (engine.control.chain id).length

def Engine.revisionIndex (engine : Engine) (id : ArtifactId) (revision : ArtifactRevision) : Nat :=
  (engine.control.chain id).findIdx fun record => record.revision == revision

open Engine in
/-- The ways an operation changes the revision at one position of the chain of `id`. -/
inductive Revised (engine : Engine) (id : ArtifactId) (index : Nat) :
    Op → Reply → ArtifactRecord → ArtifactRecord → Prop
  | kept {op reply record} : Revised engine id index op reply record record
  | restored {advance reply record} :
      Revised engine id index (.reload advance) reply record record.restored
  /-- A newer revision was registered. -/
  | overtaken {registration now added record} (state : CoordinatorState) (revision : ArtifactRevision)
      (named : registration.id = id) (current : engine.Current id index)
      (fresh : revision = engine.control.revisionGenerator.next) :
      Revised engine id index (.registerArtifact registration now) (.registered (.ok added)) record
        (supersedeByRegistration state revision record registration.id)
  | applied {plan now reply record} (named : plan.artifact = id)
      (first : engine.revisionIndex id plan.artifactRevision = index)
      (accepts : engine.Accepts plan now record) :
      Revised engine id index (.commit plan now) reply record
        (promotedArtifact engine.state.advanceSequence plan record)
  | quarantined {reasonClass detail authority reply record} (current : engine.Current id index)
      (unquarantined : record.quarantine.active = false)
      (open_ : record.stage ≠ .revoked ∧ record.stage ≠ .retired) :
      Revised engine id index (.quarantine id reasonClass detail authority) reply record
        (quarantinedArtifact engine.state.advanceSequence record reasonClass detail)
  | released {authority now later result record} (current : engine.Current id index)
      (held : record.quarantine.active = true) (granted : result.outcome = .promotionCommitted) :
      Revised engine id index (.releaseQuarantine id authority now later)
        (.mutated (.ok result)) record
        (releasedArtifact engine.state.advanceSequence record)
  | revoked {decision reasonClass detail authority cause now reply record} (target : PromotionDecisionId)
      (current : engine.Current id index) (unrevoked : record.revocation.active = false)
      (held : engine.state.decisions.contains target = true) :
      Revised engine id index (.revoke id decision reasonClass detail authority cause now) reply
        record (revokedArtifact engine.state.advanceSequence record target reasonClass detail cause)
  | superseded {successor reason authority now reply record} (successorRecord : ArtifactRecord)
      (current : engine.Current id index) (unsuperseded : record.supersession.active = false)
      (open_ : record.stage ≠ .revoked ∧ record.stage ≠ .retired)
      (found : engine.state.findCurrent successor = some successorRecord) :
      Revised engine id index (.supersede id successor reason authority now) reply record
        (supersededArtifact engine.state.advanceSequence record successorRecord successor reason)
  | retired {authority now reply record} (current : engine.Current id index)
      (unretired : record.stage ≠ .retired) :
      Revised engine id index (.retire id authority now) reply record
        (retiredArtifact engine.state.advanceSequence record)

def ChainsRevised (engine : Engine) (op : Op) (reply : Reply) (next : Engine) : Prop :=
  ∀ (id : ArtifactId) (index : Nat) (record : ArtifactRecord),
    (engine.control.chain id)[index]? = some record →
      ∃ revised, (next.control.chain id)[index]? = some revised ∧
        Revised engine id index op reply record revised

def ChainsGrown (engine : Engine) (op : Op) (next : Engine) : Prop :=
  ∀ (id : ArtifactId) (index : Nat) (record : ArtifactRecord),
    (engine.control.chain id)[index]? = none → (next.control.chain id)[index]? = some record →
      ∃ registration now stamped, op = .registerArtifact registration now ∧
        registration.id = id ∧ index = (engine.control.chain id).length ∧
        stamped.policy = engine.state.policy ∧
        next.control.revisionGenerator = engine.control.revisionGenerator.advance ∧
        record = Engine.registrationRecord stamped registration
          engine.control.revisionGenerator.next now

namespace Control

theorem chain_setChain (control : Control) (id other : ArtifactId) (chain : List ArtifactRecord) :
    (control.setChain id chain).chain other = if other = id then chain else control.chain other := by
  unfold Control.chain Control.setChain
  rw [Std.ExtTreeMap.getD_insert]
  by_cases same : other = id
  · subst same
    simp
  · rw [if_neg same, if_neg]
    intro equal
    exact same (Std.LawfulEqCmp.compare_eq_iff_eq.mp equal).symm

end Control

theorem getElem?_dropLast_append {chain : List ArtifactRecord} {record : ArtifactRecord}
    (nonempty : chain ≠ []) (index : Nat) :
    (chain.dropLast ++ [record])[index]? =
      if index + 1 = chain.length then some record else chain[index]? := by
  have positive := List.length_pos_of_ne_nil nonempty
  rw [List.getElem?_append, List.length_dropLast]
  by_cases before : index < chain.length - 1
  · rw [if_pos before, if_neg (by omega), List.getElem?_dropLast, if_pos before]
  · rw [if_neg before]
    by_cases last : index + 1 = chain.length
    · rw [if_pos last, show index - (chain.length - 1) = 0 by omega]
      rfl
    · rw [if_neg last, List.getElem?_eq_none (by simp; omega), List.getElem?_eq_none (by omega)]

namespace Engine

variable {engine next : Engine}

theorem chains_kept {op : Op} {reply : Reply} (same : next.control.artifacts = engine.control.artifacts) :
    ChainsRevised engine op reply next ∧ ChainsGrown engine op next := by
  have chains (id : ArtifactId) : next.control.chain id = engine.control.chain id := by
    rw [Control.chain, same, Control.chain]
  constructor
  · intro id index record held
    exact ⟨record, by rw [chains, held], .kept⟩
  · intro id index record absent held
    rw [chains, absent] at held
    simp at held

theorem chains_set {op : Op} {reply : Reply} {id : ArtifactId} (chain : List ArtifactRecord)
    (changed : next.control.artifacts = (engine.control.setChain id chain).artifacts)
    (length : chain.length = (engine.control.chain id).length)
    (revised : ∀ (index : Nat) (record : ArtifactRecord),
      (engine.control.chain id)[index]? = some record → ∃ revised, chain[index]? = some revised ∧
        Revised engine id index op reply record revised) :
    ChainsRevised engine op reply next ∧ ChainsGrown engine op next := by
  have chains (other : ArtifactId) : next.control.chain other =
      if other = id then chain else engine.control.chain other := by
    rw [Control.chain, changed]
    exact Control.chain_setChain _ _ _ _
  constructor
  · intro other index record held
    rw [chains]
    by_cases same : other = id
    · subst same
      rw [if_pos rfl]
      exact revised index record held
    · rw [if_neg same]
      exact ⟨record, held, .kept⟩
  · intro other index record absent held
    rw [chains] at held
    by_cases same : other = id
    · subst same
      rw [if_pos rfl] at held
      have inside := List.getElem?_eq_some_iff.mp held
      rw [List.getElem?_eq_none_iff] at absent
      obtain ⟨bound, _⟩ := inside
      omega
    · rw [if_neg same, absent] at held
      simp at held

theorem chains_current {op : Op} {reply : Reply} {id : ArtifactId} {artifact changedRecord : ArtifactRecord}
    (found : engine.state.findCurrent id = some artifact)
    (changed : next.control.artifacts = (engine.control.replaceCurrent id changedRecord).artifacts)
    (revised : ∀ index, engine.Current id index →
      Revised engine id index op reply artifact changedRecord) :
    ChainsRevised engine op reply next ∧ ChainsGrown engine op next := by
  have last : (engine.control.chain id).getLast? = some artifact := found
  have nonempty : engine.control.chain id ≠ [] := by
    intro empty
    simp [empty] at last
  have positive := List.length_pos_of_ne_nil nonempty
  refine chains_set _ changed (by simp; omega) ?_
  intro index record held
  rw [getElem?_dropLast_append nonempty]
  by_cases current : index + 1 = (engine.control.chain id).length
  · rw [if_pos current]
    rw [List.getLast?_eq_getElem?, show (engine.control.chain id).length - 1 = index by omega,
      held, Option.some.injEq] at last
    subst last
    exact ⟨changedRecord, rfl, revised _ current⟩
  · rw [if_neg current]
    exact ⟨record, held, .kept⟩

theorem replaceFirst_positions (changedRecord : ArtifactRecord) (chain : List ArtifactRecord)
    {revision : ArtifactRevision} {artifact : ArtifactRecord}
    (found : chain.find? (fun record => record.revision == revision) = some artifact) :
    (CoordinatorState.replaceFirst revision changedRecord chain).length = chain.length ∧
      ∀ (index : Nat) (record : ArtifactRecord), chain[index]? = some record →
        (CoordinatorState.replaceFirst revision changedRecord chain)[index]? = some record ∨
          (record = artifact ∧ chain.findIdx (fun record => record.revision == revision) = index ∧
            (CoordinatorState.replaceFirst revision changedRecord chain)[index]? =
              some changedRecord) := by
  induction chain with
  | nil => simp at found
  | cons head rest ih =>
      rw [CoordinatorState.replaceFirst]
      by_cases matches_ : head.revision = revision
      · rw [List.find?_cons_of_pos (by simpa using matches_), Option.some.injEq] at found
        rw [if_pos matches_]
        refine ⟨rfl, fun index record held => ?_⟩
        cases index with
        | zero =>
            refine .inr ⟨?_, ?_, rfl⟩
            · rw [← found]
              exact (Option.some.inj held).symm
            · simp [List.findIdx_cons, matches_]
        | succ index => exact .inl held
      · rw [List.find?_cons_of_neg (by simpa using matches_)] at found
        obtain ⟨length, positions⟩ := ih found
        rw [if_neg matches_]
        refine ⟨by rw [List.length_cons, length, List.length_cons], fun index record held => ?_⟩
        cases index with
        | zero => exact .inl held
        | succ index =>
            rcases positions index record held with kept | ⟨same, first, replaced⟩
            · exact .inl kept
            · refine .inr ⟨same, ?_, replaced⟩
              have apart : (head.revision == revision) = false := by simpa using matches_
              simp [List.findIdx_cons, apart, first]

theorem supersededChain_positions (state : CoordinatorState) (revision : ArtifactRevision)
    (id : ArtifactId) {chain : List ArtifactRecord} {index : Nat} {record : ArtifactRecord}
    (held : chain[index]? = some record) :
    (supersededChain state revision id chain)[index]? =
      some (if index + 1 = chain.length then supersedeByRegistration state revision record id
        else record) := by
  have nonempty : chain ≠ [] := by
    rintro rfl
    simp at held
  unfold supersededChain
  cases last : chain.getLast? with
  | none => simp [nonempty] at last
  | some previous =>
      rw [getElem?_dropLast_append nonempty]
      by_cases current : index + 1 = chain.length
      · rw [if_pos current, if_pos current]
        rw [List.getLast?_eq_getElem?, show chain.length - 1 = index by omega, held,
          Option.some.injEq] at last
        rw [last]
      · rw [if_neg current, if_neg current, held]

theorem chains_registered {registration : ArtifactRegistration} {now : UInt64}
    {record : ArtifactRecord} (stamped : CoordinatorState)
    (policyKept : stamped.policy = engine.state.policy)
    (made : record = registrationRecord stamped registration
      engine.control.revisionGenerator.next now)
    (allocated : next.control.revisionGenerator = engine.control.revisionGenerator.advance)
    (changed : next.control.artifacts = (engine.control.setChain registration.id
      (supersededChain engine.state.advanceSequence engine.control.revisionGenerator.next
        registration.id (engine.control.chain registration.id) ++ [record])).artifacts) :
    ChainsRevised engine (.registerArtifact registration now) (.registered (.ok record)) next ∧
      ChainsGrown engine (.registerArtifact registration now) next := by
  have chains (other : ArtifactId) : next.control.chain other = if other = registration.id then
      supersededChain engine.state.advanceSequence engine.control.revisionGenerator.next
        registration.id (engine.control.chain registration.id) ++ [record]
      else engine.control.chain other := by
    rw [Control.chain, changed]
    exact Control.chain_setChain _ _ _ _
  have length := supersededChain_length engine.state.advanceSequence
    engine.control.revisionGenerator.next registration.id (engine.control.chain registration.id)
  constructor
  · intro other index old held
    rw [chains]
    by_cases same : other = registration.id
    · subst same
      have position := supersededChain_positions engine.state.advanceSequence
        engine.control.revisionGenerator.next registration.id held
      have bound := (List.getElem?_eq_some_iff.mp held).1
      rw [if_pos rfl, List.getElem?_append_left (by omega), position]
      refine ⟨_, rfl, ?_⟩
      split
      · rename_i current
        exact .overtaken _ _ rfl current rfl
      · exact .kept
    · rw [if_neg same]
      exact ⟨old, held, .kept⟩
  · intro other index added absent held
    rw [chains] at held
    by_cases same : other = registration.id
    · subst same
      rw [List.getElem?_eq_none_iff] at absent
      rw [if_pos rfl, List.getElem?_append_right (by omega), length] at held
      have position : index = (engine.control.chain registration.id).length := by
        have bound := (List.getElem?_eq_some_iff.mp held).1
        rw [List.length_singleton] at bound
        omega
      rw [position, Nat.sub_self] at held
      refine ⟨registration, now, stamped, rfl, rfl, position, policyKept, allocated, ?_⟩
      rw [← made]
      exact (Option.some.inj held).symm
    · rw [if_neg same, absent] at held
      simp at held

theorem restored_chain {after : Control} (reloaded : Coherent.Reloaded engine.control after)
    (id : ArtifactId) :
    after.chain id = (engine.control.chain id).map ArtifactRecord.restored := by
  unfold Control.chain
  rw [reloaded.artifacts, Std.ExtTreeMap.getD_map, Std.ExtTreeMap.getD_eq_getD_getElem?]
  cases engine.control.artifacts[id]? <;> rfl

theorem effect_chains (sound : engine.Sound) {op : Op} {reply : Reply}
    (effect : Effect engine op reply next) :
    ChainsRevised engine op reply next ∧ ChainsGrown engine op next := by
  cases effect with
  | idle _ same => exact chains_kept (by rw [same])
  | published _ _ changed => exact chains_kept (by rw [changed]; rfl)
  | restarted _ changed => exact chains_kept (by rw [changed])
  | recovered changed => exact chains_kept (by rw [changed])
  | compatibilityMoved _ changed => exact chains_kept (by rw [changed])
  | registrationRefused _ _ changed =>
      refine chains_set (engine.control.chain _) (by rw [changed]; rfl) rfl ?_
      exact fun index record held => ⟨record, held, .kept⟩
  | @registered registration now record _ stamped _ _ policyKept _ _ made changed =>
      exact chains_registered stamped policyKept made (by rw [changed]) (by rw [changed]; rfl)
  | submitted _ _ _ _ changed => exact chains_kept (by rw [changed])
  | undecided _ _ _ changed => exact chains_kept (by rw [changed]; rfl)
  | decided _ _ _ _ _ _ changed => exact chains_kept (by rw [changed]; rfl)
  | issued _ _ _ _ _ _ changed => exact chains_kept (by rw [changed]; rfl)
  | closed released _ _ _ _ changed =>
      refine chains_kept ?_
      rw [changed]
      split <;> rfl
  | @committed plan now artifact result decision _ accepts _ _ _ _ changed =>
      obtain ⟨length, positions⟩ := replaceFirst_positions
        (promotedArtifact engine.state.advanceSequence plan artifact)
        (engine.control.chain plan.artifact) accepts.found
      refine chains_set _ (by rw [changed]; rfl) length ?_
      intro index record held
      rcases positions index record held with kept | ⟨rfl, first, replaced⟩
      · exact ⟨record, kept, .kept⟩
      · exact ⟨_, replaced, .applied rfl first accepts⟩
  | quarantined _ found unquarantined open_ changed =>
      exact chains_current found (by rw [changed]; rfl)
        fun _ current => .quarantined current unquarantined open_
  | releaseRefused _ _ changed => exact chains_kept (by rw [changed]; rfl)
  | released request found held granted _ _ _ _ changed =>
      exact chains_current found (by rw [changed]; rfl)
        fun _ current => .released current held granted
  | revoked _ found unrevoked _ held _ changed =>
      exact chains_current found (by rw [changed]; rfl)
        fun _ current => .revoked _ current unrevoked held
  | superseded found successorFound _ unsuperseded open_ _ changed =>
      exact chains_current found (by rw [changed]; rfl)
        fun _ current => .superseded _ current unsuperseded open_ successorFound
  | retired found unretired _ changed =>
      exact chains_current found (by rw [changed]; rfl) fun _ current => .retired current unretired
  | evidenceRevoked _ _ changed => exact chains_kept (by rw [changed])
  | reloaded decoded changed =>
      have chains := restored_chain (image_reloaded sound decoded changed)
      constructor
      · intro id index record held
        exact ⟨record.restored, by rw [chains, List.getElem?_map, held]; rfl, .restored⟩
      · intro id index record absent held
        rw [chains, List.getElem?_map, absent] at held
        simp at held

theorem step_chains (sound : engine.Sound) {op : Op} {reply : Reply}
    (moved : engine.step op = some (reply, next)) :
    ChainsRevised engine op reply next ∧ ChainsGrown engine op next :=
  effect_chains sound (step_effect moved)

theorem step_revised (sound : engine.Sound) {op : Op} {reply : Reply}
    (moved : engine.step op = some (reply, next)) {id : ArtifactId} {index : Nat}
    {old record : ArtifactRecord} (before : (engine.control.chain id)[index]? = some old)
    (held : (next.control.chain id)[index]? = some record) :
    Revised engine id index op reply old record := by
  obtain ⟨revised, after, change⟩ := (step_chains sound moved).1 id index old before
  have same : revised = record := Option.some.inj (after.symm.trans held)
  rw [same] at change
  exact change

theorem revised_revision {id : ArtifactId} {index : Nat} {op : Op} {reply : Reply}
    {record revised : ArtifactRecord} (change : Revised engine id index op reply record revised) :
    revised.revision = record.revision := by
  cases change with
  | overtaken state revision named current =>
      unfold supersedeByRegistration
      dsimp only
      split <;> rfl
  | applied named first accepts =>
      unfold promotedArtifact
      dsimp only
      split <;> rfl
  | _ => rfl

theorem find?_positions {α : Type} {test : α → Bool} {old new : List α} {value : α}
    (same : ∀ (index : Nat) (item : α), old[index]? = some item →
      ∃ changed, new[index]? = some changed ∧ test changed = test item)
    (found : old.find? test = some value) :
    old[old.findIdx test]? = some value ∧
      ∃ changed, new.find? test = some changed ∧ new[old.findIdx test]? = some changed := by
  induction old generalizing new with
  | nil => simp at found
  | cons head rest ih =>
      obtain ⟨first, firstAt, firstTest⟩ := same 0 head rfl
      cases new with
      | nil => simp at firstAt
      | cons newHead newRest =>
          have newHead_eq : newHead = first := Option.some.inj firstAt
          subst newHead_eq
          cases tested : test head with
          | true =>
              rw [List.find?_cons_of_pos tested, Option.some.injEq] at found
              subst found
              have position : (head :: rest).findIdx test = 0 := by simp [List.findIdx_cons, tested]
              rw [position]
              exact ⟨rfl, newHead, List.find?_cons_of_pos (firstTest.trans tested), rfl⟩
          | false =>
              rw [List.find?_cons_of_neg (by simp [tested])] at found
              have position : (head :: rest).findIdx test = rest.findIdx test + 1 := by
                simp [List.findIdx_cons, tested]
              obtain ⟨held, changed, newFound, newAt⟩ :=
                ih (fun index item held => same (index + 1) item held) found
              rw [position]
              refine ⟨held, changed, ?_, newAt⟩
              rw [List.find?_cons_of_neg (by simp [firstTest, tested])]
              exact newFound

theorem step_findRevision (sound : engine.Sound) {op : Op} {reply : Reply}
    (moved : engine.step op = some (reply, next)) {id : ArtifactId} {revision : ArtifactRevision}
    {record : ArtifactRecord} (found : engine.state.findRevision id revision = some record) :
    ∃ revised, next.state.findRevision id revision = some revised ∧
      (engine.state.chain id)[engine.revisionIndex id revision]? = some record ∧
      (next.state.chain id)[engine.revisionIndex id revision]? = some revised ∧
      Revised engine id (engine.revisionIndex id revision) op reply record revised := by
  have chains := (step_chains sound moved).1 id
  have same (index : Nat) (item : ArtifactRecord)
      (held : (engine.control.chain id)[index]? = some item) :
      ∃ changed, (next.control.chain id)[index]? = some changed ∧
        (changed.revision == revision) = (item.revision == revision) := by
    obtain ⟨changed, held, change⟩ := chains index item held
    exact ⟨changed, held, by rw [revised_revision change]⟩
  obtain ⟨position, changed, newFound, newAt⟩ := find?_positions same found
  obtain ⟨revised, revisedAt, change⟩ := chains _ record position
  have equal : revised = changed := Option.some.inj (revisedAt.symm.trans newAt)
  subst equal
  exact ⟨revised, newFound, position, newAt, change⟩

def AuthoritativeAt (engine : Engine) (id : ArtifactId) (index : Nat) : Prop :=
  ∃ record, (engine.state.chain id)[index]? = some record ∧ record.currentlyAuthoritative = true

def RevokedAt (engine : Engine) (id : ArtifactId) (index : Nat) : Prop :=
  ∃ record, (engine.state.chain id)[index]? = some record ∧ record.revocation.active = true

theorem revised_authority {id : ArtifactId} {index : Nat} {op : Op} {reply : Reply}
    {record revised : ArtifactRecord} (change : Revised engine id index op reply record revised)
    (gained : revised.currentlyAuthoritative = true) :
    record.currentlyAuthoritative = true ∨
      ∃ plan now, op = .commit plan now ∧ plan.artifact = id ∧
        engine.revisionIndex id plan.artifactRevision = index ∧ engine.Accepts plan now record ∧
        plan.target = .promoted ∧ record.revocation.active = false := by
  simp only [ArtifactRecord.currentlyAuthoritative, Bool.and_eq_true, beq_iff_eq,
    Bool.not_eq_true'] at gained ⊢
  obtain ⟨⟨promoted, stage⟩, unrevoked⟩ := gained
  cases change with
  | kept => exact .inl ⟨⟨promoted, stage⟩, unrevoked⟩
  | restored => exact .inl ⟨⟨promoted, stage⟩, unrevoked⟩
  | overtaken state revision named current =>
      unfold supersedeByRegistration at promoted stage unrevoked
      dsimp only at promoted stage unrevoked
      split at stage
      · simp at stage
      · rename_i held
        rw [if_neg held] at promoted unrevoked
        exact .inl ⟨⟨promoted, stage⟩, unrevoked⟩
  | @applied plan now _ _ named first accepts =>
      have target : plan.target = .promoted := by
        unfold promotedArtifact at stage
        dsimp only at stage
        split at stage
        · assumption
        · exact stage
      refine .inr ⟨plan, now, rfl, named, first, accepts, target, ?_⟩
      unfold promotedArtifact at unrevoked
      dsimp only at unrevoked
      split at unrevoked <;> exact unrevoked
  | quarantined current unquarantined open_ => simp [quarantinedArtifact] at stage
  | released current held granted => simp [releasedArtifact] at stage
  | revoked target current unrevoked => simp [revokedArtifact] at stage
  | superseded successorRecord current unsuperseded open_ => simp [supersededArtifact] at stage
  | retired current unretired => simp [retiredArtifact] at stage

theorem revised_revocation {id : ArtifactId} {index : Nat} {op : Op} {reply : Reply}
    {record revised : ArtifactRecord} (change : Revised engine id index op reply record revised)
    (revoked : record.revocation.active = true) : revised.revocation.active = true := by
  cases change with
  | overtaken state revision named current =>
      unfold supersedeByRegistration
      dsimp only
      split <;> exact revoked
  | applied named first accepts =>
      unfold promotedArtifact
      dsimp only
      split <;> exact revoked
  | revoked target current unrevoked => rfl
  | _ => exact revoked

theorem registrationRecord_authority (state : CoordinatorState)
    (registration : ArtifactRegistration) (revision : ArtifactRevision) (now : UInt64) :
    (registrationRecord state registration revision now).currentlyAuthoritative = false := rfl

theorem step_authority (sound : engine.Sound) {op : Op} {reply : Reply}
    (moved : engine.step op = some (reply, next)) {id : ArtifactId} {index : Nat}
    (gained : next.AuthoritativeAt id index) :
    engine.AuthoritativeAt id index ∨
      ∃ plan now record, op = .commit plan now ∧ plan.artifact = id ∧
        engine.revisionIndex id plan.artifactRevision = index ∧
        (engine.state.chain id)[index]? = some record ∧ engine.Accepts plan now record ∧
        plan.target = .promoted ∧ record.revocation.active = false := by
  obtain ⟨changed, held, authority⟩ := gained
  cases before : (engine.control.chain id)[index]? with
  | none =>
      obtain ⟨registration, now, stamped, _, _, _, _, _, made⟩ :=
        (step_chains sound moved).2 id index changed before held
      rw [made, registrationRecord_authority] at authority
      simp at authority
  | some record =>
      have change := step_revised sound moved before held
      rcases revised_authority change authority with kept | ⟨plan, now, applied⟩
      · exact .inl ⟨record, before, kept⟩
      · obtain ⟨op_eq, named, first, accepts, target, unrevoked⟩ := applied
        exact .inr ⟨plan, now, record, op_eq, named, first, before, accepts, target, unrevoked⟩

theorem step_revocation (sound : engine.Sound) {op : Op} {reply : Reply}
    (moved : engine.step op = some (reply, next)) {id : ArtifactId} {index : Nat}
    (revoked : engine.RevokedAt id index) : next.RevokedAt id index := by
  obtain ⟨record, held, active⟩ := revoked
  obtain ⟨revised, found, change⟩ := (step_chains sound moved).1 id index record held
  exact ⟨revised, found, revised_revocation change active⟩

def SingleAuthority (engine : Engine) : Prop :=
  ∀ (id : ArtifactId) (left right : Nat),
    engine.AuthoritativeAt id left → engine.AuthoritativeAt id right → left = right

def PromotesBeside (engine : Engine) (op : Op) : Prop :=
  ∃ plan now artifact, op = .commit plan now ∧ engine.Accepts plan now artifact ∧
    plan.target = .promoted ∧ artifact.revocation.active = false ∧
    ∃ other ∈ engine.state.chain plan.artifact, other.currentlyAuthoritative = true

theorem step_single_authority (sound : engine.Sound) {op : Op} {reply : Reply}
    (moved : engine.step op = some (reply, next)) (single : engine.SingleAuthority)
    (apart : ¬engine.PromotesBeside op) : next.SingleAuthority := by
  -- A position that already held authority beside a gained one is what the condition excludes.
  have beside {id : ArtifactId} {left right : Nat} (old : engine.AuthoritativeAt id left)
      (new : ∃ plan now record, op = .commit plan now ∧ plan.artifact = id ∧
        engine.revisionIndex id plan.artifactRevision = right ∧
        (engine.state.chain id)[right]? = some record ∧ engine.Accepts plan now record ∧
        plan.target = .promoted ∧ record.revocation.active = false) : False := by
    obtain ⟨other, held, authority⟩ := old
    obtain ⟨plan, now, record, op_eq, named, _, _, accepts, target, unrevoked⟩ := new
    subst named
    exact apart ⟨plan, now, record, op_eq, accepts, target, unrevoked, other,
      List.mem_of_getElem? held, authority⟩
  intro id left right leftAuthority rightAuthority
  rcases step_authority sound moved leftAuthority with oldLeft | newLeft
  · rcases step_authority sound moved rightAuthority with oldRight | newRight
    · exact single id left right oldLeft oldRight
    · exact (beside oldLeft newRight).elim
  · rcases step_authority sound moved rightAuthority with oldRight | newRight
    · exact (beside oldRight newLeft).elim
    · obtain ⟨plan, now, _, op_eq, _, first, _⟩ := newLeft
      obtain ⟨other, later, _, same, _, second, _⟩ := newRight
      rw [op_eq] at same
      cases same
      rw [← first, ← second]

/-- In every run none of whose commits promotes a revision beside an authoritative one, every state
reached has at most one authoritative revision for each artifact identity. -/
theorem run_single_authority {start final : Engine} {trace : List EngineStep}
    (constructed : Constructed start) (run : EngineRun start trace final)
    (condition : ∀ step ∈ trace, ¬step.before.PromotesBeside step.input) :
    final.SingleAuthority := by
  have initially : start.Sound ∧ start.SingleAuthority := by
    refine ⟨constructed.sound, ?_⟩
    obtain ⟨config, epoch, salting, naming, rfl⟩ := constructed
    rintro id left right ⟨record, held, _⟩
    rw [create_chain] at held
    simp at held
  have kept := run.guarded (fun engine => engine.Sound ∧ engine.SingleAuthority)
    (fun step => ¬step.before.PromotesBeside step.input)
    (fun _ held apart moved => ⟨sound_step held.1 moved,
      step_single_authority held.1 moved held.2 apart⟩) initially condition
  exact kept.2

def promoteChoices : List (Engine → Op) :=
  [fun _ => .publishPolicy directPolicy,
    fun _ => .registerArtifact (sampleRegistration 1) 0,
    fun engine => .evaluate (engine.sampleRequest .promoted 1) 0,
    fun engine => .commit (engine.planFor 1) 0]

def publishedEngine : Engine := (sampleEngine.publishPolicy directPolicy).elim sampleEngine Prod.snd

def registeredAnswer : Result ArtifactRecord × Engine :=
  publishedEngine.registerArtifact (sampleRegistration 1) 0

def plannedAnswer : Result EvaluationResult × Engine :=
  registeredAnswer.2.evaluate (registeredAnswer.2.sampleRequest .promoted 1) 0

def plannedEngine : Engine := plannedAnswer.2

def samplePlan : PromotionPlan := plannedEngine.planFor 1

def sampleArtifact : ArtifactRecord := (plannedEngine.state.findCurrent ⟨0, 5⟩).getD {}

def promotedAnswer : Result CommitResult × Engine :=
  (plannedEngine.touch samplePlan).applyCommit samplePlan sampleArtifact
    (evaluateGates plannedEngine.config plannedEngine.state (requestOfPlan samplePlan) 0
      (plannedEngine.state.decisions.getD samplePlan.decision {})).decision 0

theorem samplePlan_valid : samplePlan.valid = true := by decide +kernel

theorem samplePlan_accepted : plannedEngine.Accepts samplePlan 0 sampleArtifact := by
  constructor
  case admitted => rfl
  case wellFormed => exact samplePlan_valid
  case stored => rfl
  case policyCurrent =>
    have policy : plannedEngine.state.policy.policyDigest = samplePlan.policyDigest := rfl
    have generation : plannedEngine.state.activePolicyGeneration = samplePlan.policyGeneration := rfl
    have graph : plannedEngine.state.policy.graph.graphDigest = samplePlan.lifecycleDigest := rfl
    simp only [policyMoved, policy, generation, graph, bne_self_eq_false, Bool.or_self]
  case found => rfl
  case unexpired => rfl
  case reserved => rfl
  case sameEvidence => rfl
  case eligible => rfl
  case moves =>
    have source : sampleArtifact.stage = .candidate := rfl
    have target : samplePlan.target = .promoted := rfl
    simp [source, target]

def promoteTrace : List EngineStep :=
  [⟨sampleEngine, .publishPolicy directPolicy, .published (.ok ⟨1⟩), publishedEngine⟩,
    ⟨publishedEngine, .registerArtifact (sampleRegistration 1) 0, .registered registeredAnswer.1,
      registeredAnswer.2⟩,
    ⟨registeredAnswer.2, .evaluate (registeredAnswer.2.sampleRequest .promoted 1) 0,
      .evaluated plannedAnswer.1, plannedEngine⟩,
    ⟨plannedEngine, .commit samplePlan 0, .committed promotedAnswer.1, promotedAnswer.2⟩]

theorem planned_played :
    play step sampleEngine (promoteChoices.take 3) =
      some (promoteTrace.take 3, plannedEngine) := by
  have published : step sampleEngine (.publishPolicy directPolicy) =
      some (.published (.ok ⟨1⟩), publishedEngine) := step_of_perform rfl rfl
  have registered : step publishedEngine (.registerArtifact (sampleRegistration 1) 0) =
      some (.registered registeredAnswer.1, registeredAnswer.2) := step_of_perform rfl rfl
  have planned : step registeredAnswer.2
      (.evaluate (registeredAnswer.2.sampleRequest .promoted 1) 0) =
      some (.evaluated plannedAnswer.1, plannedEngine) := step_of_perform rfl rfl
  exact play_cons published (play_cons registered (play_cons planned rfl))

theorem promote_played :
    play step sampleEngine promoteChoices = some (promoteTrace, promotedAnswer.2) := by
  have promoted : step plannedEngine (.commit samplePlan 0) =
      some (.committed promotedAnswer.1, promotedAnswer.2) := by
    refine step_of_perform ?_ rfl
    rw [perform, commit_of_accepts samplePlan_accepted]
    rfl
  have last : play step plannedEngine [fun engine => .commit (engine.planFor 1) 0] =
      some ([⟨plannedEngine, .commit samplePlan 0, .committed promotedAnswer.1,
        promotedAnswer.2⟩], promotedAnswer.2) := play_cons promoted rfl
  have whole := @play_append _ _ _ step _ _ _ [fun engine => .commit (engine.planFor 1) 0] _
    planned_played
  rw [last] at whole
  exact whole

/-- The promoted revision is revoked, and a second one is promoted in its place. -/
def succeedChoices : List (Engine → Op) :=
  [fun engine => .revoke ⟨0, 5⟩ {} (text "audit") [] engine.state.authority {} 0,
    fun _ => .registerArtifact (sampleRegistration 2) 0,
    fun engine => .evaluate (engine.sampleRequest .promoted 2) 0,
    fun engine => .commit (engine.planFor 2) 0]

def promotesAlone (step : EngineStep) : Bool :=
  match step.input with
  | .commit plan _ =>
      (step.before.state.chain plan.artifact).all fun other => !other.currentlyAuthoritative
  | _ => true

/-- No commit finds authority on its artifact, the first of two revisions is revoked, and the second
one holds the authority. -/
def succeedsAlone (played : List EngineStep × Engine) : Bool :=
  played.1.all promotesAlone &&
    ((played.2.state.chain ⟨0, 5⟩)[0]?.any fun record => record.revocation.active) &&
    ((played.2.state.chain ⟨0, 5⟩)[1]?.any ArtifactRecord.currentlyAuthoritative)

theorem run_single_authority_promoted :
    ∃ (trace : List EngineStep) (final : Engine), EngineRun sampleEngine trace final ∧
      (∀ step ∈ trace, ¬step.before.PromotesBeside step.input) ∧
      final.RevokedAt ⟨0, 5⟩ 0 ∧ final.AuthoritativeAt ⟨0, 5⟩ 1 ∧ final.SingleAuthority := by
  have first : promoteTrace.all promotesAlone = true := by
    decide +kernel
  have evaluated : (play step promotedAnswer.2 succeedChoices).any succeedsAlone = true := by
    decide +kernel
  obtain ⟨later, final, continued, checked⟩ := run_of_checked evaluated
  simp only [succeedsAlone, Bool.and_eq_true, Option.any_eq_true] at checked
  obtain ⟨⟨second, old, oldHeld, revoked⟩, new, newHeld, authority⟩ := checked
  have run := (run_of_play promote_played).append continued
  have condition : ∀ step ∈ promoteTrace ++ later, ¬step.before.PromotesBeside step.input := by
    rintro step executed ⟨plan, now, artifact, op_eq, _, _, _, other, inside, authority⟩
    have quiet : (promoteTrace ++ later).all promotesAlone = true := by
      rw [List.all_append, first, second, Bool.and_self]
    have alone := List.all_eq_true.mp quiet step executed
    simp only [promotesAlone, op_eq, List.all_eq_true] at alone
    have none := alone other inside
    simp [authority] at none
  exact ⟨_, final, run, condition, ⟨old, oldHeld, revoked⟩, ⟨new, newHeld, authority⟩,
    run_single_authority sampleEngine_constructed run condition⟩

def overtakeChoices : List (Engine → Op) :=
  promoteChoices ++
    [fun _ => .registerArtifact (sampleRegistration 2) 0,
      fun engine => .evaluate (engine.sampleRequest .promoted 2) 0,
      fun engine => .commit (engine.planFor 2) 0]

def overtakenAnswer : Result ArtifactRecord × Engine :=
  promotedAnswer.2.registerArtifact (sampleRegistration 2) 0

def replannedAnswer : Result EvaluationResult × Engine :=
  overtakenAnswer.2.evaluate (overtakenAnswer.2.sampleRequest .promoted 2) 0

def replannedEngine : Engine := replannedAnswer.2

def secondPlan : PromotionPlan := replannedEngine.planFor 2

def secondArtifact : ArtifactRecord := (replannedEngine.state.findCurrent ⟨0, 5⟩).getD {}

def overtakingAnswer : Result CommitResult × Engine :=
  (replannedEngine.touch secondPlan).applyCommit secondPlan secondArtifact
    (evaluateGates replannedEngine.config replannedEngine.state (requestOfPlan secondPlan) 0
      (replannedEngine.state.decisions.getD secondPlan.decision {})).decision 0

theorem secondPlan_accepted : replannedEngine.Accepts secondPlan 0 secondArtifact := by
  constructor
  case admitted => rfl
  case wellFormed => decide +kernel
  case stored => rfl
  case policyCurrent =>
    have policy : replannedEngine.state.policy.policyDigest = secondPlan.policyDigest := rfl
    have generation : replannedEngine.state.activePolicyGeneration = secondPlan.policyGeneration :=
      rfl
    have graph : replannedEngine.state.policy.graph.graphDigest = secondPlan.lifecycleDigest := rfl
    simp only [policyMoved, policy, generation, graph, bne_self_eq_false, Bool.or_self]
  case found => rfl
  case unexpired => rfl
  case reserved => rfl
  case sameEvidence => rfl
  case eligible => rfl
  case moves =>
    have source : secondArtifact.stage = .candidate := rfl
    have target : secondPlan.target = .promoted := rfl
    simp [source, target]

theorem overtake_played : ∃ trace,
    play step sampleEngine overtakeChoices = some (trace, overtakingAnswer.2) := by
  have registered : step promotedAnswer.2 (.registerArtifact (sampleRegistration 2) 0) =
      some (.registered overtakenAnswer.1, overtakenAnswer.2) := step_of_perform rfl rfl
  have planned : step overtakenAnswer.2
      (.evaluate (overtakenAnswer.2.sampleRequest .promoted 2) 0) =
      some (.evaluated replannedAnswer.1, replannedEngine) := step_of_perform rfl rfl
  have promoted : step replannedEngine (.commit secondPlan 0) =
      some (.committed overtakingAnswer.1, overtakingAnswer.2) := by
    refine step_of_perform ?_ rfl
    rw [perform, commit_of_accepts secondPlan_accepted]
    rfl
  have later : ∃ trace, play step promotedAnswer.2
      [fun _ => .registerArtifact (sampleRegistration 2) 0,
        fun engine => .evaluate (engine.sampleRequest .promoted 2) 0,
        fun engine => .commit (engine.planFor 2) 0] = some (trace, overtakingAnswer.2) :=
    ⟨_, play_cons registered (play_cons planned (play_cons promoted rfl))⟩
  obtain ⟨trace, later⟩ := later
  refine ⟨promoteTrace ++ trace, ?_⟩
  rw [overtakeChoices, play_append promote_played, later, Option.map_some]

def authoritativeTwice (engine : Engine) : Bool :=
  ((engine.state.chain ⟨0, 5⟩)[0]?.any ArtifactRecord.currentlyAuthoritative) &&
    ((engine.state.chain ⟨0, 5⟩)[1]?.any ArtifactRecord.currentlyAuthoritative)

/-- Two revisions of one artifact hold authority at once. -/
theorem overtaken_authority_kept : ∃ engine, Reachable engine ∧ ¬engine.SingleAuthority := by
  have evaluated : ((play step sampleEngine overtakeChoices).any fun played =>
      authoritativeTwice played.2) = true := by
    obtain ⟨trace, played⟩ := overtake_played
    rw [played]
    change authoritativeTwice overtakingAnswer.2 = true
    decide +kernel
  obtain ⟨engine, reachable, checked⟩ :=
    Reachable.of_play authoritativeTwice sampleEngine_constructed evaluated
  simp only [authoritativeTwice, Bool.and_eq_true, Option.any_eq_true] at checked
  obtain ⟨⟨first, firstHeld, firstAuthority⟩, second, secondHeld, secondAuthority⟩ := checked
  refine ⟨engine, reachable, fun single => ?_⟩
  have same := single ⟨0, 5⟩ 0 1 ⟨first, firstHeld, firstAuthority⟩
    ⟨second, secondHeld, secondAuthority⟩
  simp at same

end Engine

end ArtifactPromotion
