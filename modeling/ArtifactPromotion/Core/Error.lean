import ArtifactPromotion.Core.Bytes

/-! Typed failures: error codes, bounded static strings, reasons and statuses. -/

namespace ArtifactPromotion

inductive ErrorCode where
  | ok
  | invalidArgument
  | invalidIdentity
  | invalidDigest
  | invalidName
  | invalidCount
  | invalidEnum
  | invalidStage
  | invalidTransition
  | unsupported
  | payloadTooLarge
  | numericOverflow
  | artifactNotFound
  | evidenceNotFound
  | policyNotFound
  | planNotFound
  | decisionNotFound
  | requestNotFound
  | reservationNotFound
  | alreadyExists
  | conflict
  | duplicateRequest
  | evidenceMissing
  | evidenceMismatch
  | evidenceStale
  | evidenceRevoked
  | evidenceSuperseded
  | evidenceMalformed
  | evidenceIntegrityFailure
  | environmentMismatch
  | orderingViolation
  | artifactMismatch
  | digestMismatch
  | artifactGenerationStale
  | artifactQuarantined
  | artifactRevoked
  | artifactSuperseded
  | artifactRetired
  | policyStale
  | policyViolation
  | policyGenerationStale
  | transitionIllegal
  | compatibilityFailed
  | provenanceMissing
  | provenanceMismatch
  | securityVeto
  | dependencyVeto
  | approvalRequired
  | staleCoordinatorEpoch
  | staleWorkerBoot
  | staleEvidenceGeneration
  | authorityStale
  | planExpired
  | planConsumed
  | notAuthorized
  | reservationHeld
  | reservationLost
  | commitUncertain
  | cancelled
  | shuttingDown
  | admissionRejected
  | persistenceCorrupt
  | persistenceIoError
  | persistenceFormatError
  | persistenceVersionUnsupported
  | transportError
  | protocolError
  | protocolTruncated
  | protocolOversized
  | protocolMalformed
  | connectionClosed
  | internalError
  | invariantViolation
deriving DecidableEq

def kCodeNames : List String := [
  "Ok", "InvalidArgument", "InvalidIdentity", "InvalidDigest", "InvalidName", "InvalidCount",
  "InvalidEnum", "InvalidStage", "InvalidTransition", "Unsupported", "PayloadTooLarge",
  "NumericOverflow", "ArtifactNotFound", "EvidenceNotFound", "PolicyNotFound", "PlanNotFound",
  "DecisionNotFound", "RequestNotFound", "ReservationNotFound", "AlreadyExists", "Conflict",
  "DuplicateRequest", "EvidenceMissing", "EvidenceMismatch", "EvidenceStale", "EvidenceRevoked",
  "EvidenceSuperseded", "EvidenceMalformed", "EvidenceIntegrityFailure", "EnvironmentMismatch",
  "OrderingViolation", "ArtifactMismatch", "DigestMismatch", "ArtifactGenerationStale",
  "ArtifactQuarantined", "ArtifactRevoked", "ArtifactSuperseded", "ArtifactRetired",
  "PolicyStale", "PolicyViolation", "PolicyGenerationStale", "TransitionIllegal",
  "CompatibilityFailed", "ProvenanceMissing", "ProvenanceMismatch", "SecurityVeto",
  "DependencyVeto", "ApprovalRequired", "StaleCoordinatorEpoch", "StaleWorkerBoot",
  "StaleEvidenceGeneration", "AuthorityStale", "PlanExpired", "PlanConsumed", "NotAuthorized",
  "ReservationHeld", "ReservationLost", "CommitUncertain", "Cancelled", "ShuttingDown",
  "AdmissionRejected", "PersistenceCorrupt", "PersistenceIoError", "PersistenceFormatError",
  "PersistenceVersionUnsupported", "TransportError", "ProtocolError", "ProtocolTruncated",
  "ProtocolOversized", "ProtocolMalformed", "ConnectionClosed", "InternalError",
  "InvariantViolation"]

def ErrorCode.name (code : ErrorCode) : Text := text (kCodeNames.getD code.ctorIdx "Unknown")

/-- A text of at most 192 bytes; longer texts are cut when it is built. -/
structure StaticString where
  bytes : Text
  bounded : bytes.length ≤ 192
deriving DecidableEq

namespace StaticString

def kCapacity : Nat := 192

def empty : StaticString := ⟨[], by simp⟩

def ofView (view : Text) : StaticString := ⟨view.take kCapacity, List.length_take_le ..⟩

/-- The `const char*` constructor stops at the terminating zero as well. -/
def ofCString (value : Text) : StaticString := ofView (value.takeWhile (· != 0))

def view (value : StaticString) : Text := value.bytes

def isEmpty (value : StaticString) : Bool := value.bytes.isEmpty

theorem ofView_bytes (value : StaticString) : ofView value.bytes = value := by
  cases value with
  | mk bytes bounded =>
      have kept : bytes.take kCapacity = bytes := List.take_of_length_le bounded
      simp only [ofView, kept]

end StaticString

structure Reason where
  code : ErrorCode := .ok
  text : StaticString := .empty
  subject : Text := []
deriving DecidableEq

def Reason.of (code : ErrorCode) (message : Text) (subject : Text := []) : Reason :=
  ⟨code, .ofView message, subject⟩

structure Status where
  code : ErrorCode := .ok
  message : StaticString := .empty
  subject : Text := []
deriving DecidableEq

namespace Status

def of (code : ErrorCode) (message : Text) (subject : Text := []) : Status :=
  ⟨code, .ofView message, subject⟩

def render (status : Status) : Text :=
  status.code.name ++
    (if status.message.isEmpty then [] else ArtifactPromotion.text ": " ++ status.message.view) ++
    if status.subject.isEmpty then []
    else ArtifactPromotion.text " [subject=" ++ status.subject ++ ArtifactPromotion.text "]"

end Status

abbrev Result (α : Type) := Except Status α

/-- One `if (bad) return Status(code, message, subject);` of the source. -/
def rejectWhen (bad : Bool) (code : ErrorCode) (message : String) (subject : Text := []) :
    Result Unit :=
  if bad then .error (.of code (text message) subject) else .ok ()

@[simp] theorem rejectWhen_eq_ok (bad : Bool) (code : ErrorCode) (message : String)
    (subject : Text) (done : Unit) :
    rejectWhen bad code message subject = .ok done ↔ bad = false := by
  cases bad <;> simp [rejectWhen]

theorem bind_eq_ok {ε α β : Type} (first : Except ε α) (next : α → Except ε β) (value : β) :
    (first >>= next) = .ok value ↔ ∃ middle, first = .ok middle ∧ next middle = .ok value := by
  cases first with
  | error status => simp [bind, Except.bind]
  | ok middle => simp [bind, Except.bind]

def checkEach {α : Type} (check : α → Result Unit) : List α → Result Unit
  | [] => .ok ()
  | value :: rest => do
      check value
      checkEach check rest

theorem checkEach_eq_ok {α : Type} (check : α → Result Unit) (values : List α) (done : Unit) :
    checkEach check values = .ok done ↔ ∀ value ∈ values, check value = .ok () := by
  induction values with
  | nil => simp [checkEach]
  | cons value rest ih => simp [checkEach, bind_eq_ok, ih, Unique.exists_iff]

def FailsOnly {α : Type} (allowed : Status → Prop) (result : Result α) : Prop :=
  ∀ status, result = .error status → allowed status

namespace FailsOnly

variable {α β : Type} {allowed : Status → Prop}

theorem success (value : α) : FailsOnly allowed (.ok value) := by
  intro status failed
  cases failed

theorem bind {first : Result α} {next : α → Result β} (fails : FailsOnly allowed first)
    (later : ∀ value, FailsOnly allowed (next value)) : FailsOnly allowed (first >>= next) := by
  cases first with
  | error status =>
      rintro _ ⟨⟩
      exact fails status rfl
  | ok value => exact later value

theorem each {check : α → Result Unit} {values : List α}
    (fails : ∀ value ∈ values, FailsOnly allowed (check value)) :
    FailsOnly allowed (checkEach check values) := by
  induction values with
  | nil => exact success ()
  | cons first rest ih =>
      rw [List.forall_mem_cons] at fails
      exact fails.1.bind fun _ => ih fails.2

end FailsOnly

end ArtifactPromotion
