import ArtifactPromotion.Persist.Snapshot
import Mathlib.Logic.Function.Basic

/-! The durable file primitives and the state file. A write is driven by the answers of the
operating system, call by call, so that a crash can come between any two of them. -/

namespace ArtifactPromotion

/-- A path as `std::filesystem` takes it apart; the directory is "." where the path has none. -/
structure FilePath where
  native : Text
  directory : Text
  filename : Text

abbrev FileName := Text × Text

abbrev Volume := FileName → Option ByteBuffer

namespace FilePath

def target (path : FilePath) : FileName := (path.directory, path.filename)

def temporary (path : FilePath) : FileName := (path.directory, path.filename ++ text ".tmp")

def temporaryText (path : FilePath) : Text :=
  let separator := if path.directory.getLast? = some 47 then [] else text "/"
  path.directory ++ separator ++ path.filename ++ text ".tmp"

theorem temporary_ne_target (path : FilePath) : path.temporary ≠ path.target := by
  intro same
  have longer := congrArg (fun file => file.2.length) same
  have suffix : (text ".tmp").length = 4 := by decide +kernel
  simp only [temporary, target, List.length_append, suffix] at longer
  omega

end FilePath

structure ReadAnswers where
  sized : Bool := true
  opened : Bool := true
  delivered : Nat
  sound : Bool := true

def readFile (volume : Volume) (path : FilePath) (answers : ReadAnswers) : Result ByteBuffer :=
  match volume path.target with
  | none =>
      .error (.of .persistenceIoError
        (text "cannot determine the size of the state file") path.native)
  | some content =>
      if !answers.sized then
        .error (.of .persistenceIoError
          (text "cannot determine the size of the state file") path.native)
      else if content.length > kMaxSnapshotBytes then
        .error (.of .payloadTooLarge
          (text "state file is larger than the supported snapshot bound") path.native)
      else if !answers.opened then
        .error (.of .persistenceIoError (text "cannot open the state file for reading") path.native)
      else if 0 < content.length ∧ answers.delivered ≠ content.length then
        .error (.of .persistenceIoError
          (text "state file was shorter than its reported size") path.native)
      else if !answers.sound then
        .error (.of .persistenceIoError (text "read error while loading the state file") path.native)
      else .ok content

inductive WritePhase where
  | opening
  /-- The stream is open and this many bytes have reached the temporary file. -/
  | writing (count : Nat)
  | verifying
  | replacing
  /-- The temporary file is about to be removed, and the failure returned. -/
  | cleaning (failure : Status)
  | finished (result : Result Unit)

inductive WriteAnswer where
  | directoryFailed
  | openFailed
  | opened
  | wrote (count : Nat)
  | flushed
  | flushFailed
  | sized (failed : Bool)
  | renamed
  | renameFailed (reason : Text)
  | removed (gone : Bool)

namespace WritePhase

/-- The step of `atomic_write_file` to its next call, given the answer to the last one; `none`
where the answer is to another call. -/
def step (path : FilePath) (data : ByteBuffer) (volume : Volume) :
    WritePhase → WriteAnswer → Option (Volume × WritePhase)
  | opening, .directoryFailed =>
      some (volume, finished (.error (.of .persistenceIoError
        (text "cannot create the state directory") path.directory)))
  | opening, .openFailed =>
      some (volume, finished (.error (.of .persistenceIoError
        (text "cannot open the temporary state file for writing") path.temporaryText)))
  | opening, .opened => some (Function.update volume path.temporary (some []), writing 0)
  | writing done, .wrote count =>
      if done + count ≤ data.length then
        some (Function.update volume path.temporary (some (data.take (done + count))),
          writing (done + count))
      else none
  | writing _, .flushed => some (volume, verifying)
  | writing _, .flushFailed =>
      some (volume, cleaning (.of .persistenceIoError
        (text "cannot flush the temporary state file") path.temporaryText))
  | verifying, .sized failed =>
      if failed || (volume path.temporary).map List.length != some data.length then
        some (volume, cleaning (.of .persistenceIoError
          (text "temporary state file did not verify after writing") path.temporaryText))
      else some (volume, replacing)
  | replacing, .renamed =>
      some (Function.update (Function.update volume path.target (volume path.temporary))
        path.temporary none, finished (.ok ()))
  | replacing, .renameFailed reason =>
      some (volume, cleaning (.of .persistenceIoError
        (text "atomic replacement of the state file failed: " ++ reason) path.native))
  | cleaning failure, .removed gone =>
      some (if gone then Function.update volume path.temporary none else volume,
        finished (.error failure))
  | _, _ => none

/-- What is on the volume while the phase lasts. -/
def Holds (path : FilePath) (data : ByteBuffer) (volume : Volume) : WritePhase → Prop
  | writing count => volume path.temporary = some (data.take count)
  | verifying => ∃ count, volume path.temporary = some (data.take count)
  | replacing => volume path.temporary = some data
  | _ => True

def replaced : WritePhase → Bool
  | finished (.ok ()) => true
  | _ => false

variable {path : FilePath} {data : ByteBuffer} {volume next : Volume} {phase later : WritePhase}
  {answer : WriteAnswer}

theorem target_update (content : Option ByteBuffer) :
    Function.update volume path.temporary content path.target = volume path.target :=
  Function.update_of_ne path.temporary_ne_target.symm ..

/-- One step keeps what the phase promises, and the file is replaced by the whole data or left. -/
theorem step_spec (holds : phase.Holds path data volume)
    (moved : phase.step path data volume answer = some (next, later)) :
    later.Holds path data next ∧
      next path.target = if later.replaced then some data else volume path.target := by
  unfold step at moved
  split at moved
  case h_3 =>
    cases moved
    exact ⟨Function.update_self .., target_update _⟩
  case h_4 done count =>
    split at moved
    · cases moved
      exact ⟨Function.update_self .., target_update _⟩
    · cases moved
  case h_5 done =>
    cases moved
    exact ⟨⟨done, holds⟩, rfl⟩
  case h_7 failed =>
    split at moved
    · cases moved
      exact ⟨trivial, rfl⟩
    · rename_i verified
      cases moved
      obtain ⟨count, written⟩ := holds
      refine ⟨?_, rfl⟩
      simp only [written, Option.map_some, Bool.or_eq_true, bne_iff_ne, ne_eq,
        Option.some.injEq, not_or, not_not, List.length_take] at verified
      show volume path.temporary = some data
      rw [written, List.take_of_length_le (by omega)]
  case h_8 =>
    cases moved
    refine ⟨trivial, ?_⟩
    rw [target_update, Function.update_self]
    exact holds
  case h_10 failure gone =>
    cases moved
    refine ⟨trivial, ?_⟩
    cases gone with
    | false => rfl
    | true => exact target_update _
  case h_11 => cases moved
  all_goals
    cases moved
    exact ⟨trivial, rfl⟩

theorem step_elsewhere (moved : phase.step path data volume answer = some (next, later))
    {file : FileName} (apart : file ≠ path.target) (other : file ≠ path.temporary) :
    next file = volume file := by
  unfold step at moved
  split at moved
  case h_3 =>
    cases moved
    exact Function.update_of_ne other ..
  case h_4 done count =>
    split at moved
    · cases moved
      exact Function.update_of_ne other ..
    · cases moved
  case h_7 failed =>
    split at moved
    all_goals
      cases moved
      rfl
  case h_8 =>
    cases moved
    rw [Function.update_of_ne other, Function.update_of_ne apart]
  case h_10 failure gone =>
    cases moved
    cases gone with
    | false => rfl
    | true => exact Function.update_of_ne other ..
  case h_11 => cases moved
  all_goals
    cases moved
    rfl

end WritePhase

namespace StatePersistence

def load (volume : Volume) (path : FilePath) (answers : ReadAnswers) : Result CoordinatorState :=
  readFile volume path answers >>= decode

theorem load_eq_ok {volume : Volume} {path : FilePath} {answers : ReadAnswers}
    {state : CoordinatorState} (loaded : load volume path answers = .ok state) :
    ∃ content, volume path.target = some content ∧ content.length ≤ kMaxSnapshotBytes ∧
      decode content = .ok state := by
  obtain ⟨content, read, decoded⟩ := (bind_eq_ok _ _ _).mp loaded
  refine ⟨content, ?_⟩
  unfold readFile at read
  split at read
  · cases read
  · rename_i held present
    split at read
    · cases read
    split at read
    · cases read
    rename_i bounded
    split at read
    · cases read
    split at read
    · cases read
    split at read
    · cases read
    cases read
    exact ⟨present, not_lt.mp bounded, decoded⟩

end StatePersistence

end ArtifactPromotion
