import ArtifactPromotion.Core.RegionReader
import ArtifactPromotion.Library.Decoding

/-! The operations of the reader as one type, and any sequence of them on any number of readers
over one allocation. -/

namespace ArtifactPromotion

namespace Reader

def skip (size : Nat) : Decode Unit :=
  consume size "input ended while skipping a byte region" fun _ => ()

def blob (limit : Nat) : Decode ByteBuffer := do
  let declared ← u32
  let length := declared.toNat
  if length > limit then
    fail .protocolOversized
      (ArtifactPromotion.text "declared blob length exceeds the configured bound")
  else raw length

end Reader

/-- The operations of a reader other than opening a section, with the type of what they answer. -/
inductive ReaderOp : Type → Type where
  | u8 : ReaderOp UInt8
  | u16 : ReaderOp UInt16
  | u32 : ReaderOp UInt32
  | u64 : ReaderOp UInt64
  | boolean : ReaderOp Bool
  | raw (size : Nat) : ReaderOp ByteBuffer
  | skip (size : Nat) : ReaderOp Unit
  | text (limit : Nat) : ReaderOp Text
  | identity (tag : IdentityTag) : ReaderOp (Identity tag)
  | counter (tag : CounterTag) : ReaderOp (Counter tag)
  | digest : ReaderOp Digest
  | blob (limit : Nat) : ReaderOp ByteBuffer
  | count (limit : Nat) : ReaderOp Nat
  | remaining : ReaderOp Nat
  | offset : ReaderOp Nat
  | finished : ReaderOp Bool
  | requireFinished : ReaderOp Unit

namespace ReaderOp

def exec {β : Type} : ReaderOp β → Access β
  | u8 => RawReader.u8
  | u16 => RawReader.u16
  | u32 => RawReader.u32
  | u64 => RawReader.u64
  | boolean => RawReader.boolean
  | raw size => RawReader.raw size
  | skip size => RawReader.skip size
  | text limit => RawReader.text limit
  | identity _ => RawReader.identity
  | counter _ => RawReader.counter
  | digest => RawReader.digest
  | blob limit => RawReader.blob limit
  | count limit => RawReader.count limit
  | remaining => do
      let raw ← get
      return raw.remaining.toNat
  | offset => do
      let raw ← get
      return raw.offset.toNat
  | finished => RawReader.finished
  | requireFinished => RawReader.requireFinished

/-- The operation on the bytes of the region alone. -/
def model {β : Type} : ReaderOp β → Decode β
  | u8 => Reader.u8
  | u16 => Reader.u16
  | u32 => Reader.u32
  | u64 => Reader.u64
  | boolean => Reader.boolean
  | raw size => Reader.raw size
  | skip size => Reader.skip size
  | text limit => Reader.text limit
  | identity _ => Reader.identity
  | counter _ => Reader.counter
  | digest => Reader.digest
  | blob limit => Reader.blob limit
  | count limit => Reader.count limit
  | remaining => fun reader => .ok (reader.remaining, reader)
  | offset => fun reader => .ok (reader.offset, reader)
  | finished => fun reader => .ok (reader.finished, reader)
  | requireFinished => fun reader => reader.requireFinished.map fun done => (done, reader)

def width {β : Type} : ReaderOp β → β → Nat
  | u8, _ => 1
  | u16, _ => 2
  | u32, _ => 4
  | u64, _ => 8
  | boolean, _ => 1
  | raw size, _ => size
  | skip size, _ => size
  | text _, value => 4 + value.length
  | identity _, _ => 16
  | counter _, _ => 8
  | digest, _ => 32
  | blob _, value => 4 + value.length
  | count _, _ => 4
  | remaining, _ => 0
  | offset, _ => 0
  | finished, _ => 0
  | requireFinished, _ => 0

end ReaderOp

namespace RawReader

variable {α β : Type} {room : Nat}

theorem mirrors_fail (code : ErrorCode) (message : String) :
    Mirrors room (fail code message : Access α)
      (Reader.fail code (ArtifactPromotion.text message)) :=
  mirrors_throw _

theorem mirrors_u8 : Mirrors room u8 Reader.u8 :=
  mirrors_take fun cursor long => by
    cases cursor with
    | nil => cases long
    | cons first rest => rfl

theorem loadByte_take {bytes : ByteBuffer} {size index : Nat} (inside : index < size) :
    loadByte (bytes.take size) index = loadByte bytes index := by
  simp only [loadByte, List.getD_eq_getElem?_getD, List.getElem?_take, if_pos inside]

theorem loadU32_take (bytes : ByteBuffer) : loadU32 (bytes.take 4) = loadU32 bytes := by
  simp [loadU32, loadByte_take]

theorem mirrors_u16 : Mirrors room u16 Reader.u16 :=
  mirrors_take fun cursor _ => by simp [loadU16, loadByte_take]

theorem mirrors_u32 : Mirrors room u32 Reader.u32 := mirrors_take fun cursor _ => loadU32_take cursor

theorem mirrors_u64 : Mirrors room u64 Reader.u64 :=
  mirrors_take fun cursor _ => by simp [loadU64, loadByte_take]

theorem mirrors_raw (size : Nat) : Mirrors room (raw size) (Reader.raw size) :=
  mirrors_take fun _ _ => rfl

theorem mirrors_digest : Mirrors room digest Reader.digest := by
  refine mirrors_take ?_
  intro cursor long
  have short : (cursor.take 32).length = 32 := List.length_take_of_le long
  apply Digest.eq_of_bytes
  change (cursor.take 32 ++ List.replicate 32 0).take 32 = (cursor ++ List.replicate 32 0).take 32
  rw [List.take_left' short, List.take_append_of_le_length long]

theorem mirrors_declared {limit : Nat} {message : String} {next : UInt32 → Access α}
    {decode : UInt32 → Decode α} (continued : ∀ declared, Mirrors room (next declared) (decode declared)) :
    Mirrors room
      (u32 >>= fun declared =>
        if declared.toNat > limit then fail .protocolOversized message else next declared)
      (Reader.u32 >>= fun declared =>
        if declared.toNat > limit then
          Reader.fail .protocolOversized (ArtifactPromotion.text message)
        else decode declared) :=
  mirrors_bind mirrors_u32 fun declared _ _ _ =>
    mirrors_ite (mirrors_fail _ _) (continued declared)

theorem mirrors_remaining : Mirrors room ReaderOp.remaining.exec ReaderOp.remaining.model := by
  intro memory raw sound _
  refine ⟨.ok raw.remaining.toNat, raw, rfl, sound.follows, ?_⟩
  change Except.ok ((raw.toReader memory).remaining, _) = _
  rw [Reader.remaining, sound.region_length, sound.remaining]
  rfl

theorem mirrors_finished : Mirrors room finished ReaderOp.finished.model := by
  intro memory raw sound _
  refine ⟨.ok (raw.offset == raw.size), raw, rfl, sound.follows, ?_⟩
  change Except.ok ((raw.toReader memory).finished, _) = _
  rw [sound.finished]
  rfl

theorem requireFinished_model : ReaderOp.requireFinished.model =
    ReaderOp.finished.model >>= fun done =>
      if !done then
        Reader.fail .protocolMalformed (ArtifactPromotion.text "input contains trailing bytes")
      else pure () := by
  funext reader
  change (rejectWhen (!reader.finished) _ _).map _ = (ite _ _ _ : Decode Unit) reader
  cases reader.finished with
  | false => rfl
  | true => rfl

theorem mirrors_requireFinished :
    Mirrors room requireFinished ReaderOp.requireFinished.model := by
  rw [requireFinished_model]
  refine mirrors_bind mirrors_finished fun done _ _ _ => ?_
  exact mirrors_ite (mirrors_fail _ _) (mirrors_pure _)

end RawReader

open RawReader in
theorem ReaderOp.mirrors {β : Type} {room : Nat} (op : ReaderOp β) :
    Mirrors room op.exec op.model := by
  cases op with
  | u8 => exact mirrors_u8
  | u16 => exact mirrors_u16
  | u32 => exact mirrors_u32
  | u64 => exact mirrors_u64
  | boolean =>
      exact mirrors_bind mirrors_u8 fun _ _ _ _ => mirrors_ite (mirrors_fail _ _) (mirrors_pure _)
  | raw size => exact mirrors_raw size
  | skip size => exact mirrors_skip size
  | text limit => exact mirrors_declared fun _ => mirrors_take fun _ _ => rfl
  | identity tag =>
      refine mirrors_bind mirrors_u64 fun _ _ _ _ => ?_
      exact mirrors_bind mirrors_u64 fun _ _ _ _ => mirrors_pure _
  | counter tag => exact mirrors_bind mirrors_u64 fun _ _ _ _ => mirrors_pure _
  | digest => exact mirrors_digest
  | blob limit => exact mirrors_declared fun declared => mirrors_raw declared.toNat
  | count limit => exact mirrors_declared fun _ => mirrors_pure _
  | remaining => exact mirrors_remaining
  | offset => exact fun memory raw sound _ => ⟨_, raw, rfl, sound.follows, rfl⟩
  | finished => exact mirrors_finished
  | requireFinished => exact mirrors_requireFinished

namespace Reader

/-- Every answer of the decoder was decoded from as many bytes as `width` says, and the cursor has
moved past them. -/
def Advances {α : Type} (decode : Decode α) (width : α → Nat) : Prop :=
  ∀ reader value rest, decode reader = .ok (value, rest) →
    rest = { reader with offset := reader.offset + width value }

variable {α β : Type}

theorem consume_eq_ok {size : Nat} {message : String} {load : ByteBuffer → α}
    {reader next : Reader} {value : α}
    (read : consume size message load reader = .ok (value, next)) :
    reader.available size = true ∧ value = load reader.cursor ∧
      next = { reader with offset := reader.offset + size } := by
  unfold consume at read
  by_cases enough : reader.available size = true
  · rw [if_pos enough] at read
    cases read
    exact ⟨enough, rfl, rfl⟩
  · rw [if_neg enough] at read
    cases read

theorem advances_consume {size : Nat} {message : String} {load : ByteBuffer → α} {width : α → Nat}
    (loaded : ∀ cursor, size ≤ cursor.length → width (load cursor) = size) :
    Advances (consume size message load) width := by
  intro reader value rest read
  obtain ⟨enough, rfl, rfl⟩ := consume_eq_ok read
  have long : size ≤ reader.cursor.length := by
    rw [cursor, List.length_drop]
    exact of_decide_eq_true enough
  rw [loaded _ long]

theorem advances_pure (value : α) : Advances (pure value) fun _ => 0 := by
  intro reader result rest read
  obtain ⟨rfl, rfl⟩ := Decoding.pure_answers.mp read
  rfl

theorem advances_fail (code : ErrorCode) (message : Text) (width : α → Nat) :
    Advances (fail code message) width := by
  intro reader value rest read
  cases read

theorem advances_ite {condition : Prop} [Decidable condition] {first second : Decode α}
    {width : α → Nat} (holds : Advances first width) (fails : Advances second width) :
    Advances (if condition then first else second) width := by
  by_cases decided : condition
  · rwa [if_pos decided]
  · rwa [if_neg decided]

theorem advances_bind {first : Decode α} {next : α → Decode β} {head : Nat} {tail : β → Nat}
    (advances : Advances first fun _ => head) (continued : ∀ value, Advances (next value) tail) :
    Advances (first >>= next) fun result => head + tail result := by
  intro reader result rest read
  obtain ⟨value, middle, begun, ended⟩ := Decoding.bind_answers.mp read
  rw [continued value _ _ _ ended, advances _ _ _ begun, Nat.add_assoc]

theorem advances_taken {size : Nat} {message : String} :
    Advances (consume size message fun bytes => bytes.take size) List.length :=
  advances_consume fun _ long => List.length_take_of_le long

theorem advances_fixed {size : Nat} {message : String} {load : ByteBuffer → α} :
    Advances (consume size message load) fun _ => size :=
  advances_consume fun _ _ => rfl

end Reader

open Reader in
theorem ReaderOp.advances {β : Type} (op : ReaderOp β) : Reader.Advances op.model op.width := by
  cases op with
  | u8 => exact (advances_fixed : Advances Reader.u8 fun _ => 1)
  | u16 => exact advances_fixed
  | u32 => exact advances_fixed
  | u64 => exact advances_fixed
  | boolean =>
      exact advances_bind advances_fixed fun _ =>
        advances_ite (advances_fail _ _ _) (advances_pure _)
  | raw size => exact advances_fixed
  | skip size => exact (advances_fixed : Advances (Reader.skip size) fun _ => size)
  | text limit =>
      exact advances_bind advances_fixed fun _ => advances_ite (advances_fail _ _ _) advances_taken
  | identity tag =>
      exact advances_bind advances_fixed fun _ => advances_bind advances_fixed fun _ =>
        advances_pure _
  | counter tag => exact advances_bind advances_fixed fun _ => advances_pure _
  | digest => exact (advances_fixed : Advances Reader.digest fun _ => 32)
  | blob limit =>
      exact advances_bind advances_fixed fun _ => advances_ite (advances_fail _ _ _) advances_taken
  | count limit =>
      exact advances_bind advances_fixed fun _ =>
        advances_ite (advances_fail _ _ _) (advances_pure _)
  | remaining =>
      intro reader value rest read
      cases read
      rfl
  | offset =>
      intro reader value rest read
      cases read
      rfl
  | finished =>
      intro reader value rest read
      cases read
      rfl
  | requireFinished =>
      rw [RawReader.requireFinished_model]
      have stays : Advances ReaderOp.finished.model fun _ => 0 := by
        intro reader value rest read
        cases read
        rfl
      exact advances_bind stays fun _ => advances_ite (advances_fail _ _ _) (advances_pure _)

theorem ReaderOp.served {β : Type} (op : ReaderOp β) {memory : ByteBuffer} {raw : RawReader}
    (sound : raw.Sound memory) : ∃ outcome after, op.exec memory raw = some (outcome, after) ∧
      raw.Follows after ∧ ∀ value, outcome = .ok value →
        after.offset.toNat = raw.offset.toNat + op.width value := by
  obtain ⟨outcome, after, ran, follows, decoded⟩ := op.mirrors memory raw sound (Nat.zero_le _)
  refine ⟨outcome, after, ran, follows, ?_⟩
  rintro value rfl
  exact congrArg Reader.offset (op.advances _ _ _ decoded)

namespace RawReader

/-- What opening a section leads to: the section has the length declared for it, it is what
follows that length, and the outer reader has moved past all of it. -/
structure Opens (memory : ByteBuffer) (limit : Nat) (raw after sub : RawReader) : Prop where
  declared : sub.size = (loadU32 (memory.drop (raw.data + raw.offset.toNat))).toUInt64
  bounded : sub.size.toNat ≤ limit
  data : sub.data = raw.data + raw.offset.toNat + 4
  offset : sub.offset = 0
  consumed : after.offset.toNat = raw.offset.toNat + 4 + sub.size.toNat

theorem Opens.sound {memory : ByteBuffer} {limit : Nat} {raw after sub : RawReader}
    (opens : Opens memory limit raw after sub) (follows : raw.Follows after)
    (sound : raw.Sound memory) : sub.Sound memory := by
  have inside : after.offset.toNat ≤ raw.size.toNat := follows.inside
  have allocated := sound.allocated
  have consumed := opens.consumed
  constructor
  · rw [opens.data]
    omega
  · rw [opens.offset]
    exact UInt64.zero_le

theorem u32_loads {memory : ByteBuffer} {raw middle : RawReader} {declared : UInt32}
    (sound : raw.Sound memory) (read : u32 memory raw = some (.ok declared, middle)) :
    declared = loadU32 (memory.drop (raw.data + raw.offset.toNat)) ∧
      middle.offset.toNat = raw.offset.toNat + 4 := by
  by_cases enough : raw.available 4 = true
  · rw [u32, sound.take_answers enough, loadU32_take] at read
    cases read
    exact ⟨rfl, (sound.advanced enough).1⟩
  · rw [u32, take_refused enough] at read
    cases read

/-- Opening a section on memory ends inside the region, and is what it is on the region's bytes. -/
def Opening (limit : Nat) (memory : ByteBuffer) (raw : RawReader) : Prop :=
  ∃ outcome after, subRegion limit memory raw = some (outcome, after) ∧ raw.Follows after ∧
    Reader.subRegion limit (raw.toReader memory) =
      outcome.map (fun sub => (sub.toReader memory, after.toReader memory)) ∧
    ∀ sub, outcome = .ok sub → Opens memory limit raw after sub

theorem opening_refused {limit : Nat} {memory : ByteBuffer} {raw after : RawReader}
    {status : Status} (ran : subRegion limit memory raw = some (.error status, after))
    (follows : raw.Follows after)
    (decoded : Reader.subRegion limit (raw.toReader memory) = .error status) :
    Opening limit memory raw := by
  refine ⟨.error status, after, ran, follows, decoded, ?_⟩
  intro sub opened
  cases opened

theorem subRegion_served (limit : Nat) {memory : ByteBuffer} {raw : RawReader}
    (sound : raw.Sound memory) : Opening limit memory raw := by
  obtain ⟨outcome, middle, ran, follows, decoded⟩ :=
    mirrors_u32 memory raw sound (Nat.zero_le _)
  have whole : Reader.subRegion limit (raw.toReader memory) =
      Reader.u32 (raw.toReader memory) >>= fun reply =>
        (if reply.1.toNat > limit then
          Reader.fail .protocolOversized
            (ArtifactPromotion.text "declared section length exceeds the configured bound")
        else Reader.consume reply.1.toNat "input ended while reading a section"
          fun bytes => { data := bytes.take reply.1.toNat } : Decode Reader) reply.2 := rfl
  rw [decoded] at whole
  cases outcome with
  | error status => exact opening_refused (bind_error ran) follows whole
  | ok declared =>
      obtain ⟨loaded, past⟩ := u32_loads sound ran
      have middleSound := follows.sound sound
      change _ = (ite _ _ _ : Decode Reader) (middle.toReader memory) at whole
      by_cases exceeds : declared.toNat > limit
      · rw [if_pos exceeds] at whole
        refine opening_refused ?_ follows whole
        rw [subRegion, bind_ok ran, if_pos exceeds]
        rfl
      · have tested := requireAvailable_eq declared.toNat "input ended while reading a section"
          memory middle
        rw [if_neg exceeds, Reader.consume, middleSound.available] at whole
        by_cases enough : middle.available declared.toNat = true
        · rw [if_pos enough] at tested whole
          obtain ⟨after, inside⟩ := middleSound.advanced enough
          have same : middle.data + middle.offset.toNat = raw.data + raw.offset.toNat + 4 := by
            rw [follows.data, past, Nat.add_assoc]
          have size : declared.toUInt64.toNat = declared.toNat := UInt32.toNat_toUInt64 declared
          refine ⟨.ok { data := middle.data + middle.offset.toNat, size := declared.toUInt64 }, _,
            ?_, follows.trans (middleSound.advanced_follows enough), ?_, ?_⟩
          · rw [subRegion, bind_ok ran, if_neg exceeds, bind_ok tested]
            rfl
          · have held : (middle.toReader memory).cursor.take declared.toNat =
                (memory.drop (middle.data + middle.offset.toNat)).take declared.toNat :=
              Sound.region_take inside
            rw [whole]
            dsimp only
            rw [held]
            simp only [toReader, after]
            rfl
          · rintro sub ⟨⟩
            refine ⟨by rw [← loaded], ?_, same, rfl, ?_⟩
            · rw [size]
              exact Nat.not_lt.mp exceeds
            · rw [after, past, size]
        · rw [if_neg enough] at tested whole
          refine opening_refused ?_ follows whole
          rw [subRegion, bind_ok ran, if_neg exceeds]
          exact bind_error tested

end RawReader

inductive ReaderCall : Type 1 where
  | operate {β : Type} (op : ReaderOp β)
  | enter (limit : Nat)

inductive ReaderEvent : Type 1 where
  | operated {β : Type} (op : ReaderOp β) (outcome : Result β) (before after : RawReader)
  | entered (limit : Nat) (outcome : Result RawReader) (before after : RawReader)

namespace ReaderCall

open RawReader

def perform (memory : ByteBuffer) (raw : RawReader) :
    ReaderCall → Option (ReaderEvent × RawReader × List RawReader)
  | operate op => (op.exec memory raw).map fun (outcome, after) =>
      (.operated op outcome raw after, after, [])
  | enter limit => (subRegion limit memory raw).map fun (outcome, after) =>
      (.entered limit outcome raw after, after, outcome.toOption.toList)

/-- A sequence of calls, each on the reader at a place of the table. Readers that are opened join
the table at its end, and a failed call does not end the sequence. -/
def runCalls (memory : ByteBuffer) :
    List RawReader → List (Nat × ReaderCall) → Option (List ReaderEvent × List RawReader)
  | readers, [] => some ([], readers)
  | readers, (place, call) :: calls =>
      match readers[place]? with
      | none => runCalls memory readers calls
      | some raw => do
          let (event, after, opened) ← perform memory raw call
          let (events, final) ← runCalls memory (readers.set place after ++ opened) calls
          return (event :: events, final)

end ReaderCall

/-- What is promised of one call: the cursor stays in the region, a successful operation moves it
by exactly the bytes its answer was decoded from, and a section that is opened has its declared
length and ends where the outer reader goes on. -/
def ReaderEvent.Bounded (memory : ByteBuffer) : ReaderEvent → Prop
  | operated op outcome before after => before.Sound memory ∧ before.Follows after ∧
      ∀ value, outcome = .ok value → after.offset.toNat = before.offset.toNat + op.width value
  | entered limit outcome before after => before.Sound memory ∧ before.Follows after ∧
      ∀ sub, outcome = .ok sub → RawReader.Opens memory limit before after sub

namespace ReaderCall

open RawReader

theorem perform_bounded (call : ReaderCall) {memory : ByteBuffer} {raw : RawReader}
    (sound : raw.Sound memory) : ∃ event after opened,
      perform memory raw call = some (event, after, opened) ∧ event.Bounded memory ∧
      raw.Follows after ∧ ∀ sub ∈ opened, sub.Sound memory := by
  cases call with
  | operate op =>
      obtain ⟨outcome, after, ran, follows, advanced⟩ := op.served sound
      refine ⟨.operated op outcome raw after, after, [], ?_, ⟨sound, follows, advanced⟩, follows, ?_⟩
      · rw [perform, ran]
        rfl
      · simp
  | enter limit =>
      obtain ⟨outcome, after, ran, follows, -, opens⟩ := subRegion_served limit sound
      refine ⟨.entered limit outcome raw after, after, outcome.toOption.toList, ?_,
        ⟨sound, follows, opens⟩, follows, ?_⟩
      · rw [perform, ran]
        rfl
      · cases outcome with
        | error status => simp [Except.toOption]
        | ok sub =>
            intro opened member
            cases List.mem_singleton.mp member
            exact (opens sub rfl).sound follows sound

/-- After any sequence of calls every reader of the table is still in its region, and the readers
that were there have only moved forward. -/
theorem runCalls_bounded (memory : ByteBuffer) (readers : List RawReader)
    (calls : List (Nat × ReaderCall)) (sound : ∀ raw ∈ readers, raw.Sound memory) :
    ∃ events final, runCalls memory readers calls = some (events, final) ∧
      (∀ event ∈ events, event.Bounded memory) ∧ (∀ raw ∈ final, raw.Sound memory) ∧
      ∀ (place : Nat) (raw : RawReader), readers[place]? = some raw →
        ∃ after, final[place]? = some after ∧ raw.Follows after := by
  induction calls generalizing readers with
  | nil =>
      refine ⟨[], readers, rfl, by simp, sound, ?_⟩
      intro place raw held
      exact ⟨raw, held, (sound raw (List.mem_of_getElem? held)).follows⟩
  | cons first calls ih =>
      obtain ⟨place, call⟩ := first
      cases found : readers[place]? with
      | none =>
          rw [runCalls, found]
          exact ih readers sound
      | some raw =>
          have rawSound := sound raw (List.mem_of_getElem? found)
          obtain ⟨event, after, opened, ran, bounded, follows, openedSound⟩ :=
            perform_bounded call rawSound
          have soundThen : ∀ raw ∈ readers.set place after ++ opened, raw.Sound memory := by
            intro reader member
            rcases List.mem_append.mp member with kept | joined
            · rcases List.mem_or_eq_of_mem_set kept with old | rfl
              · exact sound reader old
              · exact follows.sound rawSound
            · exact openedSound reader joined
          obtain ⟨events, final, ranOn, boundedOn, soundOn, followsOn⟩ := ih _ soundThen
          refine ⟨event :: events, final, ?_, ?_, soundOn, ?_⟩
          · rw [runCalls, found]
            simp only [ran, ranOn, Option.bind_eq_bind, Option.bind_some]
            rfl
          · exact List.forall_mem_cons.mpr ⟨bounded, boundedOn⟩
          · intro other reader held
            have within : other < (readers.set place after).length := by
              rw [List.length_set]
              exact (List.getElem?_eq_some_iff.mp held).1
            by_cases same : place = other
            · subst same
              cases found.symm.trans held
              obtain ⟨last, kept, goesOn⟩ := followsOn place after (by
                rw [List.getElem?_append_left within, List.getElem?_set_self]
                rwa [List.length_set] at within)
              exact ⟨last, kept, follows.trans goesOn⟩
            · refine followsOn other reader ?_
              rwa [List.getElem?_append_left within, List.getElem?_set_ne same]

/-- A section that is refused leaves its reader behind the length, where the next call goes on. -/
example : (runCalls [2, 0, 0, 0, 7] [.ofBuffer [2, 0, 0, 0, 7]]
    [(0, .enter 1), (0, .operate .u8)]).map (fun reached => reached.2.map RawReader.offset) =
      some [5] := rfl

end ReaderCall

end ArtifactPromotion
