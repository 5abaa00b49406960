import ArtifactPromotion.Core.ReaderCalls

/-! Decoders as the source writes them: they reach their input through the operations of readers
and, for a whole buffer, through pointers into it. -/

namespace ArtifactPromotion

inductive Program : Type → Type 1 where
  | pure {α : Type} (value : α) : Program α
  | fail {α : Type} (status : Status) : Program α
  | call {α β : Type} (op : ReaderOp β) (next : β → Program α) : Program α
  /-- The bytes at a place of the buffer, whatever the cursor. -/
  | peek {α : Type} (position size : Nat) (next : ByteBuffer → Program α) : Program α
  /-- A section, decoded by a reader of its own. -/
  | within {α β : Type} (limit : Nat) (body : Program β) (next : β → Program α) : Program α
  /-- Another buffer, decoded by a reader over all of it. -/
  | fork {α β : Type} (buffer : ByteBuffer) (body : Program β) (next : β → Program α) : Program α

namespace Program

def bind {α γ : Type} : Program α → (α → Program γ) → Program γ
  | pure value, next => next value
  | fail status, _ => fail status
  | call op rest, next => call op fun value => (rest value).bind next
  | peek position size rest, next => peek position size fun bytes => (rest bytes).bind next
  | within limit body rest, next => within limit body fun value => (rest value).bind next
  | fork buffer body rest, next => fork buffer body fun value => (rest value).bind next

instance : Monad Program where
  pure := Program.pure
  bind := Program.bind

abbrev ask {β : Type} (op : ReaderOp β) : Program β := call op pure

abbrev look (position size : Nat) : Program ByteBuffer := peek position size pure

/-- What a decoder answers on a reader of its own, with the outer one left where it is. -/
def inside {α : Type} (decode : Decode α) (region : Reader) : Decode α := fun reader =>
  (decode region).map fun reply => (reply.1, reader)

def model {α : Type} : Program α → Decode α
  | pure value => Pure.pure value
  | fail status => fun _ => .error status
  | call op next => op.model >>= fun value => (next value).model
  | peek position size next => fun reader =>
      (next ((reader.data.drop position).take size)).model reader
  | within limit body next => do
      let region ← Reader.subRegion limit
      let value ← inside body.model region
      (next value).model
  | fork buffer body next => do
      let value ← inside body.model { data := buffer }
      (next value).model

def insideOf {α : Type} (access : Access α) (memory : ByteBuffer) (region : RawReader) : Access α :=
  fun _ raw => (access memory region).map fun reply => (reply.1, raw)

def exec {α : Type} : Program α → Access α
  | pure value => Pure.pure value
  | fail status => throw status
  | call op next => op.exec >>= fun value => (next value).exec
  | peek position size next => RawReader.bytesAt position size >>= fun bytes => (next bytes).exec
  | within limit body next => do
      let region ← RawReader.subRegion limit
      let memory ← read
      let value ← insideOf body.exec memory region
      (next value).exec
  | fork buffer body next => do
      let value ← insideOf body.exec buffer (.ofBuffer buffer)
      (next value).exec

/-- Every direct access lies in the first `room` bytes, and every buffer decoded has a size. -/
def Fits {α : Type} (room : Nat) : Program α → Prop
  | pure _ => True
  | fail _ => True
  | call op next =>
      ∀ value reader rest, op.model reader = .ok (value, rest) → (next value).Fits room
  | peek position size next => position + size ≤ room ∧ ∀ bytes, (next bytes).Fits room
  | within _ body next => body.Fits 0 ∧ ∀ value, (next value).Fits room
  | fork buffer body next =>
      buffer.length < 2 ^ 64 ∧ body.Fits buffer.length ∧ ∀ value, (next value).Fits room

open RawReader

variable {α β : Type} {room : Nat}

theorem inside_mirrors {inner : Nat} {access : Access α} {decode : Decode α}
    (mirrors : Mirrors inner access decode) {memory : ByteBuffer} {region : RawReader}
    (sound : region.Sound memory) (roomy : inner ≤ region.size.toNat) :
    Mirrors room (insideOf access memory region) (inside decode (region.toReader memory)) := by
  intro other raw rawSound _
  obtain ⟨outcome, after, ran, -, decoded⟩ := mirrors memory region sound roomy
  refine ⟨outcome, raw, ?_, rawSound.follows, ?_⟩
  · rw [insideOf, ran]
    rfl
  · rw [inside, decoded]
    cases outcome with
    | error status => rfl
    | ok value => rfl

/-- On memory a program touches nothing outside its regions, ends, and answers what it answers on
the bytes of its region alone. -/
theorem exec_mirrors (program : Program α) (fits : program.Fits room) :
    Mirrors room program.exec program.model := by
  induction program generalizing room with
  | pure value => exact mirrors_pure value
  | fail status => exact mirrors_throw status
  | call op next ih =>
      exact mirrors_bind op.mirrors fun value reader rest read =>
        ih value (fits value reader rest read)
  | peek position size next ih =>
      intro memory raw sound roomy
      have inside : position + size ≤ raw.size.toNat := Nat.le_trans fits.1 roomy
      have loaded : ((raw.toReader memory).data.drop position).take size =
          (memory.drop (raw.data + position)).take size := Sound.region_take inside
      obtain ⟨outcome, after, ran, follows, decoded⟩ :=
        ih _ (fits.2 ((memory.drop (raw.data + position)).take size)) memory raw sound roomy
      refine ⟨outcome, after, ?_, follows, ?_⟩
      · rw [exec, bind_ok (sound.bytesAt inside)]
        exact ran
      · rw [model]
        dsimp only
        rw [loaded]
        exact decoded
  | within limit body next bodyIh nextIh =>
      intro memory raw sound roomy
      obtain ⟨outcome, middle, ran, follows, decoded, opens⟩ := subRegion_served limit sound
      have whole : (within limit body next).model (raw.toReader memory) =
          Reader.subRegion limit (raw.toReader memory) >>= fun reply =>
            (inside body.model reply.1 >>= fun value => (next value).model) reply.2 := rfl
      rw [decoded] at whole
      cases outcome with
      | error status => exact ⟨.error status, middle, bind_error ran, follows, whole⟩
      | ok sub =>
          have subSound := (opens sub rfl).sound follows sound
          have continued : Mirrors room
              (insideOf body.exec memory sub >>= fun value => (next value).exec)
              (inside body.model (sub.toReader memory) >>= fun value => (next value).model) :=
            mirrors_bind (inside_mirrors (bodyIh fits.1) subSound (Nat.zero_le _))
              fun value _ _ _ => nextIh value (fits.2 value)
          have roomyToo : room ≤ middle.size.toNat := by
            rw [follows.size]
            exact roomy
          obtain ⟨outcome, after, ranOn, goesOn, decodedOn⟩ :=
            continued memory middle (follows.sound sound) roomyToo
          refine ⟨outcome, after, ?_, follows.trans goesOn, ?_⟩
          · rw [exec, bind_ok ran]
            exact ranOn
          · rw [whole]
            exact decodedOn
  | fork buffer body next bodyIh nextIh =>
      obtain ⟨small, bodyFits, nextFits⟩ := fits
      refine mirrors_bind ?_ fun value _ _ _ => nextIh value (nextFits value)
      rw [← ofBuffer_toReader small]
      exact inside_mirrors (bodyIh bodyFits) (ofBuffer_sound buffer) (Nat.le_of_eq (ofBuffer_size small).symm)

theorem model_bind (program : Program α) (next : α → Program β) :
    (program.bind next).model = program.model >>= fun value => (next value).model := by
  induction program with
  | pure value => rfl
  | fail status => rfl
  | call op rest ih => simp only [Program.bind, model, bind_assoc, ih]
  | peek position size rest ih =>
      funext reader
      exact congrFun (ih ((reader.data.drop position).take size) next) reader
  | within limit body rest bodyIh ih => simp only [Program.bind, model, bind_assoc, ih]
  | fork buffer body rest bodyIh ih => simp only [Program.bind, model, bind_assoc, ih]

theorem model_ask (op : ReaderOp β) : (ask op).model = op.model := bind_pure _

def answer (program : Program α) (reader : Reader) : Result α :=
  (program.model reader).map Prod.fst

theorem answer_bind (program : Program α) (next : α → Program β) (reader : Reader) :
    (program >>= next).answer reader =
      program.model reader >>= fun reply => (next reply.1).answer reply.2 := by
  change ((program.bind next).model reader).map Prod.fst = _
  rw [model_bind]
  change (program.model reader >>= fun reply => (next reply.1).model reply.2).map Prod.fst = _
  cases program.model reader with
  | error status => rfl
  | ok reply => rfl

theorem answer_ask (op : ReaderOp α) (next : α → Program β) (reader : Reader) :
    (ask op >>= next).answer reader =
      op.model reader >>= fun reply => (next reply.1).answer reply.2 := by
  rw [answer_bind, model_ask]

theorem answer_requireFinished (next : Unit → Program β) (reader : Reader) :
    (ask .requireFinished >>= next).answer reader =
      reader.requireFinished >>= fun done => (next done).answer reader := by
  rw [answer_ask]
  change (reader.requireFinished.map _ >>= _) = _
  cases reader.requireFinished with
  | error status => rfl
  | ok done => rfl

theorem answer_look (position size : Nat) (next : ByteBuffer → Program α) (reader : Reader) :
    (look position size >>= next).answer reader =
      (next ((reader.data.drop position).take size)).answer reader := rfl

theorem answer_within (limit : Nat) (body : Program α) (next : α → Program β) (reader : Reader) :
    (within limit body next).answer reader =
      Reader.subRegion limit reader >>= fun reply =>
        body.answer reply.1 >>= fun value => (next value).answer reply.2 := by
  change (Reader.subRegion limit reader >>= fun reply => (inside body.model reply.1 >>= fun value =>
    (next value).model) reply.2).map Prod.fst = _
  cases Reader.subRegion limit reader with
  | error status => rfl
  | ok reply =>
      change ((inside body.model reply.1 reply.2) >>= fun found =>
        (next found.1).model found.2).map Prod.fst =
          body.answer reply.1 >>= fun value => (next value).answer reply.2
      rw [inside, answer]
      cases body.model reply.1 with
      | error status => rfl
      | ok found => rfl

theorem answer_fork (buffer : ByteBuffer) (body : Program α) (next : α → Program β)
    (reader : Reader) : (fork buffer body next).answer reader =
      body.answer { data := buffer } >>= fun value => (next value).answer reader := by
  change ((inside body.model { data := buffer } reader) >>= fun found =>
    (next found.1).model found.2).map Prod.fst = _
  rw [inside, answer]
  cases body.model { data := buffer } with
  | error status => rfl
  | ok found => rfl

theorem fits_bind {program : Program α} {next : α → Program β} (fits : program.Fits room)
    (continued : ∀ value, (next value).Fits room) : (program.bind next).Fits room := by
  induction program with
  | pure value => exact continued value
  | fail status => trivial
  | call op rest ih => exact fun value reader left read => ih value (fits value reader left read) continued
  | peek position size rest ih => exact ⟨fits.1, fun bytes => ih bytes (fits.2 bytes) continued⟩
  | within limit body rest bodyIh ih => exact ⟨fits.1, fun value => ih value (fits.2 value) continued⟩
  | fork buffer body rest bodyIh ih =>
      exact ⟨fits.1, fits.2.1, fun value => ih value (fits.2.2 value) continued⟩

theorem exec_ofBuffer (program : Program α) {buffer : ByteBuffer} (fits : program.Fits buffer.length)
    (small : buffer.length < 2 ^ 64) : ∃ after,
      program.exec buffer (.ofBuffer buffer) = some (program.answer { data := buffer }, after) ∧
        after.Sound buffer := by
  have sound := ofBuffer_sound buffer
  obtain ⟨outcome, after, ran, follows, decoded⟩ :=
    exec_mirrors program fits buffer (.ofBuffer buffer) sound (Nat.le_of_eq (ofBuffer_size small).symm)
  rw [ofBuffer_toReader small] at decoded
  refine ⟨after, ?_, follows.sound sound⟩
  rw [ran, answer, decoded]
  cases outcome with
  | error status => rfl
  | ok value => rfl

theorem fits_ask {op : ReaderOp α} {next : α → Program β}
    (continued : ∀ value, (next value).Fits room) : (ask op >>= next).Fits room :=
  fun value _ _ _ => continued value

theorem fits_look {position size : Nat} {next : ByteBuffer → Program α}
    (inside : position + size ≤ room) (continued : ∀ bytes, (next bytes).Fits room) :
    (look position size >>= next).Fits room :=
  ⟨inside, continued⟩

theorem fits_mono {program : Program α} {larger : Nat} (more : room ≤ larger)
    (fits : program.Fits room) : program.Fits larger := by
  induction program with
  | pure value => trivial
  | fail status => trivial
  | call op next ih => exact fun value reader rest read => ih value (fits value reader rest read)
  | peek position size next ih =>
      exact ⟨Nat.le_trans fits.1 more, fun bytes => ih bytes (fits.2 bytes)⟩
  | within limit body next bodyIh ih => exact ⟨fits.1, fun value => ih value (fits.2 value)⟩
  | fork buffer body next bodyIh ih =>
      exact ⟨fits.1, fits.2.1, fun value => ih value (fits.2.2 value)⟩

/-- Over every buffer there can be, the program ends without an access outside its regions, with
the answer of the decoder. It is given the size of the buffer. -/
def RunsInBounds (program : Nat → Program α) (decode : ByteBuffer → Result α) : Prop :=
  ∀ buffer : ByteBuffer, buffer.length < 2 ^ 64 → ∃ after,
    (program buffer.length).exec buffer (.ofBuffer buffer) = some (decode buffer, after) ∧
      after.Sound buffer

theorem runsInBounds {program : Nat → Program α} {decode : ByteBuffer → Result α}
    (fits : ∀ size, (program size).Fits size)
    (answers : ∀ buffer, (program buffer.length).answer { data := buffer } = decode buffer) :
    RunsInBounds program decode := by
  intro buffer small
  obtain ⟨after, ran, sound⟩ := exec_ofBuffer _ (fits buffer.length) small
  rw [answers buffer] at ran
  exact ⟨after, ran, sound⟩

end Program

class Programmed {α : Type} (decode : Decode α) where
  program : Program α
  model_eq : program.model = decode
  fits : program.Fits 0

namespace Programmed

variable {α β : Type}

theorem fits_any (decode : Decode α) [Programmed decode] (room : Nat) :
    (program decode).Fits room :=
  Program.fits_mono (Nat.zero_le room) fits

abbrev ofOp (op : ReaderOp β) : Programmed op.model where
  program := .ask op
  model_eq := Program.model_ask op
  fits _ _ _ _ := trivial

instance : Programmed Reader.u8 := ofOp .u8

instance : Programmed Reader.u16 := ofOp .u16

instance : Programmed Reader.u32 := ofOp .u32

instance : Programmed Reader.u64 := ofOp .u64

instance : Programmed Reader.boolean := ofOp .boolean

instance {size : Nat} : Programmed (Reader.raw size) := ofOp (.raw size)

instance {limit : Nat} : Programmed (Reader.text limit) := ofOp (.text limit)

instance {tag : IdentityTag} : Programmed (Reader.identity : Decode (Identity tag)) :=
  ofOp (.identity tag)

instance {tag : CounterTag} : Programmed (Reader.counter : Decode (Counter tag)) :=
  ofOp (.counter tag)

instance : Programmed Reader.digest := ofOp .digest

instance {limit : Nat} : Programmed (Reader.count limit) := ofOp (.count limit)

instance {value : α} : Programmed (pure value : Decode α) where
  program := .pure value
  model_eq := rfl
  fits := trivial

instance {code : ErrorCode} {message : Text} :
    Programmed (Reader.fail code message : Decode α) where
  program := .fail (.of code message)
  model_eq := rfl
  fits := trivial

instance {first : Decode α} {next : α → Decode β} [head : Programmed first]
    [tail : ∀ value, Programmed (next value)] : Programmed (first >>= next) where
  program := head.program.bind fun value => (tail value).program
  model_eq := by
    rw [Program.model_bind, head.model_eq]
    congr 1
    funext value
    exact (tail value).model_eq
  fits := Program.fits_bind head.fits fun value => (tail value).fits

instance {condition : Prop} [Decidable condition] {first second : Decode α}
    [holds : Programmed first] [fails : Programmed second] :
    Programmed (if condition then first else second) where
  program := if condition then holds.program else fails.program
  model_eq := by
    by_cases decided : condition
    · rw [if_pos decided, if_pos decided]
      exact holds.model_eq
    · rw [if_neg decided, if_neg decided]
      exact fails.model_eq
  fits := by
    by_cases decided : condition
    · rw [if_pos decided]
      exact holds.fits
    · rw [if_neg decided]
      exact fails.fits

instance elements (decodeElement : Decode α) [Programmed decodeElement] :
    (count : Nat) → Programmed (Reader.elements decodeElement count)
  | 0 => inferInstanceAs (Programmed (pure []))
  | count + 1 =>
      have := elements decodeElement count
      inferInstanceAs (Programmed do
        let first ← decodeElement
        let rest ← Reader.elements decodeElement count
        return first :: rest)

end Programmed

end ArtifactPromotion
