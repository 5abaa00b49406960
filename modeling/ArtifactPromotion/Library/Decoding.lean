import Mathlib.Data.List.Basic

/-! Decoders over a partly read input, and the rules by which what they make of written bytes is
composed. A decoder is a fallible step on a position; `Reads` says exactly what it does when the
unread input begins with the given bytes. -/

namespace Decoding

variable {σ β ε α γ : Type}

/-- What is left to read at a position, and which positions are inside the input. -/
structure View (σ β : Type) where
  unread : σ → List β
  sound : σ → Prop

abbrev Decoder (σ ε α : Type) := StateT σ (Except ε) α

/-- The decoder turns these bytes into the value and reads nothing beyond them. -/
def Yields (view : View σ β) (decoder : Decoder σ ε α) (bytes : List β) (value : α) : Prop :=
  ∀ position rest, view.sound position → view.unread position = bytes ++ rest →
    ∃ next, decoder position = .ok (value, next) ∧ view.sound next ∧ view.unread next = rest

/-- The decoder fails on these bytes, whatever follows them. -/
def Refuses (view : View σ β) (decoder : Decoder σ ε α) (bytes : List β) : Prop :=
  ∀ position rest, view.sound position → view.unread position = bytes ++ rest →
    ∃ failure, decoder position = .error failure

/-- Exactly what the decoder makes of bytes shorter than the bound: the value when they are
acceptable, and a failure when they are not. -/
structure Reads (view : View σ β) (bound : Nat) (decoder : Decoder σ ε α) (bytes : List β)
    (acceptable : Prop) (value : α) : Prop where
  yields : bytes.length < bound → acceptable → Yields view decoder bytes value
  refuses : bytes.length < bound → ¬acceptable → Refuses view decoder bytes

/-- Whatever the decoder answers, it has read exactly what is written for that answer. -/
def Recovers (view : View σ β) (decoder : Decoder σ ε α) (write : α → List β) : Prop :=
  ∀ position value next, view.sound position → decoder position = .ok (value, next) →
    view.sound next ∧ view.unread position = write value ++ view.unread next

def Delivers (decoder : Decoder σ ε α) (holds : α → Prop) : Prop :=
  ∀ position value next, decoder position = .ok (value, next) → holds value

variable {view : View σ β} {bound : Nat}

theorem bind_answers {first : Decoder σ ε α} {next : α → Decoder σ ε γ} {position final : σ}
    {result : γ} : (first >>= next) position = .ok (result, final) ↔
      ∃ value middle, first position = .ok (value, middle) ∧
        next value middle = .ok (result, final) := by
  change (first position >>= fun reply => next reply.1 reply.2) = _ ↔ _
  cases first position with
  | error failure => simp [bind, Except.bind]
  | ok reply =>
      obtain ⟨value, middle⟩ := reply
      simp [bind, Except.bind]

theorem pure_answers {position final : σ} {value result : α} :
    (pure value : Decoder σ ε α) position = .ok (result, final) ↔
      value = result ∧ position = final := by
  change Except.ok (value, position) = _ ↔ _
  simp

theorem Recovers.bind {first : Decoder σ ε α} {write : α → List β} {next : α → Decoder σ ε γ}
    {position final : σ} {result : γ} (recovers : Recovers view first write)
    (sound : view.sound position) (answer : (first >>= next) position = .ok (result, final)) :
    ∃ value middle, view.sound middle ∧ view.unread position = write value ++ view.unread middle ∧
      first position = .ok (value, middle) ∧ next value middle = .ok (result, final) := by
  obtain ⟨value, middle, read, continued⟩ := bind_answers.mp answer
  obtain ⟨middleSound, unread⟩ := recovers _ _ _ sound read
  exact ⟨value, middle, middleSound, unread, read, continued⟩

theorem yields_pure (value : α) : Yields view (pure value : Decoder σ ε α) [] value :=
  fun position _ sound unread => ⟨position, rfl, sound, unread⟩

theorem yields_bind {first : Decoder σ ε α} {next : α → Decoder σ ε γ} {head tail : List β}
    {value : α} {result : γ} (read : Yields view first head value)
    (continued : Yields view (next value) tail result) :
    Yields view (first >>= next) (head ++ tail) result := by
  intro position rest sound unread
  rw [List.append_assoc] at unread
  obtain ⟨middle, firstEq, middleSound, middleUnread⟩ := read position _ sound unread
  obtain ⟨final, nextEq, finalSound, finalUnread⟩ := continued middle rest middleSound middleUnread
  refine ⟨final, ?_, finalSound, finalUnread⟩
  change (first position >>= fun reply => next reply.1 reply.2) = _
  rw [firstEq]
  exact nextEq

theorem yields_check {first : Decoder σ ε α} {next : α → Decoder σ ε γ} {bytes : List β}
    {value : α} {result : γ} (passed : Yields view first [] value)
    (continued : Yields view (next value) bytes result) :
    Yields view (first >>= next) bytes result :=
  yields_bind passed continued

theorem yields_last {first : Decoder σ ε α} {next : α → Decoder σ ε γ} {bytes : List β}
    {value : α} {result : γ} (read : Yields view first bytes value)
    (continued : Yields view (next value) [] result) :
    Yields view (first >>= next) bytes result := by
  have whole := yields_bind read continued
  rwa [List.append_nil] at whole

theorem refuses_bind {first : Decoder σ ε α} {next : α → Decoder σ ε γ} {head tail : List β}
    (refused : Refuses view first head) : Refuses view (first >>= next) (head ++ tail) := by
  intro position rest sound unread
  rw [List.append_assoc] at unread
  obtain ⟨failure, firstEq⟩ := refused position _ sound unread
  refine ⟨failure, ?_⟩
  change (first position >>= fun reply => next reply.1 reply.2) = _
  rw [firstEq]
  rfl

theorem refuses_bind_next {first : Decoder σ ε α} {next : α → Decoder σ ε γ} {head tail : List β}
    {value : α} (read : Yields view first head value) (refused : Refuses view (next value) tail) :
    Refuses view (first >>= next) (head ++ tail) := by
  intro position rest sound unread
  rw [List.append_assoc] at unread
  obtain ⟨middle, firstEq, middleSound, middleUnread⟩ := read position _ sound unread
  obtain ⟨failure, nextEq⟩ := refused middle rest middleSound middleUnread
  refine ⟨failure, ?_⟩
  change (first position >>= fun reply => next reply.1 reply.2) = _
  rw [firstEq]
  exact nextEq

namespace Reads

theorem congr {decoder : Decoder σ ε α} {bytes : List β} {acceptable other : Prop} {value : α}
    (read : Reads view bound decoder bytes acceptable value) (same : acceptable ↔ other) :
    Reads view bound decoder bytes other value :=
  ⟨fun small accepted => read.yields small (same.mpr accepted),
    fun small refused => read.refuses small fun accepted => refused (same.mp accepted)⟩

theorem of_yields {decoder : Decoder σ ε α} {bytes : List β} {value : α}
    (read : Yields view decoder bytes value) : Reads view bound decoder bytes True value :=
  ⟨fun _ _ => read, fun _ refused => absurd trivial refused⟩

theorem pure (value : α) : Reads view bound (Pure.pure value : Decoder σ ε α) [] True value :=
  of_yields (yields_pure value)

theorem failed {decoder : Decoder σ ε α} {bytes : List β} (value : α)
    (fails : ∀ position, ∃ failure, decoder position = .error failure) :
    Reads view bound decoder bytes False value :=
  ⟨fun _ => False.elim, fun _ _ position _ _ _ => fails position⟩

theorem step {first : Decoder σ ε α} {next : α → Decoder σ ε γ} {head tail : List β} {value : α}
    {acceptable : Prop} {result : γ} (read : Yields view first head value)
    (continued : Reads view bound (next value) tail acceptable result) :
    Reads view bound (first >>= next) (head ++ tail) acceptable result := by
  constructor
  · intro small accepted
    rw [List.length_append] at small
    exact yields_bind read (continued.yields (by omega) accepted)
  · intro small refused
    rw [List.length_append] at small
    exact refuses_bind_next read (continued.refuses (by omega) refused)

theorem bind {first : Decoder σ ε α} {next : α → Decoder σ ε γ} {head tail : List β} {value : α}
    {acceptable continuing : Prop} {result : γ}
    (read : Reads view bound first head acceptable value)
    (continued : acceptable → Reads view bound (next value) tail continuing result) :
    Reads view bound (first >>= next) (head ++ tail) (acceptable ∧ continuing) result := by
  constructor
  · rintro small ⟨accepted, goesOn⟩
    rw [List.length_append] at small
    exact yields_bind (read.yields (by omega) accepted)
      ((continued accepted).yields (by omega) goesOn)
  · intro small refused
    rw [List.length_append] at small
    by_cases accepted : acceptable
    · refine refuses_bind_next (read.yields (by omega) accepted)
        ((continued accepted).refuses (by omega) ?_)
      exact fun goesOn => refused ⟨accepted, goesOn⟩
    · exact refuses_bind (read.refuses (by omega) accepted)

theorem last {first : Decoder σ ε α} {next : α → Decoder σ ε γ} {bytes : List β} {value : α}
    {acceptable continuing : Prop} {result : γ}
    (read : Reads view bound first bytes acceptable value)
    (continued : acceptable → Reads view bound (next value) [] continuing result) :
    Reads view bound (first >>= next) bytes (acceptable ∧ continuing) result := by
  have whole := bind read continued
  rwa [List.append_nil] at whole

theorem last_step {first : Decoder σ ε α} {next : α → Decoder σ ε γ} {bytes : List β} {value : α}
    {acceptable : Prop} {result : γ} (read : Yields view first bytes value)
    (continued : Reads view bound (next value) [] acceptable result) :
    Reads view bound (first >>= next) bytes acceptable result := by
  have whole := step read continued
  rwa [List.append_nil] at whole

theorem reject {test : Prop} [Decidable test] {failing continued : Decoder σ ε α}
    {bytes : List β} {acceptable : Prop} {value : α}
    (fails : ∀ position, ∃ failure, failing position = .error failure)
    (goesOn : ¬test → Reads view bound continued bytes acceptable value) :
    Reads view bound (if test then failing else continued) bytes (¬test ∧ acceptable) value := by
  by_cases rejected : test
  · rw [if_pos rejected]
    exact (failed value fails).congr (by simp [rejected])
  · rw [if_neg rejected]
    exact (goesOn rejected).congr (by simp [rejected])

theorem answered {decoder : Decoder σ ε α} {bytes rest : List β} {acceptable : Prop}
    {position next : σ} {value found : α} (read : Reads view bound decoder bytes acceptable value)
    (small : bytes.length < bound) (sound : view.sound position)
    (unread : view.unread position = bytes ++ rest)
    (answer : decoder position = .ok (found, next)) :
    acceptable ∧ found = value ∧ view.sound next ∧ view.unread next = rest := by
  by_cases accepted : acceptable
  · obtain ⟨final, yielded, finalSound, finalUnread⟩ :=
      read.yields small accepted position rest sound unread
    rw [yielded] at answer
    cases answer
    exact ⟨accepted, rfl, finalSound, finalUnread⟩
  · obtain ⟨failure, refused⟩ := read.refuses small accepted position rest sound unread
    rw [refused] at answer
    cases answer

end Reads

namespace Delivers

variable {first : Decoder σ ε α} {next : α → Decoder σ ε γ} {holds : γ → Prop}

theorem pure {value : α} {property : α → Prop} (has : property value) :
    Delivers (Pure.pure value : Decoder σ ε α) property := by
  intro position result final answer
  obtain ⟨rfl, -⟩ := pure_answers.mp answer
  exact has

theorem fails {decoder : Decoder σ ε α} (property : α → Prop)
    (refuses : ∀ position, ∃ failure, decoder position = .error failure) :
    Delivers decoder property := by
  intro position value final answer
  obtain ⟨failure, refused⟩ := refuses position
  rw [refused] at answer
  cases answer

theorem bind {before : α → Prop} (read : Delivers first before)
    (continued : ∀ value, before value → Delivers (next value) holds) :
    Delivers (first >>= next) holds := by
  intro position result final answer
  obtain ⟨value, middle, answered, rest⟩ := bind_answers.mp answer
  exact continued value (read _ _ _ answered) _ _ _ rest

theorem skip (continued : ∀ value, Delivers (next value) holds) :
    Delivers (first >>= next) holds := by
  have answers : Delivers first fun _ => True := fun _ _ _ _ => trivial
  exact answers.bind fun value _ => continued value

theorem reject {test : Prop} [Decidable test] {failing continued : Decoder σ ε α}
    {property : α → Prop} (refuses : ∀ position, ∃ failure, failing position = .error failure)
    (goesOn : ¬test → Delivers continued property) :
    Delivers (if test then failing else continued) property := by
  by_cases rejected : test
  · rw [if_pos rejected]
    exact fails property refuses
  · rw [if_neg rejected]
    exact goesOn rejected

end Delivers

end Decoding
