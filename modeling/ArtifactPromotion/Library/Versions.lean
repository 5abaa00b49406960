import Mathlib.Logic.Function.Basic

/-! Stores of versions: every key has at most one version that nothing replaced, and a replaced
version names the one that took its place. -/

namespace Versions

structure Version (κ ι : Type) where
  key : κ
  number : Nat
  replacedBy : Option ι

abbrev Store (κ ι : Type) := ι → Option (Version κ ι)

variable {κ ι : Type}

structure Linear (store : Store κ ι) : Prop where
  current : ∀ left right first second, store left = some first → store right = some second →
    first.key = second.key → first.replacedBy = none → second.replacedBy = none → left = right
  replaced : ∀ id version newer, store id = some version → version.replacedBy = some newer →
    ∃ successor, store newer = some successor ∧ successor.key = version.key ∧
      successor.number = version.number + 1

variable [DecidableEq ι]

/-- A version of the key is added under a new identity and replaces the current one, if any. -/
inductive Adds (store : Store κ ι) (fresh : ι) (key : κ) : Store κ ι → Prop
  | first (number : Nat) (unheld : ∀ id version, store id = some version → version.key = key →
      version.replacedBy ≠ none) : Adds store fresh key
        (Function.update store fresh (some ⟨key, number, none⟩))
  | replacing {id : ι} {version : Version κ ι} (held : store id = some version)
      (same : version.key = key) (unreplaced : version.replacedBy = none) : Adds store fresh key
        (Function.update (Function.update store id (some { version with replacedBy := some fresh }))
          fresh (some ⟨key, version.number + 1, none⟩))

theorem update_cases {store : Store κ ι} {id other : ι} {version found : Version κ ι}
    (present : Function.update store id (some version) other = some found) :
    (other = id ∧ found = version) ∨ (other ≠ id ∧ store other = some found) := by
  by_cases same : other = id
  · subst same
    rw [Function.update_self, Option.some.injEq] at present
    exact .inl ⟨rfl, present.symm⟩
  · rw [Function.update_of_ne same] at present
    exact .inr ⟨same, present⟩

/-- What a version found after an addition was before. -/
inductive Origin (store next : Store κ ι) (fresh : ι) (key : κ) (id : ι) (found : Version κ ι) :
    Prop
  | added (new : id = fresh) (keyed : found.key = key) (unreplaced : found.replacedBy = none)
  | kept (old : id ≠ fresh) (held : store id = some found)
      (replaced : found.key = key → found.replacedBy ≠ none)
  | replaced (version : Version κ ι) (held : store id = some version) (keyed : version.key = key)
      (changed : found = { version with replacedBy := some fresh })
      (successor : next fresh = some ⟨key, version.number + 1, none⟩)

theorem Adds.origin {store next : Store κ ι} {fresh : ι} {key : κ} (linear : Linear store)
    (adds : Adds store fresh key next) {id : ι} {found : Version κ ι}
    (present : next id = some found) : Origin store next fresh key id found := by
  cases adds with
  | first number unheld =>
      rcases update_cases present with ⟨new, rfl⟩ | ⟨old, held⟩
      · exact .added new rfl rfl
      · exact .kept old held (unheld id found held)
  | @replacing replaced version held same unreplaced =>
      rcases update_cases present with ⟨new, rfl⟩ | ⟨old, before⟩
      · exact .added new rfl rfl
      · rcases update_cases before with ⟨rfl, changed⟩ | ⟨other, before⟩
        · exact .replaced version held same changed (Function.update_self ..)
        · refine .kept old before fun keyed live => other ?_
          exact linear.current id replaced found version before held (keyed.trans same.symm) live
            unreplaced

theorem Adds.keeps {store next : Store κ ι} {fresh : ι} {key : κ} (absent : store fresh = none)
    (adds : Adds store fresh key next) {id : ι} {version : Version κ ι}
    (held : store id = some version) :
    ∃ later, next id = some later ∧ later.key = version.key ∧ later.number = version.number := by
  have old : id ≠ fresh := by
    rintro rfl
    rw [absent] at held
    cases held
  cases adds with
  | first number unheld =>
      rw [Function.update_of_ne old]
      exact ⟨version, held, rfl, rfl⟩
  | @replacing replaced current present same unreplaced =>
      rw [Function.update_of_ne old]
      by_cases subject : id = replaced
      · subst subject
        rw [held, Option.some.injEq] at present
        rw [Function.update_self]
        exact ⟨_, rfl, by rw [present], by rw [present]⟩
      · rw [Function.update_of_ne subject]
        exact ⟨version, held, rfl, rfl⟩

theorem Adds.linear {store next : Store κ ι} {fresh : ι} {key : κ} (linear : Linear store)
    (absent : store fresh = none) (adds : Adds store fresh key next) : Linear next where
  current := by
    intro left right first second present other same live alive
    cases adds.origin linear present with
    | added new keyed _ =>
        cases adds.origin linear other with
        | added too _ _ => rw [new, too]
        | kept _ _ replaced => exact absurd alive (replaced (same.symm.trans keyed))
        | replaced _ _ _ changed _ =>
            rw [changed] at alive
            cases alive
    | kept old held replaced =>
        cases adds.origin linear other with
        | added _ keyed _ => exact absurd live (replaced (same.trans keyed))
        | kept _ too _ => exact linear.current left right first second held too same live alive
        | replaced _ _ _ changed _ =>
            rw [changed] at alive
            cases alive
    | replaced _ _ _ changed _ =>
        rw [changed] at live
        cases live
  replaced := by
    intro id version newer present names
    cases adds.origin linear present with
    | added _ _ unreplaced =>
        rw [unreplaced] at names
        cases names
    | kept _ held _ =>
        obtain ⟨successor, found, keyed, number⟩ := linear.replaced id version newer held names
        obtain ⟨later, still, key_eq, number_eq⟩ := adds.keeps absent found
        exact ⟨later, still, key_eq.trans keyed, number_eq.trans number⟩
    | replaced old _ keyed changed successor =>
        -- The version just replaced names the one just added.
        rw [changed, Option.some.injEq] at names
        subst names changed
        exact ⟨_, successor, keyed.symm, rfl⟩

end Versions
