import Std.Data.ExtTreeMap
import Mathlib.Data.List.Basic

/-! Facts about finite ordered maps that the standard library does not state. -/

namespace OrderedMaps

variable {κ ν : Type} [Ord κ] [Std.TransOrd κ] [Std.LawfulEqOrd κ]

theorem insert_same {map : Std.ExtTreeMap κ ν compare} {key : κ} {value : ν}
    (present : map[key]? = some value) : map.insert key value = map := by
  apply Std.ExtTreeMap.ext_getElem?
  intro other
  rw [Std.ExtTreeMap.getElem?_insert]
  split
  · rename_i same
    rw [← Std.LawfulEqCmp.compare_eq_iff_eq.mp same, present]
  · rfl

theorem insert_insert (map : Std.ExtTreeMap κ ν compare) (key : κ) (first second : ν) :
    (map.insert key first).insert key second = map.insert key second := by
  apply Std.ExtTreeMap.ext_getElem?
  intro other
  simp only [Std.ExtTreeMap.getElem?_insert]
  split <;> rfl

theorem erase_absent {map : Std.ExtTreeMap κ ν compare} {key : κ} (absent : map[key]? = none) :
    map.erase key = map := by
  apply Std.ExtTreeMap.ext_getElem?
  intro other
  rw [Std.ExtTreeMap.getElem?_erase]
  split
  · rename_i same
    rw [← Std.LawfulEqCmp.compare_eq_iff_eq.mp same, absent]
  · rfl

theorem getElem?_insert_ne (map : Std.ExtTreeMap κ ν compare) {key other : κ} (value : ν)
    (distinct : other ≠ key) : (map.insert key value)[other]? = map[other]? := by
  rw [Std.ExtTreeMap.getElem?_insert, if_neg]
  intro same
  exact distinct (Std.LawfulEqCmp.compare_eq_iff_eq.mp same).symm

omit [Std.LawfulEqOrd κ] in
theorem contains_iff {map : Std.ExtTreeMap κ ν compare} {key : κ} :
    map.contains key = true ↔ ∃ value, map[key]? = some value := by
  rw [Std.ExtTreeMap.contains_eq_isSome_getElem?, Option.isSome_iff_exists]

theorem getElem?_erase_ne (map : Std.ExtTreeMap κ ν compare) {key other : κ}
    (distinct : other ≠ key) : (map.erase key)[other]? = map[other]? := by
  rw [Std.ExtTreeMap.getElem?_erase, if_neg]
  intro same
  exact distinct (Std.LawfulEqCmp.compare_eq_iff_eq.mp same).symm

theorem insert_cases {map : Std.ExtTreeMap κ ν compare} {key other : κ} {value found : ν}
    (present : (map.insert key value)[other]? = some found) :
    (other = key ∧ found = value) ∨ (other ≠ key ∧ map[other]? = some found) := by
  by_cases same : other = key
  · subst same
    rw [Std.ExtTreeMap.getElem?_insert_self] at present
    exact .inl ⟨rfl, (Option.some.inj present).symm⟩
  · rw [getElem?_insert_ne map value same] at present
    exact .inr ⟨same, present⟩

theorem erase_cases {map : Std.ExtTreeMap κ ν compare} {key other : κ} {found : ν}
    (present : (map.erase key)[other]? = some found) : other ≠ key ∧ map[other]? = some found := by
  by_cases same : other = key
  · subst same
    simp at present
  · rw [getElem?_erase_ne map same] at present
    exact ⟨same, present⟩

theorem foldl_erase_getElem? (keys : List κ) (map : Std.ExtTreeMap κ ν compare) (key : κ) :
    (keys.foldl Std.ExtTreeMap.erase map)[key]? = none ↔ key ∈ keys ∨ map[key]? = none := by
  induction keys generalizing map with
  | nil => simp
  | cons first rest ih =>
      rw [List.foldl_cons, ih, List.mem_cons]
      by_cases same : key = first
      · subst same
        simp
      · rw [getElem?_erase_ne map same]
        simp [same]

theorem foldl_erase_keys (map : Std.ExtTreeMap κ ν compare) :
    map.keys.foldl Std.ExtTreeMap.erase map = ∅ := by
  apply Std.ExtTreeMap.ext_getElem?
  intro key
  rw [(foldl_erase_getElem? map.keys map key).mpr]
  · simp
  · by_cases present : key ∈ map
    · exact .inl (Std.ExtTreeMap.mem_keys.mpr present)
    · exact .inr (Std.ExtTreeMap.getElem?_eq_none present)

omit [Std.LawfulEqOrd κ] in
theorem size_insert_new {map : Std.ExtTreeMap κ ν compare} {key : κ} (value : ν)
    (absent : map[key]? = none) : (map.insert key value).size = map.size + 1 := by
  rw [Std.ExtTreeMap.size_insert, if_neg]
  rw [Std.ExtTreeMap.contains_eq_isSome_getElem?, absent]
  simp

omit [Std.LawfulEqOrd κ] in
theorem size_insert_held {map : Std.ExtTreeMap κ ν compare} {key : κ} (value : ν)
    (held : map.contains key = true) : (map.insert key value).size = map.size := by
  rw [Std.ExtTreeMap.size_insert, if_pos held]

omit [Std.LawfulEqOrd κ] in
theorem contains_insert_of_held {map : Std.ExtTreeMap κ ν compare} {key other : κ} (value : ν)
    (held : map.contains other = true) : (map.insert key value).contains other = true := by
  rw [Std.ExtTreeMap.contains_insert, held, Bool.or_true]

theorem filter_insert (map : Std.ExtTreeMap κ ν compare) (keep : κ → ν → Bool) (key : κ)
    (value : ν) : (map.insert key value).filter keep =
      if keep key value then (map.filter keep).insert key value else (map.filter keep).erase key := by
  apply Std.ExtTreeMap.ext_getElem?
  intro other
  rw [Std.ExtTreeMap.getElem?_filter']
  by_cases same : other = key
  · subst same
    cases kept : keep other value with
    | true => simp [kept]
    | false => simp [kept]
  · rw [getElem?_insert_ne _ _ same]
    split
    · rw [getElem?_insert_ne _ _ same, Std.ExtTreeMap.getElem?_filter']
    · rw [getElem?_erase_ne _ same, Std.ExtTreeMap.getElem?_filter']

theorem filter_absent {map : Std.ExtTreeMap κ ν compare} (keep : κ → ν → Bool) {key : κ}
    (absent : map[key]? = none) : (map.filter keep)[key]? = none := by
  rw [Std.ExtTreeMap.getElem?_filter', absent]
  rfl

theorem size_filter_insert_new {map : Std.ExtTreeMap κ ν compare} (keep : κ → ν → Bool) {key : κ}
    (value : ν) (absent : map[key]? = none) :
    ((map.insert key value).filter keep).size =
      (map.filter keep).size + if keep key value then 1 else 0 := by
  rw [filter_insert]
  split
  · rw [size_insert_new _ (filter_absent keep absent)]
  · rw [erase_absent (filter_absent keep absent)]
    rfl

theorem size_filter_insert_held {map : Std.ExtTreeMap κ ν compare} (keep : κ → ν → Bool) {key : κ}
    {value old : ν} (held : map[key]? = some old) (alike : keep key value = keep key old) :
    ((map.insert key value).filter keep).size = (map.filter keep).size := by
  rw [filter_insert]
  split
  · rename_i kept
    apply size_insert_held
    rw [Std.ExtTreeMap.contains_eq_isSome_getElem?, Std.ExtTreeMap.getElem?_filter', held,
      Option.filter_some, if_pos (alike ▸ kept)]
    rfl
  · rename_i dropped
    rw [erase_absent]
    rw [Std.ExtTreeMap.getElem?_filter', held, Option.filter_some, if_neg (alike ▸ dropped)]

theorem map_id (map : Std.ExtTreeMap κ ν compare) : map.map (fun _ => id) = map := by
  apply Std.ExtTreeMap.ext_getElem?
  intro key
  rw [Std.ExtTreeMap.getElem?_map, Option.map_id, id]

theorem map_eq_self_iff {map : Std.ExtTreeMap κ ν compare} {change : ν → ν} :
    (map.map fun _ => change) = map ↔ ∀ entry ∈ map.toList, change entry.2 = entry.2 := by
  constructor
  · intro same entry inside
    have held := Std.ExtTreeMap.mem_toList_iff_getElem?_eq_some.mp inside
    have changed : (map.map fun _ => change)[entry.1]? = some (change entry.2) := by
      rw [Std.ExtTreeMap.getElem?_map, held, Option.map_some]
    rw [same, held, Option.some.injEq] at changed
    exact changed.symm
  · intro kept
    apply Std.ExtTreeMap.ext_getElem?
    intro key
    rw [Std.ExtTreeMap.getElem?_map]
    cases held : map[key]? with
    | none => rfl
    | some value =>
        have inside : (key, value) ∈ map.toList :=
          Std.ExtTreeMap.mem_toList_iff_getElem?_eq_some.mpr held
        rw [Option.map_some, kept _ inside]

theorem insertIfNew_fresh {map : Std.ExtTreeMap κ ν compare} {key : κ} (value : ν)
    (fresh : map[key]? = none) : map.insertIfNew key value = map.insert key value := by
  have absent : key ∉ map := by
    rw [Std.ExtTreeMap.mem_iff_isSome_getElem?, fresh]
    simp
  apply Std.ExtTreeMap.ext_getElem?
  intro other
  simp only [Std.ExtTreeMap.getElem?_insertIfNew, Std.ExtTreeMap.getElem?_insert, absent,
    not_false_eq_true, and_true]

theorem insertMany_entry (entries : List (κ × ν)) (map : Std.ExtTreeMap κ ν compare)
    (distinct : entries.Pairwise fun left right => left.1 ≠ right.1) (key : κ) (value : ν) :
    (map.insertMany entries)[key]? = some value ↔ (key, value) ∈ entries ∨
      ((∀ entry ∈ entries, entry.1 ≠ key) ∧ map[key]? = some value) := by
  induction entries generalizing map with
  | nil => simp
  | cons entry rest ih =>
      obtain ⟨first, stored⟩ := entry
      rw [List.pairwise_cons] at distinct
      rw [Std.ExtTreeMap.insertMany_cons, ih _ distinct.2, List.mem_cons]
      by_cases same : key = first
      · subst same
        have later (other : ν) : (key, other) ∉ rest := fun inside => distinct.1 _ inside rfl
        have none (entry : κ × ν) (inside : entry ∈ rest) : entry.1 ≠ key :=
          (distinct.1 entry inside).symm
        simp only [later, false_or, Prod.mk.injEq, true_and, or_false,
          Std.ExtTreeMap.getElem?_insert_self, Option.some.injEq, List.mem_cons, forall_eq_or_imp,
          ne_eq, not_true_eq_false, false_and]
        exact ⟨fun found => found.2.symm, fun found => ⟨none, found.symm⟩⟩
      · rw [getElem?_insert_ne _ _ same]
        simp [same, Ne.symm same]

theorem insertMany_toList {μ : Type} (map : Std.ExtTreeMap κ ν compare) (change : κ → ν → μ) :
    (∅ : Std.ExtTreeMap κ μ compare).insertMany
      (map.toList.map fun entry => (entry.1, change entry.1 entry.2)) = map.map change := by
  have distinct : (map.map change).toList.Pairwise fun left right => left.1 ≠ right.1 := by
    refine Std.ExtTreeMap.distinct_keys_toList.imp ?_
    intro left right apart same
    exact apart (by rw [same]; exact Std.ReflCmp.compare_self)
  rw [← Std.ExtTreeMap.toList_map]
  apply Std.ExtTreeMap.ext_getElem?
  intro key
  apply Option.ext
  intro value
  rw [insertMany_entry _ _ distinct, Std.ExtTreeMap.mem_toList_iff_getElem?_eq_some]
  simp

section Filling

variable (entries : List (κ × ν)) (map : Std.ExtTreeMap κ ν compare)

/-- Stores entries one after the other, each only where its key is still free. -/
def fill : Std.ExtTreeMap κ ν compare :=
  entries.foldl (fun stored entry => stored.insertIfNew entry.1 entry.2) map

omit [Std.LawfulEqOrd κ] in
theorem fill_size_le : (fill entries map).size ≤ map.size + entries.length := by
  induction entries generalizing map with
  | nil => simp [fill]
  | cons entry rest ih =>
      have first := Std.ExtTreeMap.size_insertIfNew_le (t := map) (k := entry.1) (v := entry.2)
      have others := ih (map.insertIfNew entry.1 entry.2)
      rw [fill, List.foldl_cons, List.length_cons]
      rw [fill] at others
      omega

theorem fill_size_iff : (fill entries map).size = map.size + entries.length ↔
    (entries.map Prod.fst).Nodup ∧ ∀ key ∈ entries.map Prod.fst, map.contains key = false := by
  induction entries generalizing map with
  | nil => simp [fill]
  | cons entry rest ih =>
      have others := fill_size_le rest (map.insertIfNew entry.1 entry.2)
      have step : fill (entry :: rest) map = fill rest (map.insertIfNew entry.1 entry.2) := rfl
      rw [step, List.length_cons, List.map_cons, List.nodup_cons, List.forall_mem_cons]
      by_cases taken : map.contains entry.1 = true
      · rw [Std.ExtTreeMap.size_insertIfNew, if_pos (by simpa using taken)] at others
        have short : (fill rest (map.insertIfNew entry.1 entry.2)).size ≠
            map.size + (rest.length + 1) := by omega
        simp [short, taken]
      · have size : (map.insertIfNew entry.1 entry.2).size = map.size + 1 := by
          rw [Std.ExtTreeMap.size_insertIfNew, if_neg (by simpa using taken)]
        have count : map.size + (rest.length + 1) =
            (map.insertIfNew entry.1 entry.2).size + rest.length := by omega
        rw [count, ih]
        have free : map.contains entry.1 = false := Bool.eq_false_iff.mpr taken
        have apart (key : κ) : (map.insertIfNew entry.1 entry.2).contains key = false ↔
            key ≠ entry.1 ∧ map.contains key = false := by
          rw [Std.ExtTreeMap.contains_insertIfNew, Bool.or_eq_false_iff, beq_eq_false_iff_ne,
            ne_eq, Std.LawfulEqCmp.compare_eq_iff_eq]
          exact and_congr_left' ne_comm
        simp only [apart, free, true_and]
        constructor
        · rintro ⟨distinct, fresh⟩
          exact ⟨⟨fun again => (fresh _ again).1 rfl, distinct⟩, fun key held => (fresh key held).2⟩
        · rintro ⟨⟨once, distinct⟩, fresh⟩
          exact ⟨distinct, fun key held => ⟨fun same => once (same ▸ held), fresh key held⟩⟩

end Filling

end OrderedMaps
