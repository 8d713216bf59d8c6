import Mathlib.Algebra.Order.BigOperators.Group.List
import Mathlib.Algebra.Order.Group.Nat
import Mathlib.Algebra.Ring.Nat
import Mathlib.Data.List.Dedup
import Steward.Assoc

/-! Totals over finite maps. Every key has one entry, so a change at a key changes a total by what
that key adds to it. -/

set_option autoImplicit false

namespace Steward.Assoc

universe u v

variable {Key : Type u} {Value : Type v}

theorem mapValues_mapValues (map : Assoc Key Value) (first second : Key → Value → Value) :
    (map.mapValues first).mapValues second =
      map.mapValues fun key value => second key (first key value) := by
  apply ext
  simp [mapValues, List.map_map, Function.comp_def]

theorem filter_comm (map : Assoc Key Value) (first second : Key → Value → Bool) :
    (map.filter first).filter second = (map.filter second).filter first := by
  apply ext
  simp only [filter, List.filter_filter, Bool.and_comm]

/-- What the values of a map add up to. -/
def total (map : Assoc Key Value) (amount : Value → Nat) : Nat :=
  (map.entries.map fun entry => amount entry.2).sum

theorem total_congr (map : Assoc Key Value) {first second : Value → Nat}
    (same : ∀ entry ∈ map.entries, first entry.2 = second entry.2) :
    map.total first = map.total second :=
  congrArg List.sum (List.map_congr_left same)

theorem total_eq_zero (map : Assoc Key Value) {amount : Value → Nat}
    (nothing : ∀ entry ∈ map.entries, amount entry.2 = 0) : map.total amount = 0 := by
  have same : map.total amount = map.total fun _ => 0 := map.total_congr nothing
  rw [same]
  simp [total, List.map_const']

theorem total_mapValues (map : Assoc Key Value) (transform : Key → Value → Value)
    (amount : Value → Nat) (kept : ∀ key value, amount (transform key value) = amount value) :
    (map.mapValues transform).total amount = map.total amount := by
  simp [total, mapValues, List.map_map, Function.comp_def, kept]

theorem total_filter_add (map : Assoc Key Value) (keep : Key → Value → Bool)
    (amount : Value → Nat) :
    (map.filter keep).total amount + (map.filter fun key value => !keep key value).total amount =
      map.total amount := by
  simp only [total, filter]
  induction map.entries with
  | nil => rfl
  | cons head rest ih =>
    cases kept : keep head.1 head.2 with
    | true => simp [kept, ← ih, Nat.add_assoc]
    | false => simp [kept, ← ih, Nat.add_left_comm]

theorem total_filter_of_dropped (map : Assoc Key Value) (keep : Key → Value → Bool)
    (amount : Value → Nat) (dropped : ∀ key value, keep key value = false → amount value = 0) :
    (map.filter keep).total amount = map.total amount := by
  have rest : (map.filter fun key value => !keep key value).total amount = 0 := by
    apply total_eq_zero
    intro entry inside
    have fails := (List.mem_filter.1 inside).2
    exact dropped entry.1 entry.2 (by simpa using fails)
  rw [← map.total_filter_add keep amount, rest, Nat.add_zero]

/-- A total over the entries that pass a test, as a sum over all of them. -/
theorem total_filter (map : Assoc Key Value) (keep : Key → Value → Bool) (amount : Value → Nat) :
    (map.filter keep).total amount =
      (map.entries.map fun entry => if keep entry.1 entry.2 then amount entry.2 else 0).sum := by
  simp only [total, filter]
  induction map.entries with
  | nil => rfl
  | cons head rest ih =>
    cases kept : keep head.1 head.2 with
    | true => simp [kept, ih]
    | false => simp [kept, ih]

theorem total_filter_eq (map : Assoc Key Value) (keep : Key → Value → Bool)
    (amount share : Value → Nat)
    (agrees : ∀ entry ∈ map.entries,
      share entry.2 = if keep entry.1 entry.2 then amount entry.2 else 0) :
    (map.filter keep).total amount = map.total share := by
  rw [total_filter, total]
  exact congrArg List.sum (List.map_congr_left agrees).symm

variable [DecidableEq Key]

theorem get?_erase (map : Assoc Key Value) (key other : Key) :
    (map.erase key).get? other = if other = key then none else map.get? other := by
  by_cases same : other = key
  · simp [same]
  · simp [same]

theorem get?_insert (map : Assoc Key Value) (key other : Key) (value : Value) :
    (map.insert key value).get? other = if other = key then some value else map.get? other := by
  by_cases same : other = key
  · simp [same]
  · simp [same]

theorem get?_modify (map : Assoc Key Value) (key other : Key) (change : Value → Value) :
    (map.modify key change).get? other =
      (map.get? other).map fun value => if other = key then change value else value := by
  rw [modify, get?_mapValues]

theorem modify_modify (map : Assoc Key Value) (key : Key) (first second : Value → Value) :
    (map.modify key first).modify key second =
      map.modify key fun value => second (first value) := by
  simp only [modify, mapValues_mapValues]
  congr 1
  funext other value
  by_cases same : other = key
  · simp only [if_pos same]
  · simp only [if_neg same]

/-- A change that leaves the value of the key as it is leaves the map as it is. -/
theorem modify_eq_self {map : Assoc Key Value} {key : Key} {change : Value → Value}
    (same : ∀ value, map.get? key = some value → change value = value) :
    map.modify key change = map := by
  apply ext
  refine (List.map_congr_left fun entry inside => ?_).trans (List.map_id _)
  dsimp only
  split
  · next here =>
    subst here
    rw [same entry.2 (get?_of_mem inside), id]
  · rfl

theorem insert_eq_self {map : Assoc Key Value} {key : Key} {value : Value}
    (found : map.get? key = some value) : map.insert key value = map := by
  rw [insert, dif_neg (by simp [found])]
  exact modify_eq_self fun old there => Option.some.inj (found.symm.trans there)

theorem contains_insert (map : Assoc Key Value) (key other : Key) (value : Value) :
    (map.insert key value).contains other = (decide (other = key) || map.contains other) := by
  rw [contains, get?_insert]
  by_cases same : other = key
  · simp [same]
  · simp [same, contains]

theorem contains_modify (map : Assoc Key Value) (key other : Key) (change : Value → Value) :
    (map.modify key change).contains other = map.contains other := by
  rw [contains, get?_modify, Option.isSome_map, contains]

/-- A key has at most one entry. -/
theorem flatMap_entries {α : Type} (map : Assoc Key Value) (key : Key)
    (items : Value → List α) :
    (map.entries.flatMap fun entry => if entry.1 = key then items entry.2 else []) =
      (map.get? key).elim [] items := by
  obtain ⟨entries, distinct⟩ := map
  simp only [get?]
  induction entries with
  | nil => rfl
  | cons head rest ih =>
    rw [List.map_cons, List.nodup_cons] at distinct
    by_cases same : head.1 = key
    · have nothing : (rest.flatMap fun entry => if entry.1 = key then items entry.2 else []) =
          [] := by
        rw [List.flatMap_eq_nil_iff]
        intro entry inside
        refine if_neg fun again => distinct.1 ?_
        exact (again.trans same.symm) ▸ List.mem_map_of_mem inside
      simp [same, nothing]
    · simpa [same] using ih distinct.2

theorem size_eq_zero {map : Assoc Key Value} (nothing : ∀ key, map.get? key = none) :
    map.size = 0 := by
  rw [size, List.length_eq_zero_iff, List.eq_nil_iff_forall_not_mem]
  intro entry inside
  have found := get?_of_mem inside
  rw [nothing] at found
  cases found

/-- What is at a key is missing from a total when the key is erased. -/
theorem total_erase_add (map : Assoc Key Value) (key : Key) (amount : Value → Nat) :
    (map.erase key).total amount + ((map.get? key).map amount).getD 0 = map.total amount := by
  obtain ⟨entries, distinct⟩ := map
  simp only [total, erase, filter, get?]
  induction entries with
  | nil => rfl
  | cons head rest ih =>
    rw [List.map_cons, List.nodup_cons] at distinct
    have tail := ih distinct.2
    by_cases same : head.1 = key
    · -- The key occurs only here, so that the rest of the entries stays as it is.
      have absent : (rest.find? fun entry => decide (entry.1 = key)) = none := by
        rw [List.find?_eq_none]
        intro entry inside found
        have again : entry.1 = head.1 := (of_decide_eq_true found).trans same.symm
        exact distinct.1 (again ▸ List.mem_map_of_mem inside)
      simp only [absent, Option.map_none, Option.getD_none, Nat.add_zero] at tail
      simpa [same, Nat.add_comm] using tail
    · simp [same, ← tail, Nat.add_assoc]

theorem le_total_of_get? {map : Assoc Key Value} {key : Key} {value : Value}
    (amount : Value → Nat) (found : map.get? key = some value) :
    amount value ≤ map.total amount := by
  have parts := map.total_erase_add key amount
  rw [found] at parts
  exact parts ▸ Nat.le_add_left _ _

theorem erase_modify (map : Assoc Key Value) (key : Key) (change : Value → Value) :
    (map.modify key change).erase key = map.erase key := by
  apply ext
  simp only [erase, modify, mapValues, filter, List.filter_map]
  -- The entry that changes is the one that is left out.
  refine (List.map_congr_left ?_).trans (List.map_id _)
  intro entry inside
  have apart : entry.1 ≠ key := by simpa using (List.mem_filter.1 inside).2
  simp [apart]

theorem erase_insert (map : Assoc Key Value) (key : Key) (value : Value) :
    (map.insert key value).erase key = map.erase key := by
  unfold insert
  split
  · apply ext
    simp [erase, filter]
  · exact erase_modify map key _

theorem total_insert (map : Assoc Key Value) (key : Key) (value : Value) (amount : Value → Nat) :
    (map.insert key value).total amount = (map.erase key).total amount + amount value := by
  have parts := (map.insert key value).total_erase_add key amount
  rw [erase_insert, get?_insert_self] at parts
  exact parts.symm

theorem total_insert_new {map : Assoc Key Value} {key : Key} (absent : map.get? key = none)
    (value : Value) (amount : Value → Nat) :
    (map.insert key value).total amount = map.total amount + amount value := by
  have parts := map.total_erase_add key amount
  rw [absent, Option.map_none, Option.getD_none, Nat.add_zero] at parts
  rw [total_insert, parts]

theorem total_erase_found {map : Assoc Key Value} {key : Key} {value : Value}
    (found : map.get? key = some value) (amount : Value → Nat) :
    (map.erase key).total amount + amount value = map.total amount := by
  have parts := map.total_erase_add key amount
  rwa [found, Option.map_some, Option.getD_some] at parts

/-- A total as a sum over keys, if no other key counts anything. -/
theorem total_eq_sum (map : Assoc Key Value) (amount : Value → Nat) {keys : List Key}
    (distinct : keys.Nodup)
    (covers : ∀ key value, map.get? key = some value → amount value ≠ 0 → key ∈ keys) :
    map.total amount = (keys.map fun key => ((map.get? key).map amount).getD 0).sum := by
  induction keys generalizing map with
  | nil =>
    apply total_eq_zero
    intro entry inside
    by_contra counts
    exact List.not_mem_nil (covers entry.1 entry.2 (get?_of_mem inside) counts)
  | cons first rest ih =>
    rw [List.nodup_cons] at distinct
    have tail := ih (map.erase first) distinct.2 fun key value found counts => by
      rw [get?_erase] at found
      split at found
      · cases found
      · next apart => exact List.mem_of_ne_of_mem apart (covers key value found counts)
    have same : (rest.map fun key => (((map.erase first).get? key).map amount).getD 0) =
        rest.map fun key => ((map.get? key).map amount).getD 0 := by
      refine List.map_congr_left fun key inside => ?_
      have apart : key ≠ first := fun same => distinct.1 (same ▸ inside)
      rw [get?_erase, if_neg apart]
    rw [← map.total_erase_add first amount, tail, same, List.map_cons, List.sum_cons, Nat.add_comm]

/-- A total grows with what it counts at every key. -/
theorem total_le_total {first second : Assoc Key Value} {amount : Value → Nat}
    (le : ∀ key, ((first.get? key).map amount).getD 0 ≤ ((second.get? key).map amount).getD 0) :
    first.total amount ≤ second.total amount := by
  have distinct : (first.keys ++ second.keys).dedup.Nodup := List.nodup_dedup _
  have present {map : Assoc Key Value} {key : Key} {value : Value}
      (found : map.get? key = some value) : key ∈ map.keys :=
    List.mem_map_of_mem (mem_of_get? found)
  rw [first.total_eq_sum amount distinct fun key value found _ =>
      List.mem_dedup.2 (List.mem_append_left _ (present found)),
    second.total_eq_sum amount distinct fun key value found _ =>
      List.mem_dedup.2 (List.mem_append_right _ (present found))]
  exact List.sum_le_sum fun key _ => le key

/-- The order of the entries does not matter. -/
theorem total_of_get? {first second : Assoc Key Value}
    (same : ∀ key, first.get? key = second.get? key) (amount : Value → Nat) :
    first.total amount = second.total amount :=
  Nat.le_antisymm (total_le_total fun key => same key ▸ Nat.le_refl _)
    (total_le_total fun key => same key ▸ Nat.le_refl _)

/-! ### Counts -/

/-- How many values of a map pass a test. -/
def count (map : Assoc Key Value) (test : Value → Bool) : Nat := map.values.countP test

omit [DecidableEq Key] in
theorem count_eq_total (map : Assoc Key Value) (test : Value → Bool) :
    map.count test = map.total fun value => (test value).toNat := by
  simp only [count, values, total]
  induction map.entries with
  | nil => rfl
  | cons head rest ih =>
    cases passes : test head.2 with
    | true => simp [passes, ih, Nat.add_comm]
    | false => simp [passes, ih]

omit [DecidableEq Key] in
theorem size_eq_count (map : Assoc Key Value) : map.size = map.count fun _ => true := by
  simp [size, count, values]

theorem count_insert_new {map : Assoc Key Value} {key : Key} (absent : map.get? key = none)
    (value : Value) (test : Value → Bool) :
    (map.insert key value).count test = map.count test + (test value).toNat := by
  rw [count_eq_total, count_eq_total, total_insert_new absent]

theorem count_erase_add {map : Assoc Key Value} {key : Key} {value : Value}
    (found : map.get? key = some value) (test : Value → Bool) :
    (map.erase key).count test + (test value).toNat = map.count test := by
  rw [count_eq_total, count_eq_total, ← total_erase_found found]

theorem count_insert_add {map : Assoc Key Value} {key : Key} {old : Value}
    (found : map.get? key = some old) (value : Value) (test : Value → Bool) :
    (map.insert key value).count test + (test old).toNat =
      map.count test + (test value).toNat := by
  have apart := count_erase_add found test
  have again := count_erase_add (map.get?_insert_self key value) test
  rw [erase_insert] at again
  omega

end Steward.Assoc
