/-! Finite maps in the order of first insertion. No key occurs twice, so a sum over the
entries counts each key once. -/

set_option autoImplicit false

namespace Steward

universe u v

/-- A finite map from keys to values. -/
structure Assoc (Key : Type u) (Value : Type v) where
  entries : List (Key × Value)
  distinct : (entries.map Prod.fst).Nodup

namespace Assoc

variable {Key : Type u} {Value : Type v}

@[ext] theorem ext {first second : Assoc Key Value} (same : first.entries = second.entries) :
    first = second := by
  cases first
  cases second
  cases same
  rfl

def empty : Assoc Key Value := ⟨[], List.Pairwise.nil⟩

instance : EmptyCollection (Assoc Key Value) := ⟨empty⟩

instance : Inhabited (Assoc Key Value) := ⟨empty⟩

def keys (map : Assoc Key Value) : List Key := map.entries.map Prod.fst

def values (map : Assoc Key Value) : List Value := map.entries.map Prod.snd

def size (map : Assoc Key Value) : Nat := map.entries.length

/-- Keep the entries that pass a test. -/
def filter (map : Assoc Key Value) (keep : Key → Value → Bool) : Assoc Key Value :=
  ⟨map.entries.filter fun entry => keep entry.1 entry.2,
    (List.filter_sublist.map Prod.fst).nodup map.distinct⟩

theorem keys_map_values (entries : List (Key × Value)) (transform : Key → Value → Value) :
    (entries.map fun entry => (entry.1, transform entry.1 entry.2)).map Prod.fst =
      entries.map Prod.fst := by
  simp [List.map_map, Function.comp_def]

/-- Replace every value, knowing its key. -/
def mapValues (map : Assoc Key Value) (transform : Key → Value → Value) : Assoc Key Value :=
  ⟨map.entries.map fun entry => (entry.1, transform entry.1 entry.2), by
    rw [keys_map_values]
    exact map.distinct⟩

variable [DecidableEq Key]

def get? (map : Assoc Key Value) (key : Key) : Option Value :=
  (map.entries.find? fun entry => entry.1 = key).map Prod.snd

def contains (map : Assoc Key Value) (key : Key) : Bool := (map.get? key).isSome

def getD (map : Assoc Key Value) (key : Key) (default : Value) : Value :=
  (map.get? key).getD default

def erase (map : Assoc Key Value) (key : Key) : Assoc Key Value :=
  map.filter fun other _ => other ≠ key

/-- Change the value of a key that is present; do nothing for one that is absent. -/
def modify (map : Assoc Key Value) (key : Key) (change : Value → Value) : Assoc Key Value :=
  map.mapValues fun other value => if other = key then change value else value

theorem get?_eq_none_iff {map : Assoc Key Value} {key : Key} :
    map.get? key = none ↔ key ∉ map.keys := by
  simp only [get?, keys, Option.map_eq_none_iff, List.find?_eq_none, decide_eq_true_eq,
    List.mem_map,
    not_exists, not_and]

theorem nodup_append_absent {map : Assoc Key Value} {key : Key} (value : Value)
    (absent : map.get? key = none) :
    ((map.entries ++ [(key, value)]).map Prod.fst).Nodup := by
  rw [List.map_append, List.nodup_append]
  refine ⟨map.distinct, by simp, ?_⟩
  intro first inside second last same
  simp only [List.map_cons, List.map_nil, List.mem_singleton] at last
  subst last
  subst same
  exact get?_eq_none_iff.1 absent inside

/-- Set the value of a key; a new key goes to the end. -/
def insert (map : Assoc Key Value) (key : Key) (value : Value) : Assoc Key Value :=
  if absent : map.get? key = none then
    ⟨map.entries ++ [(key, value)], nodup_append_absent value absent⟩
  else map.modify key fun _ => value

theorem mem_of_get? {map : Assoc Key Value} {key : Key} {value : Value}
    (found : map.get? key = some value) : (key, value) ∈ map.entries := by
  obtain ⟨entry, located, rfl⟩ := Option.map_eq_some_iff.1 found
  have same := List.find?_some located
  have inside := List.mem_of_find?_eq_some located
  simp only [decide_eq_true_eq] at same
  exact same ▸ inside

theorem get?_of_mem {map : Assoc Key Value} {key : Key} {value : Value}
    (inside : (key, value) ∈ map.entries) : map.get? key = some value := by
  obtain ⟨entries, distinct⟩ := map
  simp only [get?] at *
  induction entries with
  | nil => simp at inside
  | cons head rest ih =>
    rw [List.map_cons, List.nodup_cons] at distinct
    by_cases same : head.1 = key
    · rcases List.mem_cons.1 inside with rfl | later
      · simp
      · exact absurd (same ▸ List.mem_map_of_mem later) distinct.1
    · rcases List.mem_cons.1 inside with rfl | later
      · exact absurd rfl same
      · simpa [List.find?_cons, same] using ih distinct.2 later

theorem get?_eq_some_iff {map : Assoc Key Value} {key : Key} {value : Value} :
    map.get? key = some value ↔ (key, value) ∈ map.entries :=
  ⟨mem_of_get?, get?_of_mem⟩

@[simp] theorem get?_empty (key : Key) : (empty : Assoc Key Value).get? key = none := rfl

theorem get?_filter (map : Assoc Key Value) (keep : Key → Value → Bool) (key : Key) :
    (map.filter keep).get? key = (map.get? key).filter (keep key) := by
  apply Option.ext
  intro value
  rw [get?_eq_some_iff, Option.filter_eq_some_iff, get?_eq_some_iff]
  simp [filter]

theorem get?_mapValues (map : Assoc Key Value) (transform : Key → Value → Value) (key : Key) :
    (map.mapValues transform).get? key = (map.get? key).map (transform key) := by
  apply Option.ext
  intro value
  rw [get?_eq_some_iff, Option.map_eq_some_iff]
  simp only [get?_eq_some_iff, mapValues, List.mem_map]
  constructor
  · rintro ⟨⟨other, old⟩, inside, same⟩
    cases same
    exact ⟨old, inside, rfl⟩
  · rintro ⟨old, inside, rfl⟩
    exact ⟨(key, old), inside, rfl⟩

@[simp] theorem get?_erase_self (map : Assoc Key Value) (key : Key) :
    (map.erase key).get? key = none := by
  simp [erase, get?_filter]

@[simp] theorem get?_erase_of_ne (map : Assoc Key Value) {key other : Key} (apart : other ≠ key) :
    (map.erase key).get? other = map.get? other := by
  cases found : map.get? other <;> simp [erase, get?_filter, found, apart]

@[simp] theorem get?_modify_self (map : Assoc Key Value) (key : Key) (change : Value → Value) :
    (map.modify key change).get? key = (map.get? key).map change := by
  simp [modify, get?_mapValues]

@[simp] theorem get?_modify_of_ne (map : Assoc Key Value) {key other : Key} (apart : other ≠ key)
    (change : Value → Value) : (map.modify key change).get? other = map.get? other := by
  simp [modify, get?_mapValues, apart]

@[simp] theorem get?_insert_self (map : Assoc Key Value) (key : Key) (value : Value) :
    (map.insert key value).get? key = some value := by
  unfold insert
  split
  · exact get?_of_mem (by simp)
  · next present =>
    obtain ⟨old, found⟩ := Option.ne_none_iff_exists'.1 present
    simp [found]

@[simp] theorem get?_insert_of_ne (map : Assoc Key Value) {key other : Key} (apart : other ≠ key)
    (value : Value) : (map.insert key value).get? other = map.get? other := by
  unfold insert
  split
  · apply Option.ext
    intro found
    simp [get?_eq_some_iff, apart]
  · exact get?_modify_of_ne map apart _

end Assoc

end Steward
