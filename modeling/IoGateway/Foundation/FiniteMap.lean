import Mathlib.Data.Finmap

/-! # Finite maps

Non-dependent finite maps on Mathlib's `Finmap`, with the lookup equations in
conditional form and a filter.
-/

namespace IoGateway

abbrev FiniteMap (Key : Type u) (Value : Type v) := Finmap fun _ : Key => Value

namespace FiniteMap

variable {Key : Type u} {Value : Type v}

def filter (keep : Key → Value → Bool) (map : FiniteMap Key Value) :
    FiniteMap Key Value where
  entries := map.entries.filter fun entry => keep entry.1 entry.2
  nodupKeys := by
    have nodup := map.nodupKeys
    rw [← Multiset.nodup_keys] at nodup ⊢
    exact Multiset.nodup_of_le
      (Multiset.map_le_map (Multiset.filter_le _ _)) nodup

/-- The values of the entries, in no particular order. -/
def values (map : FiniteMap Key Value) : Multiset Value :=
  map.entries.map fun entry => entry.2

variable [DecidableEq Key]

theorem lookup_insert (map : FiniteMap Key Value) (key other : Key) (value : Value) :
    (map.insert key value).lookup other =
      if other = key then some value else map.lookup other := by
  by_cases equal : other = key
  · subst equal
    simp
  · simp [equal, Finmap.lookup_insert_of_ne]

theorem lookup_erase (map : FiniteMap Key Value) (key other : Key) :
    (map.erase key).lookup other = if other = key then none else map.lookup other := by
  by_cases equal : other = key
  · subst equal
    simp
  · simp [equal, Finmap.lookup_erase_ne]

theorem lookup_of_erase {map : FiniteMap Key Value} {key other : Key} {value : Value}
    (found : (map.erase key).lookup other = some value) :
    other ≠ key ∧ map.lookup other = some value := by
  rw [lookup_erase] at found
  split at found
  · cases found
  · rename_i different
    exact ⟨different, found⟩

theorem lookup_filter_eq_some (keep : Key → Value → Bool) (map : FiniteMap Key Value)
    (key : Key) (value : Value) :
    (filter keep map).lookup key = some value ↔
      map.lookup key = some value ∧ keep key value = true := by
  simp [Finmap.lookup_eq_some_iff, filter, Multiset.mem_filter]

theorem mem_values (map : FiniteMap Key Value) (value : Value) :
    value ∈ values map ↔ ∃ key, map.lookup key = some value := by
  simp only [values, Multiset.mem_map, Finmap.lookup_eq_some_iff]
  constructor
  · intro found
    rcases found with ⟨⟨key, stored⟩, member, equal⟩
    exact ⟨key, equal ▸ member⟩
  · intro found
    rcases found with ⟨key, member⟩
    exact ⟨⟨key, value⟩, member, rfl⟩

theorem eq_empty_iff (map : FiniteMap Key Value) :
    map = ∅ ↔ ∀ key, map.lookup key = none := by
  constructor
  · intro equal key
    rw [equal, Finmap.lookup_empty]
  · intro absent
    apply Finmap.ext_lookup
    intro key
    rw [absent key, Finmap.lookup_empty]

def size (map : FiniteMap Key Value) : Nat := map.keys.card

theorem size_erase_le (map : FiniteMap Key Value) (key : Key) :
    size (map.erase key) ≤ size map := by
  rw [size, Finmap.keys_erase]
  exact Finset.card_erase_le

theorem size_erase_lt {map : FiniteMap Key Value} {key : Key} {value : Value}
    (found : map.lookup key = some value) : size (map.erase key) < size map := by
  rw [size, Finmap.keys_erase]
  apply Finset.card_erase_lt_of_mem
  rw [Finmap.mem_keys, ← Finmap.lookup_isSome, found, Option.isSome_some]

theorem size_insert_le (map : FiniteMap Key Value) (key : Key) (value : Value) :
    size (map.insert key value) ≤ size map + 1 := by
  refine Nat.le_trans (Finset.card_le_card fun other member => ?_)
    (Finset.card_insert_le key map.keys)
  rw [Finmap.mem_keys, Finmap.mem_insert] at member
  rw [Finset.mem_insert, Finmap.mem_keys]
  exact member

end FiniteMap

end IoGateway
