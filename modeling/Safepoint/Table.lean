/-!
# Tables

Finite maps from keys to values, kept as a list of entries in order of insertion with one entry
for each key.  The central statements give the value found under each key after an insertion and
after an erasure.
-/

namespace Safepoint

/-- A finite map whose entries stand in order of insertion. -/
structure Table (Key Value : Type) where
  /-- Keys with their values, oldest first. -/
  entries : List (Key × Value)
  /-- No key has two entries. -/
  keys_nodup : (entries.map Prod.fst).Nodup

namespace Table

variable {Key Value : Type} [DecidableEq Key]

/-- The table without entries. -/
def empty : Table Key Value where
  entries := []
  keys_nodup := List.nodup_nil

instance : Inhabited (Table Key Value) where
  default := empty

/-- All keys, oldest first. -/
def keys (table : Table Key Value) : List Key := table.entries.map Prod.fst

/-- All values, oldest first. -/
def values (table : Table Key Value) : List Value := table.entries.map Prod.snd

/-- Number of entries. -/
def size (table : Table Key Value) : Nat := table.entries.length

/-- The value under a key, if the table has one. -/
def get? (table : Table Key Value) (key : Key) : Option Value :=
  (table.entries.find? fun entry => entry.1 = key).map Prod.snd

/-- Whether the table has a value under a key. -/
def has (table : Table Key Value) (key : Key) : Bool := (table.get? key).isSome

/-- The table without the entry for `key`. -/
def erase (table : Table Key Value) (key : Key) : Table Key Value where
  entries := table.entries.filter fun entry => entry.1 ≠ key
  keys_nodup := table.keys_nodup.sublist (List.filter_sublist.map Prod.fst)

/-- The table with `value` under `key`, in place of whatever was there. -/
def insert (table : Table Key Value) (key : Key) (value : Value) : Table Key Value where
  entries := (table.erase key).entries ++ [(key, value)]
  keys_nodup := by
    rw [List.map_append, List.nodup_append]
    refine ⟨(table.erase key).keys_nodup, by simp, ?_⟩
    intro found found_mem other other_mem found_eq
    simp only [List.map_cons, List.map_nil, List.mem_singleton] at other_mem
    obtain ⟨entry, entry_mem, rfl⟩ := List.mem_map.mp found_mem
    have kept := (List.mem_filter.mp entry_mem).2
    simp [found_eq, other_mem] at kept

theorem get?_eq_some_iff {table : Table Key Value} {key : Key} {value : Value} :
    table.get? key = some value ↔ (key, value) ∈ table.entries := by
  obtain ⟨entries, keys_nodup⟩ := table
  simp only [get?]
  induction entries with
  | nil => simp
  | cons entry entries ih =>
      have tail_nodup := (List.nodup_cons.mp keys_nodup).2
      have fresh := (List.nodup_cons.mp keys_nodup).1
      by_cases same : entry.1 = key
      · subst same
        rw [List.find?_cons_of_pos (by simp)]
        constructor
        · intro value_eq
          simp only [Option.map_some, Option.some.injEq] at value_eq
          subst value_eq
          exact List.mem_cons_self
        · intro found
          rcases List.mem_cons.mp found with head | tail
          · exact congrArg some (congrArg Prod.snd head).symm
          · exact absurd (List.mem_map_of_mem (f := Prod.fst) tail) fresh
      · rw [List.find?_cons_of_neg (by simpa using same), ih tail_nodup, List.mem_cons]
        constructor
        · exact Or.inr
        · rintro (head | tail)
          · exact absurd (congrArg Prod.fst head).symm same
          · exact tail

theorem get?_erase (table : Table Key Value) (key other : Key) :
    (table.erase key).get? other = if other = key then none else table.get? other := by
  apply Option.ext
  intro value
  rw [get?_eq_some_iff]
  by_cases same : other = key
  · simp [erase, same]
  · simp [erase, same, get?_eq_some_iff]

theorem get?_insert (table : Table Key Value) (key other : Key) (value : Value) :
    (table.insert key value).get? other = if other = key then some value else table.get? other := by
  apply Option.ext
  intro found
  rw [get?_eq_some_iff]
  by_cases same : other = key
  · simp [insert, erase, same, eq_comm]
  · simp [insert, erase, same, get?_eq_some_iff]

@[simp]
theorem get?_erase_self (table : Table Key Value) (key : Key) :
    (table.erase key).get? key = none := by
  simp [get?_erase]

@[simp]
theorem get?_insert_self (table : Table Key Value) (key : Key) (value : Value) :
    (table.insert key value).get? key = some value := by
  simp [get?_insert]

theorem get?_eq_none_iff {table : Table Key Value} {key : Key} :
    table.get? key = none ↔ ∀ entry ∈ table.entries, entry.1 ≠ key := by
  rw [Option.eq_none_iff_forall_ne_some]
  constructor
  · rintro absent ⟨found, value⟩ entry_mem rfl
    exact absent value (get?_eq_some_iff.mpr entry_mem)
  · intro keys_ne value found
    exact keys_ne (key, value) (get?_eq_some_iff.mp found) rfl

theorem mem_keys_iff {table : Table Key Value} {key : Key} :
    key ∈ table.keys ↔ table.get? key ≠ none := by
  rw [keys, List.mem_map, Option.ne_none_iff_exists']
  constructor
  · rintro ⟨entry, entry_mem, rfl⟩
    exact ⟨entry.2, get?_eq_some_iff.mpr entry_mem⟩
  · rintro ⟨value, found⟩
    exact ⟨(key, value), get?_eq_some_iff.mp found, rfl⟩

theorem has_eq_false_iff {table : Table Key Value} {key : Key} :
    table.has key = false ↔ ∀ entry ∈ table.entries, entry.1 ≠ key := by
  rw [has, Option.isSome_eq_false_iff, Option.isNone_iff_eq_none, get?_eq_none_iff]

theorem erase_of_not_has {table : Table Key Value} {key : Key} (absent : table.has key = false) :
    table.erase key = table := by
  have entries_eq : (table.erase key).entries = table.entries :=
    List.filter_eq_self.mpr fun entry entry_mem => by
      simpa using has_eq_false_iff.mp absent entry entry_mem
  cases table
  simpa [erase] using entries_eq

theorem entries_insert_of_not_has {table : Table Key Value} {key : Key} (value : Value)
    (absent : table.has key = false) :
    (table.insert key value).entries = table.entries ++ [(key, value)] := by
  have entries_eq : (table.erase key).entries = table.entries := by
    rw [erase_of_not_has absent]
  exact congrArg (· ++ [(key, value)]) entries_eq

@[simp]
theorem get?_empty (key : Key) : (empty : Table Key Value).get? key = none := rfl

end Table

end Safepoint
