/-
This file shows that a table holds one entry for each of its keys, and that its keys do not disturb
each other.
-/
import HostBridge.Table
import Mathlib.Data.List.Nodup

namespace HostBridge

variable {Key Entry : Type} [DecidableEq Key]

/-- Nothing is found exactly under the keys that are not there. -/
theorem Table.lookup?_eq_none_iff (table : Table Key Entry) (key : Key) :
    table.lookup? key = none ↔ key ∉ table.keys := by
  induction table with
  | nil => simp [lookup?, keys]
  | cons pair rest ih =>
      obtain ⟨first, entry⟩ := pair
      by_cases same : first = key
      · simp [lookup?, keys, same]
      · simpa [lookup?, keys, same, Ne.symm same] using ih

theorem Table.mem_of_lookup? {table : Table Key Entry} {key : Key} {entry : Entry}
    (found : table.lookup? key = some entry) : (key, entry) ∈ table := by
  induction table with
  | nil => simp [lookup?] at found
  | cons pair rest ih =>
      obtain ⟨first, known⟩ := pair
      by_cases same : first = key
      · simp only [lookup?, same, if_true, Option.some.injEq] at found
        simp [same, found]
      · simp only [lookup?, same, if_false] at found
        exact List.mem_cons_of_mem _ (ih found)

/-- No entry hides behind another one of the same key. -/
theorem Table.lookup?_eq_some_iff {table : Table Key Entry} (distinct : table.keys.Nodup)
    (key : Key) (entry : Entry) : table.lookup? key = some entry ↔ (key, entry) ∈ table := by
  constructor
  · exact mem_of_lookup?
  · intro member
    induction table with
    | nil => simp at member
    | cons pair rest ih =>
        obtain ⟨first, known⟩ := pair
        obtain ⟨fresh, distinct⟩ := List.nodup_cons.mp distinct
        rcases List.mem_cons.mp member with here | there
        · cases here
          simp [lookup?]
        · have different : first ≠ key := by
            intro same
            exact fresh (same ▸ List.mem_map.mpr ⟨(key, entry), there, rfl⟩)
          simpa [lookup?, different] using ih distinct there

/-- A table is its keys with what they stand for. -/
theorem Table.eq_map_keys {table : Table Key Entry} (distinct : table.keys.Nodup) (f : Key → Entry)
    (known : ∀ key ∈ table.keys, table.lookup? key = some (f key)) :
    table = table.keys.map fun key => (key, f key) := by
  have same : table.map (fun pair => (pair.1, f pair.1)) = table.map id := by
    apply List.map_congr_left
    rintro ⟨key, entry⟩ member
    have found := known key (List.mem_map_of_mem member)
    rw [(lookup?_eq_some_iff distinct key entry).mpr member] at found
    rw [← Option.some.inj found]
    rfl
  rw [keys, List.map_map]
  exact (same.trans (List.map_id table)).symm

/-- A table keeps its keys apart when an entry is put in. -/
theorem Table.nodup_put {table : Table Key Entry} (distinct : table.keys.Nodup) (key : Key)
    (entry : Entry) : (table.put key entry).keys.Nodup := by
  rw [keys_put]
  split
  · exact distinct
  · next fresh => exact List.Nodup.append distinct (List.nodup_singleton key) (by simpa using fresh)

/-- A table keeps its keys apart when an entry is removed. -/
theorem Table.nodup_remove {table : Table Key Entry} (distinct : table.keys.Nodup) (key : Key) :
    (table.remove key).keys.Nodup := by
  rw [keys_remove]
  exact distinct.erase key

/-- A removed key is gone, since no second entry has it. -/
theorem Table.lookup?_remove {table : Table Key Entry} (distinct : table.keys.Nodup)
    (key wanted : Key) :
    (table.remove key).lookup? wanted =
      if key = wanted then none else table.lookup? wanted := by
  induction table with
  | nil => simp [remove, lookup?]
  | cons pair rest ih =>
      obtain ⟨first, entry⟩ := pair
      obtain ⟨fresh, distinct⟩ := List.nodup_cons.mp distinct
      by_cases same : first = key
      · subst same
        by_cases found : first = wanted
        · subst found
          simpa [remove] using (lookup?_eq_none_iff rest first).mpr fresh
        · simp [remove, lookup?, found]
      · by_cases found : first = wanted
        · subst found
          simp [remove, lookup?, same, Ne.symm same]
        · simp [remove, lookup?, same, found, ih distinct]

theorem Table.mem_of_put {table : Table Key Entry} {key : Key}
    {entry : Entry} {pair : Key × Entry} (member : pair ∈ table.put key entry) :
    pair ∈ table ∨ pair = (key, entry) := by
  induction table with
  | nil => exact .inr (List.mem_singleton.mp member)
  | cons first rest ih =>
      obtain ⟨known, old⟩ := first
      by_cases same : known = key
      · rw [put, if_pos same, same] at member
        rcases List.mem_cons.mp member with here | there
        · exact .inr here
        · exact .inl (List.mem_cons_of_mem _ there)
      · rw [put, if_neg same] at member
        rcases List.mem_cons.mp member with here | there
        · exact .inl (here ▸ List.mem_cons_self ..)
        · exact (ih there).imp_left (List.mem_cons_of_mem _)

theorem Table.mem_of_remove {table : Table Key Entry} {key : Key}
    {pair : Key × Entry} (member : pair ∈ table.remove key) : pair ∈ table := by
  induction table with
  | nil => exact member
  | cons first rest ih =>
      obtain ⟨known, old⟩ := first
      by_cases same : known = key
      · rw [remove, if_pos same] at member
        exact List.mem_cons_of_mem _ member
      · rw [remove, if_neg same] at member
        rcases List.mem_cons.mp member with here | there
        · exact here ▸ List.mem_cons_self ..
        · exact List.mem_cons_of_mem _ (ih there)

section Others

/-- The entries of the other keys. -/
def Table.without (table : Table Key Entry) (key : Key) : Table Key Entry :=
  table.filter fun entry => entry.1 ≠ key

theorem Table.without_put_self (table : Table Key Entry) (key : Key) (entry : Entry) :
    Table.without (table.put key entry) key = table.without key := by
  induction table with
  | nil => simp [put, without]
  | cons pair rest ih =>
      obtain ⟨first, known⟩ := pair
      by_cases same : first = key
      · simp [put, without, same]
      · simpa [put, without, same] using ih

/-- An entry of another key is put in before the key is left out or afterwards. -/
theorem Table.without_put (table : Table Key Entry) {key other : Key} (different : other ≠ key)
    (entry : Entry) :
    Table.without (table.put other entry) key = Table.put (table.without key) other entry := by
  induction table with
  | nil => simp [put, without, different]
  | cons pair rest ih =>
      obtain ⟨first, known⟩ := pair
      by_cases same : first = other
      · simp [put, without, same, different]
      · by_cases hidden : first = key
        · simpa [put, without, hidden, Ne.symm different] using ih
        · simpa [put, without, same, hidden] using ih

theorem Table.without_remove_self (table : Table Key Entry) (key : Key) :
    Table.without (table.remove key) key = table.without key := by
  induction table with
  | nil => rfl
  | cons pair rest ih =>
      obtain ⟨first, known⟩ := pair
      by_cases same : first = key
      · simp [remove, without, same]
      · simpa [remove, without, same] using ih

/-- An entry of another key is removed before the key is left out or afterwards. -/
theorem Table.without_remove (table : Table Key Entry) {key other : Key} (different : other ≠ key) :
    Table.without (table.remove other) key = Table.remove (table.without key) other := by
  induction table with
  | nil => rfl
  | cons pair rest ih =>
      obtain ⟨first, known⟩ := pair
      by_cases same : first = other
      · simp [remove, without, same, different]
      · by_cases hidden : first = key
        · simpa [remove, without, hidden, Ne.symm different] using ih
        · simpa [remove, without, same, hidden] using ih

/-- Other keys are found when a key is left out. -/
theorem Table.lookup?_without (table : Table Key Entry) {key other : Key}
    (different : other ≠ key) : Table.lookup? (table.without key) other = table.lookup? other := by
  induction table with
  | nil => rfl
  | cons pair rest ih =>
      obtain ⟨first, known⟩ := pair
      by_cases same : first = other
      · simp [lookup?, without, same, different]
      · by_cases hidden : first = key
        · simpa [lookup?, without, hidden, Ne.symm different] using ih
        · simpa [lookup?, without, same, hidden] using ih

end Others

end HostBridge
