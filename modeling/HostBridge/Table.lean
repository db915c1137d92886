/-
This file defines tables whose entries keep the order of their first insertion.
-/

namespace HostBridge

/-- A table is the list of its entries, the oldest key first. -/
abbrev Table (Key Entry : Type) := List (Key × Entry)

variable {Key Entry : Type} [DecidableEq Key]

def Table.keys (table : Table Key Entry) : List Key := table.map Prod.fst

def Table.lookup? : Table Key Entry → Key → Option Entry
  | [], _ => none
  | (key, entry) :: rest, wanted =>
      if key = wanted then some entry else Table.lookup? rest wanted

def Table.contains (table : Table Key Entry) (wanted : Key) : Bool :=
  (table.lookup? wanted).isSome

/-- A known key keeps its place and a new key goes to the end. -/
def Table.put : Table Key Entry → Key → Entry → Table Key Entry
  | [], wanted, value => [(wanted, value)]
  | (key, entry) :: rest, wanted, value =>
      if key = wanted then (key, value) :: rest
      else (key, entry) :: Table.put rest wanted value

/-- The other entries keep their order. -/
def Table.remove : Table Key Entry → Key → Table Key Entry
  | [], _ => []
  | (key, entry) :: rest, wanted =>
      if key = wanted then rest else (key, entry) :: Table.remove rest wanted

/-- An entry is put into the table and the one that it replaces is handed back. -/
def Table.exchange : Table Key Entry → Key → Entry → Table Key Entry × Option Entry
  | [], wanted, value => ([(wanted, value)], none)
  | (key, entry) :: rest, wanted, value =>
      if key = wanted then ((key, value) :: rest, some entry)
      else
        let (others, old) := Table.exchange rest wanted value
        ((key, entry) :: others, old)

/-- An entry is removed and handed back. -/
def Table.withdraw : Table Key Entry → Key → Table Key Entry × Option Entry
  | [], _ => ([], none)
  | (key, entry) :: rest, wanted =>
      if key = wanted then (rest, some entry)
      else
        let (others, old) := Table.withdraw rest wanted
        ((key, entry) :: others, old)

/-- Later pairs replace the entries of earlier ones. -/
def Table.ofPairs (pairs : List (Key × Entry)) : Table Key Entry :=
  pairs.foldl (fun table pair => Table.put table pair.1 pair.2) []

theorem Table.lookup?_put (table : Table Key Entry) (key wanted : Key) (value : Entry) :
    (table.put key value).lookup? wanted =
      if key = wanted then some value else table.lookup? wanted := by
  induction table with
  | nil => simp [put, lookup?]
  | cons pair rest ih =>
      obtain ⟨first, entry⟩ := pair
      by_cases same : first = key
      · subst same
        by_cases found : first = wanted <;> simp [put, lookup?, found]
      · by_cases found : first = wanted
        · subst found
          simp [put, lookup?, same, Ne.symm same]
        · simp [put, lookup?, same, found, ih]

theorem Table.keys_put (table : Table Key Entry) (key : Key) (value : Entry) :
    (table.put key value).keys =
      if key ∈ table.keys then table.keys else table.keys ++ [key] := by
  induction table with
  | nil => simp [put, keys]
  | cons pair rest ih =>
      obtain ⟨first, entry⟩ := pair
      by_cases same : first = key
      · simp [put, keys, same]
      · simp only [put, same, if_false]
        simp only [keys, List.map_cons] at ih ⊢
        rw [ih]
        by_cases member : key ∈ List.map Prod.fst rest <;> simp [member, Ne.symm same]

theorem Table.keys_remove (table : Table Key Entry) (key : Key) :
    (table.remove key).keys = table.keys.erase key := by
  induction table with
  | nil => rfl
  | cons pair rest ih =>
      obtain ⟨first, entry⟩ := pair
      by_cases same : first = key
      · simp [remove, keys, same]
      · simp only [remove, same, if_false]
        simp only [keys, List.map_cons] at ih ⊢
        rw [ih, List.erase_cons_tail (by simpa using same)]

theorem Table.exchange_eq (table : Table Key Entry) (key : Key) (value : Entry) :
    table.exchange key value = (table.put key value, table.lookup? key) := by
  induction table with
  | nil => rfl
  | cons pair rest ih =>
      obtain ⟨first, entry⟩ := pair
      by_cases same : first = key
      · simp [exchange, put, lookup?, same]
      · simp [exchange, put, lookup?, same, ih]

theorem Table.withdraw_eq (table : Table Key Entry) (key : Key) :
    table.withdraw key = (table.remove key, table.lookup? key) := by
  induction table with
  | nil => rfl
  | cons pair rest ih =>
      obtain ⟨first, entry⟩ := pair
      by_cases same : first = key
      · simp [withdraw, remove, lookup?, same]
      · simp [withdraw, remove, lookup?, same, ih]

end HostBridge
