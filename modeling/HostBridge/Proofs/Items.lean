/-
This file shows how the values of a configuration are read from an array.
-/
import HostBridge.Proofs.Member

namespace HostBridge

open Json

/-- The text of a value, as it stands in an array. -/
def Json.Item (depth : Nat) (word : List Char) : Part := fun text rest =>
  text = word ++ rest ∧ Value .all depth text rest

/-- The text of one array with these values. -/
def Json.IsArray (text : String) (words : List (List Char)) : Prop :=
  ∃ depth inside behind, Blanks text.toList ('[' :: inside) ∧
    (words = [] ∧ Blanks inside (']' :: behind) ∨
      Listed (Item depth) ']' words inside behind) ∧
    Blanks behind []

namespace Configuration

/-- What is left of an array. The second argument tells whether none of its values is read yet. -/
inductive Remaining (depth : Nat) : Bool → List (List Char) → Part where
  | closed {first : Bool} {text rest : List Char} : Blanks text (']' :: rest) →
      Remaining depth first [] text rest
  | first {words : List (List Char)} {text rest : List Char} :
      Listed (Item depth) ']' words text rest → Remaining depth true words text rest
  | later {words : List (List Char)} {text others rest : List Char} : Blanks text (',' :: others) →
      Listed (Item depth) ']' words others rest → Remaining depth false words text rest

/-- A value is read, or there is none. -/
def Takes {A : Type} (read : List Char → Scan A) (word : Option (List Char)) (item : Option A) :
    Prop :=
  match word with
  | none => item = none
  | some word => ∃ value, item = some value ∧ read word = .ok (value, [])

section Items

variable {A : Type} {read : List Char → Scan A} {depth : Nat} {text rest : List Char}

/-- A word is taken exactly when there is one. -/
theorem Takes.isNone {word : Option (List Char)} {item : Option A} (takes : Takes read word item) :
    item.isNone = word.isNone := by
  cases word with
  | none =>
      obtain rfl : item = none := takes
      rfl
  | some word =>
      obtain ⟨value, rfl, -⟩ := takes
      rfl

/-- There is no item at the closing bracket. -/
theorem readItem_closed (first : Bool) (read : List Char → Scan A)
    (blanks : Blanks text (']' :: rest)) :
    readItem first read text = .ok (none, ']' :: rest) := by
  rw [readItem, blanks.skipped (skipBlanks_cons rfl rest)]
  rfl

/-- What stands before a value is passed over. -/
theorem readItem_start {first : Bool} {start : List Char} {part : Part} (opens : Opens part)
    {behind : List Char} (stands : part start behind)
    (blanks : first = true ∧ Blanks text start ∨
      first = false ∧ ∃ others, Blanks text (',' :: others) ∧ Blanks others start) :
    readItem first read text = (read start).map fun (value, rest) => (some value, rest) := by
  obtain ⟨c, digits, rfl, solid, noBracket, -⟩ := opens stands
  rcases blanks with ⟨rfl, blanks⟩ | ⟨rfl, others, comma, blanks⟩
  · have skipped := blanks.skipped (skipBlanks_cons solid digits)
    simp [readItem, skipped, noBracket]
  · have skipped := comma.skipped (skipBlanks_cons rfl others)
    have next := blanks.skipped (skipBlanks_cons solid digits)
    simp [readItem, skipped, next, noBracket]

theorem Remaining.nil {first : Bool} (remaining : Remaining depth first [] text rest) :
    Blanks text (']' :: rest) := by
  cases remaining with
  | closed blanks => exact blanks
  | first listed => cases listed
  | later _ listed => cases listed

/-- The first of the values that are listed, with what is left behind it. -/
theorem remaining_of_listed {word : List Char} {words : List (List Char)}
    (listed : Listed (Item depth) ']' (word :: words) text rest) :
    ∃ start behind, Blanks text start ∧ Item depth word start behind ∧ Detached behind ∧
      Remaining depth false words behind rest := by
  cases listed with
  | last blanks stands ends =>
      exact ⟨_, _, blanks, stands, ends.detached (detached_cons (by decide) rest), .closed ends⟩
  | more blanks stands comma listed =>
      exact ⟨_, _, blanks, stands, comma.detached (detached_cons (by decide) _),
        .later comma listed⟩

/-- The next value is read if there is one. -/
theorem readItem_iff {part : A → Part} (reads : Reads read part) {first : Bool}
    {words : List (List Char)} (remaining : Remaining depth first words text rest) :
    ∃ behind, Remaining depth words.head?.isNone words.tail behind rest ∧
      ∀ item beyond, readItem first read text = .ok (item, beyond) ↔
        beyond = behind ∧ Takes read words.head? item := by
  cases words with
  | nil =>
      refine ⟨']' :: rest, .closed (.refl _), fun item beyond => ?_⟩
      rw [readItem_closed first read remaining.nil]
      simp [Takes, eq_comm, and_comm]
  | cons word words =>
      -- What stands before the value depends on its place, and what follows does not.
      obtain ⟨start, behind, ⟨rfl, stands⟩, detached, left, reached⟩ :
          ∃ start behind, Item depth word start behind ∧ Detached behind ∧
            Remaining depth false words behind rest ∧
            readItem first read text =
              (read start).map fun (value, rest) => (some value, rest) := by
        cases remaining with
        | first listed =>
            obtain ⟨start, behind, blanks, stands, detached, left⟩ := remaining_of_listed listed
            exact ⟨start, behind, stands, detached, left,
              readItem_start (opens_value .all depth) stands.2 (.inl ⟨rfl, blanks⟩)⟩
        | later comma listed =>
            obtain ⟨start, behind, blanks, stands, detached, left⟩ := remaining_of_listed listed
            exact ⟨start, behind, stands, detached, left,
              readItem_start (opens_value .all depth) stands.2 (.inr ⟨rfl, _, comma, blanks⟩)⟩
      refine ⟨behind, left, fun item beyond => ?_⟩
      rw [reached, map_pair_eq_ok_iff]
      constructor
      · rintro ⟨value, found, rfl⟩
        obtain ⟨rfl, alone⟩ := (reads.place (.refl _) stands detached).mp found
        exact ⟨rfl, value, rfl, alone⟩
      · rintro ⟨rfl, value, rfl, alone⟩
        exact ⟨value, (reads.place (.refl _) stands detached).mpr ⟨rfl, alone⟩, rfl⟩

theorem readArrayEnd_closed (blanks : Blanks text (']' :: rest)) : readArrayEnd text = .ok rest := by
  rw [readArrayEnd, blanks.skipped (skipBlanks_cons rfl rest)]
  rfl

end Items

/-- The values of an array are those of the members in the order of their declaration. -/
def Draft.OfItems (draft : Draft) (words : List (List Char)) : Prop :=
  Takes readMode words[0]? draft.sentinel ∧ Takes readLimit words[1]? draft.memoryLimit ∧
    Takes readLimit words[2]? draft.maxStackSize ∧ Takes readBoolean words[3]? draft.logScripts

/-- An array of up to four values is read exactly when each one is taken in its place. -/
theorem readArray_iff {depth : Nat} {words : List (List Char)} {text rest : List Char}
    (remaining : Remaining depth true words text rest) (few : words.length ≤ 4) {draft : Draft}
    {behind : List Char} :
    readArray text = .ok (draft, behind) ↔ behind = rest ∧ draft.OfItems words := by
  obtain ⟨first, left, sentinel⟩ := readItem_iff reads_mode remaining
  obtain ⟨second, left, memory⟩ := readItem_iff reads_limit left
  obtain ⟨third, left, stack⟩ := readItem_iff reads_limit left
  obtain ⟨fourth, left, scripts⟩ := readItem_iff reads_boolean left
  have none : words.tail.tail.tail.tail = [] := by
    refine List.length_eq_zero_iff.mp ?_
    simp only [List.length_tail]
    omega
  rw [none] at left
  have ended := readArrayEnd_closed left.nil
  simp only [List.getElem?_tail, List.head?_eq_getElem?] at sentinel memory stack scripts
  constructor
  · intro read
    obtain ⟨⟨mode, _⟩, one, read⟩ := bind_eq_ok_iff.mp read
    obtain ⟨rfl, one⟩ := (sentinel _ _).mp one
    obtain ⟨⟨limit, _⟩, two, read⟩ := bind_eq_ok_iff.mp read
    obtain ⟨rfl, two⟩ := (memory _ _).mp (one.isNone ▸ two)
    obtain ⟨⟨size, _⟩, three, read⟩ := bind_eq_ok_iff.mp read
    obtain ⟨rfl, three⟩ := (stack _ _).mp (two.isNone ▸ three)
    obtain ⟨⟨enabled, _⟩, four, read⟩ := bind_eq_ok_iff.mp read
    obtain ⟨rfl, four⟩ := (scripts _ _).mp (three.isNone ▸ four)
    obtain ⟨after, closed, read⟩ := bind_eq_ok_iff.mp read
    obtain rfl : rest = after := Except.ok.inj (ended.symm.trans closed)
    obtain ⟨rfl, rfl⟩ := Prod.mk.inj (Except.ok.inj read)
    exact ⟨rfl, one, two, three, four⟩
  · rintro ⟨rfl, one, two, three, four⟩
    refine bind_eq_ok_iff.mpr ⟨_, (sentinel _ _).mpr ⟨rfl, one⟩, ?_⟩
    refine bind_eq_ok_iff.mpr ⟨_, one.isNone ▸ (memory _ _).mpr ⟨rfl, two⟩, ?_⟩
    refine bind_eq_ok_iff.mpr ⟨_, two.isNone ▸ (stack _ _).mpr ⟨rfl, three⟩, ?_⟩
    refine bind_eq_ok_iff.mpr ⟨_, three.isNone ▸ (scripts _ _).mpr ⟨rfl, four⟩, ?_⟩
    exact bind_eq_ok_iff.mpr ⟨_, ended, rfl⟩

end Configuration

end HostBridge
