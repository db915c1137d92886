/-
This file shows that items and members are read one after another up to the bracket behind them.
-/
import HostBridge.Proofs.Escapes

namespace HostBridge.Json

/-- A character that may stand inside a number. -/
def isNumeric (c : Char) : Bool :=
  Decimal.isDigit c || isExponentMark c || c = '.' || c = '+' || c = '-'

/-- Nothing at the beginning of a text goes on with a number that stands before it. -/
def Detached (rest : List Char) : Prop := ∀ c ∈ rest.head?, isNumeric c = false

theorem detached_cons {c : Char} (other : isNumeric c = false) (rest : List Char) :
    Detached (c :: rest) := by
  intro d head
  obtain rfl : c = d := by simpa using head
  exact other

/-- A value may be followed by blanks. -/
theorem Blanks.detached {text rest : List Char} (blanks : Blanks text rest)
    (detached : Detached rest) : Detached text := by
  obtain ⟨_ | ⟨c, others⟩, known, rfl⟩ := blanks
  · exact detached
  · have blank : ((c = ' ' ∨ c = '\t') ∨ c = '\n') ∨ c = '\r' := by
      simpa [isBlank] using known c (by simp)
    rcases blank with ((rfl | rfl) | rfl) | rfl <;> exact detached_cons (by decide) _

/-- A number literal ends where nothing goes on with it. -/
theorem Numeral.ends_of_detached (numeral : Numeral) {rest : List Char}
    (detached : Detached rest) : numeral.Ends rest := by
  have other : ∀ c ∈ rest.head?, Decimal.isDigit c = false ∧ isExponentMark c = false ∧ c ≠ '.' := by
    intro c head
    have known := detached c head
    simp only [isNumeric, Bool.or_eq_false_iff, decide_eq_false_iff_not] at known
    exact ⟨known.1.1.1.1, known.1.1.1.2, known.1.1.2⟩
  refine ⟨⟨?_, fun _ c head => (other c head).2.1⟩, fun _ _ c head => (other c head).2.2⟩
  cases rest with
  | nil => rfl
  | cons c rest => exact (other c rfl).1

/-- A reader accepts an element where one stands. No element begins with a blank. -/
structure Accepts (accept element : Part) : Prop where
  sound : ∀ {text rest}, accept (skipBlanks text) rest → element (skipBlanks text) rest
  complete : ∀ {text rest}, element text rest → Detached rest → accept text rest
  filled : ∀ {text rest}, element text rest → skipBlanks text = text
  shorter : ∀ {text rest}, element text rest → rest.length < text.length

section Lists

/-- How elements are read one after another. The first argument bounds their number, and the second
tells whether none has been read yet. -/
structure ReadsList (leaves : Nat → Bool → Part) (accept : Part) (close : Char) : Prop where
  none : ∀ first text rest, ¬ leaves 0 first text rest
  first : ∀ bound text rest, leaves (bound + 1) true text rest ↔
    skipBlanks text = close :: rest ∨
      ∃ behind, accept (skipBlanks text) behind ∧ leaves bound false behind rest
  later : ∀ bound text rest, leaves (bound + 1) false text rest ↔
    skipBlanks text = close :: rest ∨
      ∃ others behind, skipBlanks text = ',' :: others ∧ accept (skipBlanks others) behind ∧
        leaves bound false behind rest

variable {leaves : Nat → Bool → Part} {accept element : Part} {close : Char}

/-- Behind an item stands the closing bracket or a comma with more items. -/
theorem ReadsList.sound_later (list : ReadsList leaves accept close)
    (accepts : Accepts accept element) {bound : Nat} {text rest : List Char}
    (left : leaves bound false text rest) :
    Blanks text (close :: rest) ∨
      ∃ others, Blanks text (',' :: others) ∧ Elements element close others rest := by
  induction bound generalizing text with
  | zero => exact (list.none _ _ _ left).elim
  | succ bound ih =>
      rcases (list.later ..).mp left with closed | ⟨others, behind, comma, accepted, more⟩
      · exact .inl (closed ▸ blanks_skipBlanks text)
      · refine .inr ⟨others, comma ▸ blanks_skipBlanks text, ?_⟩
        have stands := accepts.sound accepted
        rcases ih more with closed | ⟨later, comma, elements⟩
        · exact .last (blanks_skipBlanks others) stands closed
        · exact .more (blanks_skipBlanks others) stands comma elements

/-- What is read as a list stands between its brackets. -/
theorem ReadsList.sound (list : ReadsList leaves accept close)
    (accepts : Accepts accept element) {bound : Nat} {text rest : List Char}
    (left : leaves bound true text rest) : Enclosed element close text rest := by
  obtain _ | bound := bound
  · exact (list.none _ _ _ left).elim
  · rcases (list.first ..).mp left with closed | ⟨behind, accepted, more⟩
    · exact .inl (closed ▸ blanks_skipBlanks text)
    · have stands := accepts.sound accepted
      rcases list.sound_later accepts more with closed | ⟨others, comma, elements⟩
      · exact .inr (.last (blanks_skipBlanks text) stands closed)
      · exact .inr (.more (blanks_skipBlanks text) stands comma elements)

/-- Closing brackets are no blanks, and nothing before them goes on with them. -/
theorem closing (closes : close = ']' ∨ close = '\x7d') :
    isBlank close = false ∧ ∀ rest, Detached (close :: rest) := by
  rcases closes with rfl | rfl <;> exact ⟨rfl, detached_cons (by decide)⟩

/-- Elements are read one after the other up to the closing bracket. -/
theorem ReadsList.complete_elements (list : ReadsList leaves accept close)
    (accepts : Accepts accept element) (closes : close = ']' ∨ close = '\x7d')
    {text rest : List Char}
    (elements : Elements element close text rest) {bound : Nat} (enough : text.length ≤ bound) :
    ∃ behind, accept (skipBlanks text) behind ∧ leaves bound false behind rest := by
  obtain ⟨solid, ends⟩ := closing closes
  induction elements generalizing bound with
  | @last text start behind rest blanks stands closed =>
      have sizes := blanks.length_le
      have shorter := accepts.shorter stands
      obtain ⟨bound, rfl⟩ := Nat.exists_eq_succ_of_ne_zero (n := bound) (by omega)
      refine ⟨behind, ?_, (list.later ..).mpr (.inl (closed.skipped (skipBlanks_cons solid rest)))⟩
      rw [blanks.skipped (accepts.filled stands)]
      exact accepts.complete stands (closed.detached (ends rest))
  | @more text start behind others rest blanks stands comma _ ih =>
      have sizes := blanks.length_le
      have shorter := accepts.shorter stands
      have left := comma.length_le
      rw [List.length_cons] at left
      obtain ⟨bound, rfl⟩ := Nat.exists_eq_succ_of_ne_zero (n := bound) (by omega)
      refine ⟨behind, ?_, (list.later ..).mpr (.inr ?_)⟩
      · rw [blanks.skipped (accepts.filled stands)]
        exact accepts.complete stands (comma.detached (detached_cons (by decide) others))
      · have enough : others.length ≤ bound := by omega
        obtain ⟨later, accepted, more⟩ := ih enough
        exact ⟨others, later, comma.skipped (skipBlanks_cons rfl others), accepted, more⟩

/-- What stands between brackets is read as a list. -/
theorem ReadsList.complete (list : ReadsList leaves accept close)
    (accepts : Accepts accept element) (closes : close = ']' ∨ close = '\x7d')
    {text rest : List Char}
    (enclosed : Enclosed element close text rest) {bound : Nat} (enough : text.length < bound) :
    leaves bound true text rest := by
  obtain ⟨bound, rfl⟩ := Nat.exists_eq_succ_of_ne_zero (Nat.ne_zero_of_lt enough)
  refine (list.first ..).mpr (enclosed.imp ?_ ?_)
  · exact fun closed => closed.skipped (skipBlanks_cons (closing closes).1 rest)
  · exact fun elements =>
      list.complete_elements accepts closes elements (Nat.le_of_lt_succ enough)

end Lists

section Reader

variable {read : List Char → Scan Json} {value : Part}

/-- One scan after the other succeeds when both do. -/
theorem leaves_pair {A B C : Type} (scan : Except Stop (A × List Char))
    (next : List Char → Except Stop (B × List Char)) (make : A → B → C) (rest : List Char) :
    Leaves (do
        let (first, behind) ← scan
        let (second, rest) ← next behind
        return (make first second, rest) : Except Stop (C × List Char)) rest ↔
      ∃ behind, Leaves scan behind ∧ Leaves (next behind) rest := by
  obtain _ | ⟨first, behind⟩ := scan
  · simp [Leaves, bind, Except.bind]
  · cases found : next behind with
    | error stop => simp [Leaves, bind, Except.bind, found]
    | ok read =>
        obtain ⟨second, others⟩ := read
        simp [Leaves, bind, Except.bind, pure, Except.pure, found]

/-- The items of an array are read as a list. -/
theorem readItems_list (nothing : ∀ rest, ¬ Leaves (read []) rest) :
    ReadsList (fun bound first text rest => Leaves (readItems read bound first text) rest)
      (fun text rest => text.head? ≠ some ']' ∧ Leaves (read text) rest) ']' where
  none first text rest := by simp [readItems, stopAt]
  first bound text rest := by
    rw [readItems]
    cases skipBlanks text with
    | nil => simp [nothing, stopAfter]
    | cons c text =>
        by_cases closed : c = ']'
        · simp [closed]
        · have items := leaves_pair (read (c :: text)) (readItems read bound false) List.cons rest
          simpa [closed] using items
  later bound text rest := by
    rw [readItems]
    cases skipBlanks text with
    | nil => simp [stopAfter]
    | cons c text =>
        by_cases closed : c = ']'
        · simp [closed]
        · by_cases comma : c = ','
          · subst comma
            cases left : skipBlanks text with
            | nil => simp [left, nothing, stopAfter]
            | cons d others =>
                by_cases trailing : d = ']'
                · simp [left, trailing, stopAfter]
                · have items :=
                    leaves_pair (read (d :: others)) (readItems read bound false) List.cons rest
                  simpa [left, trailing] using items
          · simp [closed, comma, stopAfter]

/-- The text stands before the quote of a key. -/
def AcceptsMember (read : List Char → Scan Json) : Part := fun text rest =>
  ∃ key behind colon, text = '"' :: key ∧ Leaves (scanString key) behind ∧
    readColon behind = .ok colon ∧ Leaves (read colon) rest

/-- A member is read when its value is accepted and the rest is read. -/
theorem leaves_member {A B : Type} (read : List Char → Scan Json) (key : List Char)
    (next : List Char → Except Stop (B × List Char)) (make : String → Json → B → A) (rest : List Char) :
    Leaves (do
        let (key, behind) ← scanString key
        let colon ← readColon behind
        let (head, behind) ← read colon
        let (tail, rest) ← next behind
        return (make key head tail, rest) : Except Stop (A × List Char)) rest ↔
      ∃ behind, AcceptsMember read ('"' :: key) behind ∧ Leaves (next behind) rest := by
  cases scanned : scanString key with
  | error stop => simp [AcceptsMember, scanned, Leaves, bind, Except.bind]
  | ok known =>
      obtain ⟨name, behind⟩ := known
      cases found : readColon behind with
      | error stop => simp [AcceptsMember, scanned, found, Leaves, bind, Except.bind]
      | ok colon =>
          have pair := leaves_pair (read colon) next (make name) rest
          simpa [AcceptsMember, scanned, found, bind, Except.bind] using pair

/-- A colon is read where it stands behind blanks. -/
theorem readColon_eq_ok_iff {text rest : List Char} :
    readColon text = .ok rest ↔ Blanks text (':' :: rest) := by
  constructor
  · intro found
    unfold readColon at found
    split at found
    · cases found
    · next c others skipped =>
        split at found
        · next colon =>
            obtain rfl : others = rest := by simpa using found
            exact colon ▸ skipped ▸ blanks_skipBlanks text
        · cases found
  · intro blanks
    rw [readColon, blanks.skipped (skipBlanks_cons rfl rest)]
    rfl

/-- The members of an object are read as a list. -/
theorem readMembers_list :
    ReadsList (fun bound first text rest => Leaves (readMembers read bound first text) rest)
      (AcceptsMember read) '\x7d' where
  none first text rest := by simp [readMembers, stopAt]
  first bound text rest := by
    rw [readMembers]
    cases skipBlanks text with
    | nil => simp [AcceptsMember, stopAfter]
    | cons c text =>
        by_cases closed : c = '\x7d'
        · simp [closed, AcceptsMember]
        · by_cases quote : c = '"'
          · have members := leaves_member read text (readMembers read bound false)
              (fun key head tail => (key, head) :: tail) rest
            subst quote
            simpa using members
          · simp [closed, quote, AcceptsMember, stopAfter]
  later bound text rest := by
    rw [readMembers]
    cases skipBlanks text with
    | nil => simp [stopAfter]
    | cons c text =>
        by_cases closed : c = '\x7d'
        · simp [closed]
        · by_cases comma : c = ','
          · subst comma
            cases left : skipBlanks text with
            | nil => simp [left, AcceptsMember, stopAfter]
            | cons d others =>
                by_cases quote : d = '"'
                · have members := leaves_member read others (readMembers read bound false)
                    (fun key head tail => (key, head) :: tail) rest
                  subst quote
                  simpa [left] using members
                · by_cases trailing : d = '\x7d' <;>
                    simp [left, quote, trailing, AcceptsMember, stopAfter]
          · simp [closed, comma, stopAfter]

end Reader

end HostBridge.Json
