/-
This file shows that the members of an object are told from its text in one way.
-/
import HostBridge.Proofs.Written

namespace HostBridge.Json

open Text

/-- Blanks end at the first other character. -/
theorem Blanks.unique {text first second : List Char} {c d : Char}
    (one : Blanks text (c :: first)) (two : Blanks text (d :: second))
    (left : isBlank c = false) (right : isBlank d = false) : c = d ∧ first = second := by
  have same := (one.skipped (skipBlanks_cons left first)).symm.trans
    (two.skipped (skipBlanks_cons right second))
  exact List.cons.inj same

section Numbers

theorem Numeral.numeric_text (numeral : Numeral) : ∀ c ∈ numeral.text, isNumeric c = true := by
  have digits (digits : Digits) : ∀ c ∈ digits.text, isNumeric c = true := by
    intro c member
    simp [isNumeric, digits.known c member]
  obtain ⟨negative, whole, plain, fraction, exponent⟩ := numeral
  intro c member
  simp only [text, unsignedText, List.mem_append] at member
  rcases member with sign | inside | point | scale
  · obtain ⟨-, rfl⟩ : negative = true ∧ c = '-' := by simpa using sign
    decide
  · exact digits whole c inside
  · cases fraction with
    | none => cases point
    | some fraction =>
        rcases List.mem_cons.mp point with rfl | inside
        · decide
        · exact digits fraction c inside
  · cases exponent with
    | none => cases scale
    | some exponent =>
        rcases List.mem_cons.mp scale with rfl | inside
        · simp [isNumeric, exponent.marks]
        · rcases List.mem_append.mp inside with sign | inside
          · rcases exponent.signs c (by simpa using sign) with rfl | rfl <;> decide
          · exact digits exponent.digits c inside

/-- A number literal ends in one place. -/
theorem Numeral.unique {one two : Numeral} {first second : List Char}
    (same : one.text ++ first = two.text ++ second) (left : Detached first)
    (right : Detached second) : first = second := by
  have rest (numeral : Numeral) {rest : List Char} (detached : Detached rest) :
      (numeral.text ++ rest).dropWhile isNumeric = rest := by
    rw [List.dropWhile_append_of_pos numeral.numeric_text]
    cases rest with
    | nil => rfl
    | cons c rest => simp [detached c rfl]
  rw [← rest one left, same, rest two right]

end Numbers

section Strings

/-- Four hexadecimal digits end in one place. -/
theorem Hex.unique {one two : Nat} {text first second : List Char} (left : Hex one text first)
    (right : Hex two text second) : first = second := by
  obtain ⟨a, b, c, d, -, rfl⟩ := left
  obtain ⟨e, f, g, h, -, same⟩ := right
  simp only [List.cons.injEq] at same
  exact same.2.2.2.2

/-- A string ends in one place. -/
theorem Characters.unique {text first second : List Char}
    (one : Characters Dialect.all.code text first) (two : Characters Dialect.all.code text second) :
    first = second := by
  have noCode : (plainEscape? 'u').isSome = false := rfl
  induction one generalizing second with
  | close =>
      cases two with
      | close => rfl
      | plain noQuote => exact absurd rfl noQuote
  | plain noQuote noBackslash _ _ ih =>
      cases two with
      | close => exact absurd rfl noQuote
      | plain _ _ _ others => exact ih others
      | escape => exact absurd rfl noBackslash
      | numeric => exact absurd rfl noBackslash
  | escape plain _ ih =>
      cases two with
      | plain _ noBackslash => exact absurd rfl noBackslash
      | escape _ others => exact ih others
      | numeric => simp [noCode] at plain
  | numeric code _ ih =>
      obtain ⟨value, hex⟩ := code
      cases two with
      | plain _ noBackslash => exact absurd rfl noBackslash
      | escape plain => simp [noCode] at plain
      | numeric code others =>
          obtain ⟨other, same⟩ := code
          obtain rfl := hex.unique same
          exact ih others

end Strings

section Lists

/-- Two readings of a part end in the same place. -/
def Meet (one two : Part) : Prop :=
  ∀ ⦃text first second⦄, one text first → two text second → Detached first → Detached second →
    first = second

/-- Two readings of an element say the same and end in the same place. -/
def Agree {A : Type} (one two : A → Part) : Prop :=
  ∀ ⦃a b text first second⦄, one a text first → two b text second → Detached first →
    Detached second → a = b ∧ first = second

theorem Meet.agree {one two : Part} (meet : Meet one two) :
    Agree (fun _ : Unit => one) fun _ => two :=
  fun _ _ _ _ _ stands reads detached other => ⟨rfl, meet stands reads detached other⟩

/-- A part begins with a character that is neither a blank nor a bracket that closes. -/
def Opens (part : Part) : Prop :=
  ∀ ⦃text rest⦄, part text rest →
    ∃ c others, text = c :: others ∧ isBlank c = false ∧ c ≠ ']' ∧ c ≠ '\x7d'

/-- Blanks are skipped up to where a part begins. -/
theorem Opens.skipped {part : Part} (opens : Opens part) {text start rest : List Char}
    (blanks : Blanks text start) (stands : part start rest) : skipBlanks text = start := by
  obtain ⟨c, others, rfl, filled, -⟩ := opens stands
  exact blanks.skipped (skipBlanks_cons filled others)

section Readings

variable {A : Type} {one two : A → Part} {close : Char} {all others : List A}
  {text first second : List Char}
  (agree : Agree one two) (left : ∀ a, Opens (one a)) (right : ∀ a, Opens (two a))

include agree left right

/-- The first elements of two lists agree, with what stands behind them. -/
theorem Agree.head {a b : A} {start other behind beyond rest others : List Char} {c d : Char}
    (blanks : Blanks text start) (stands : one a start behind) (ends : Blanks behind (c :: rest))
    (spaces : Blanks text other) (reads : two b other beyond) (stops : Blanks beyond (d :: others))
    (closing : isBlank c = false ∧ ∀ rest, Detached (c :: rest))
    (stopping : isBlank d = false ∧ ∀ rest, Detached (d :: rest)) :
    a = b ∧ c = d ∧ rest = others := by
  have same := ((left a).skipped blanks stands).symm.trans ((right b).skipped spaces reads)
  subst same
  obtain ⟨said, rfl⟩ :=
    agree stands reads (ends.detached (closing.2 _)) (stops.detached (stopping.2 _))
  exact ⟨said, ends.unique stops closing.1 stopping.1⟩

/-- Elements are listed in one way, by induction over the list. -/
theorem Listed.unique (closes : close = ']' ∨ close = '\x7d')
    (listed : Listed one close all text first) (again : Listed two close others text second) :
    all = others ∧ first = second := by
  have comma : isBlank ',' = false ∧ ∀ rest, Detached (',' :: rest) :=
    ⟨rfl, detached_cons (by decide)⟩
  have bracket := closing closes
  have different : close ≠ ',' := by rcases closes with rfl | rfl <;> decide
  induction listed generalizing others second with
  | last blanks stands ends =>
      cases again with
      | last spaces reads stops =>
          obtain ⟨rfl, -, rfl⟩ :=
            agree.head left right blanks stands ends spaces reads stops bracket bracket
          exact ⟨rfl, rfl⟩
      | more spaces reads stops =>
          obtain ⟨-, same, -⟩ :=
            agree.head left right blanks stands ends spaces reads stops bracket comma
          exact absurd same different
  | more blanks stands ends _ ih =>
      cases again with
      | last spaces reads stops =>
          obtain ⟨-, same, -⟩ :=
            agree.head left right blanks stands ends spaces reads stops comma bracket
          exact absurd same.symm different
      | more spaces reads stops listed =>
          obtain ⟨rfl, -, rfl⟩ :=
            agree.head left right blanks stands ends spaces reads stops comma comma
          obtain ⟨rfl, rfl⟩ := ih listed
          exact ⟨rfl, rfl⟩

end Readings

/-- A list does not begin with the bracket that closes it. -/
theorem Elements.not_closed {element : Part} (opens : Opens element) {close : Char}
    (closes : close = ']' ∨ close = '\x7d') {text first second : List Char}
    (elements : Elements element close text first) : ¬ Blanks text (close :: second) := by
  intro closed
  obtain ⟨start, behind, blanks, stands⟩ :
      ∃ start behind, Blanks text start ∧ element start behind := by
    cases elements with
    | last blanks stands => exact ⟨_, _, blanks, stands⟩
    | more blanks stands => exact ⟨_, _, blanks, stands⟩
  have same := (opens.skipped blanks stands).symm.trans
    (closed.skipped (skipBlanks_cons (closing closes).1 second))
  obtain ⟨c, others, rfl, -, noBracket, noBrace⟩ := opens stands
  obtain ⟨rfl, -⟩ := List.cons.inj same
  exact closes.elim noBracket noBrace

/-- What is enclosed ends at the first bracket that closes it. -/
theorem Enclosed.unique {one two : Part} (meet : Meet one two) (left : Opens one)
    (right : Opens two) {close : Char} (closes : close = ']' ∨ close = '\x7d')
    {text first second : List Char} (enclosed : Enclosed one close text first)
    (again : Enclosed two close text second) : first = second := by
  have solid := (closing closes).1
  rcases enclosed with closed | elements <;> rcases again with stopped | others
  · exact (closed.unique stopped solid solid).2
  · exact absurd closed (others.not_closed right closes)
  · exact absurd stopped (elements.not_closed left closes)
  · obtain ⟨_, listed⟩ := elements.listed
    obtain ⟨_, again⟩ := others.listed
    exact (listed.unique meet.agree (fun _ => left) (fun _ => right) closes again).2

end Lists

section Values

/-- A value begins with no blank and no closing bracket. -/
theorem opens_value (dialect : Dialect) (depth : Nat) : Opens (Value dialect depth) :=
  fun _ _ => exists_value

/-- A member begins with its quotation mark. -/
theorem opens_member (code value : Part) : Opens (Member code value) := by
  rintro _ _ ⟨⟩
  exact ⟨'"', _, rfl, rfl, by decide⟩

/-- Members end in one place if their values do. -/
theorem Meet.member {one two : Part} (meet : Meet one two) (left : Opens one)
    (right : Opens two) :
    Meet (Member Dialect.all.code one) (Member Dialect.all.code two) := by
  rintro _ first second ⟨key, colon, blanks, stands⟩ ⟨name, mark, spaces, reads⟩ detached other
  obtain rfl := key.unique name
  obtain ⟨-, rfl⟩ := colon.unique mark rfl rfl
  obtain rfl := (left.skipped blanks stands).symm.trans (right.skipped spaces reads)
  exact meet stands reads detached other

/-- What stands behind the first character of a value. -/
def Begun (depth : Nat) (c : Char) : Part := fun others rest =>
  if c = 'n' then others = "ull".toList ++ rest
  else if c = 't' then others = "rue".toList ++ rest
  else if c = 'f' then others = "alse".toList ++ rest
  else if c = '"' then Characters Dialect.all.code others rest
  else if c = '[' then ∃ inner, depth = inner + 1 ∧ Enclosed (Value .all inner) ']' others rest
  else if c = '\x7b' then ∃ inner, depth = inner + 1 ∧
    Enclosed (Member Dialect.all.code (Value .all inner)) '\x7d' others rest
  else ∃ numeral : Numeral, c :: others = numeral.text ++ rest

/-- A value is told by its first character. -/
theorem begun_of_value {depth : Nat} {c : Char} {others rest : List Char}
    (stands : Value .all depth (c :: others) rest) : Begun depth c others rest := by
  generalize whole : c :: others = text at stands
  rcases value_iff.mp stands with scalar | ⟨inner, rfl, nest⟩
  · cases scalar with
    | null =>
        obtain ⟨rfl, rfl⟩ : c = 'n' ∧ others = "ull".toList ++ rest := List.cons.inj whole
        simp [Begun]
    | true =>
        obtain ⟨rfl, rfl⟩ : c = 't' ∧ others = "rue".toList ++ rest := List.cons.inj whole
        simp [Begun]
    | false =>
        obtain ⟨rfl, rfl⟩ : c = 'f' ∧ others = "alse".toList ++ rest := List.cons.inj whole
        simp [Begun]
    | string characters =>
        obtain ⟨rfl, rfl⟩ := List.cons.inj whole
        simpa [Begun] using characters
    | number numeral =>
        obtain ⟨d, digits, same, begins⟩ := numeral.exists_text rest
        obtain ⟨rfl, rfl⟩ := List.cons.inj (whole.trans same)
        have other {d : Char} (known : d ≠ '-' ∧ Decimal.isDigit d = false) : c ≠ d :=
          ne_of_numeral begins known
        simp only [Begun, other (d := 'n') (by decide), other (d := 't') (by decide),
          other (d := 'f') (by decide), other (d := '"') (by decide), other (d := '[') (by decide),
          other (d := '\x7b') (by decide), if_false]
        exact ⟨numeral, whole⟩
  · cases nest with
    | array enclosed | object enclosed =>
        obtain ⟨rfl, rfl⟩ := List.cons.inj whole
        simpa [Begun] using enclosed

/-- A value ends in one place, however deep it is read. -/
theorem meet_value (depth other : Nat) : Meet (Value .all depth) (Value .all other) := by
  induction depth using Nat.strong_induction_on generalizing other with
  | _ depth ih =>
      intro text first second stands reads detached beyond
      obtain ⟨c, others, rfl, -⟩ := exists_value stands
      have one := begun_of_value stands
      have two := begun_of_value reads
      unfold Begun at one two
      split_ifs at one two
      · exact List.append_cancel_left (one.symm.trans two)
      · exact List.append_cancel_left (one.symm.trans two)
      · exact List.append_cancel_left (one.symm.trans two)
      · exact one.unique two
      · obtain ⟨inner, rfl, enclosed⟩ := one
        obtain ⟨nested, rfl, again⟩ := two
        exact enclosed.unique (ih inner (Nat.lt_succ_self inner) nested) (opens_value ..)
          (opens_value ..) (.inl rfl) again
      · obtain ⟨inner, rfl, enclosed⟩ := one
        obtain ⟨nested, rfl, again⟩ := two
        have meet := ih inner (Nat.lt_succ_self inner) nested
        exact enclosed.unique (meet.member (opens_value ..) (opens_value ..)) (opens_member ..)
          (opens_member ..) (.inr rfl) again
      · obtain ⟨one, same⟩ := one
        obtain ⟨two, again⟩ := two
        exact Numeral.unique (same.symm.trans again) detached beyond

end Values

section Objects

theorem opens_field (depth : Nat) (field : Field) : Opens (field.Stands depth) :=
  fun _ _ stands => opens_member _ _ stands.member

/-- A field is told from its text in one way. -/
theorem agree_field (depth other : Nat) : Agree (Field.Stands depth) (Field.Stands other) := by
  rintro ⟨key, value⟩ ⟨name, content⟩ text first second ⟨behind, colon, rfl, characters, mark,
    blanks, stands⟩ ⟨beyond, start, same, symbols, point, spaces, reads⟩ detached ends
  simp only at *
  obtain ⟨-, same⟩ := List.cons.inj same
  obtain rfl := characters.unique (same ▸ symbols)
  obtain rfl := List.append_cancel_right same
  obtain ⟨-, rfl⟩ := mark.unique point rfl rfl
  have whole : value ++ first = content ++ second :=
    ((opens_value ..).skipped blanks stands).symm.trans ((opens_value ..).skipped spaces reads)
  obtain rfl := meet_value depth other stands (whole ▸ reads) detached ends
  obtain rfl := List.append_cancel_right whole
  exact ⟨rfl, rfl⟩

/-- A text is that of one object at most. -/
theorem IsObject.unique {text : String} {fields others : List Field}
    (object : IsObject text fields) (again : IsObject text others) : fields = others := by
  obtain ⟨depth, inside, behind, blanks, members, -⟩ := object
  obtain ⟨other, content, beyond, spaces, fellows, -⟩ := again
  obtain ⟨-, rfl⟩ := blanks.unique spaces rfl rfl
  have closed {depth : Nat} {fields : List Field} {first second : List Char}
      (listed : Listed (Field.Stands depth) '\x7d' fields inside first) :
      ¬ Blanks inside ('\x7d' :: second) :=
    listed.members.not_closed (opens_member ..) (.inr rfl)
  rcases members with ⟨rfl, empty⟩ | listed <;> rcases fellows with ⟨rfl, nothing⟩ | more
  · rfl
  · exact absurd empty (closed more)
  · exact absurd nothing (closed listed)
  · exact (listed.unique (agree_field depth other) (opens_field depth) (opens_field other)
      (.inr rfl) more).1

/-- The text of an object shows its members and no others. -/
theorem isObject_text (members : List (String × Json)) :
    IsObject (Json.object members).text (members.map Field.ofMember) := by
  obtain ⟨depth, known⟩ := exists_isValue_members members
  refine ⟨depth, (separated "," (memberTexts members)).toList ++ ['\x7d'], [], ?_, ?_, .refl _⟩
  · rw [toList_object]
    exact .refl _
  · rw [memberTexts_eq_map]
    cases members with
    | nil => exact .inl ⟨rfl, .refl _⟩
    | cons first others =>
        have stands : ∀ member ∈ first :: others, ∀ rest, (Field.ofMember member).Stands depth
            ((memberText member).toList ++ rest) rest :=
          fun member among => stands_memberText (known member among)
        exact .inr (listed_separated (Field.Stands depth) _ Field.ofMember memberText stands [])

end Objects

end HostBridge.Json
