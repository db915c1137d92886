/-
This file shows that every JSON value is passed over, however deep its brackets nest and however
large its numbers are.
-/
import HostBridge.Json.Skipper
import HostBridge.Proofs.Framing
import HostBridge.Proofs.Unambiguous

namespace HostBridge.Json

section Strings

/-- Any escape by a number is passed over, also half of a character. -/
theorem skipEscape_code {text rest : List Char} (code : Dialect.all.code text rest) :
    skipEscape ('u' :: text) = .ok rest := by
  obtain ⟨value, hex⟩ := code
  rw [skipEscape, (scanHex_iff ..).mpr hex]
  rfl

theorem skipEscape_plain {c : Char} (plain : (plainEscape? c).isSome) (rest : List Char) :
    skipEscape (c :: rest) = .ok rest := by
  have other : c ≠ 'u' := by
    rintro rfl
    cases plain
  simp [skipEscape, plain]

/-- The characters of a string are passed over, by induction over them. -/
theorem skipCharacters_of_characters {text rest : List Char}
    (characters : Characters Dialect.all.code text rest) {bound : Nat}
    (enough : text.length < bound) : skipCharacters bound text = .ok rest := by
  induction characters generalizing bound with
  | close =>
      obtain ⟨bound, rfl⟩ := Nat.exists_eq_add_of_le' (Nat.one_le_of_lt enough)
      rfl
  | plain noQuote noBackslash visible _ ih =>
      obtain ⟨bound, rfl⟩ := Nat.exists_eq_add_of_le' (Nat.one_le_of_lt enough)
      simp only [skipCharacters, noQuote, noBackslash, not_lt.mpr visible, if_false]
      exact ih (by simpa using enough)
  | escape plain _ ih =>
      obtain ⟨bound, rfl⟩ := Nat.exists_eq_add_of_le' (Nat.one_le_of_lt enough)
      simp only [List.length_cons] at enough
      rw [skipCharacters, if_neg (by decide), if_pos rfl, skipEscape_plain plain]
      exact ih (by omega)
  | numeric code _ ih =>
      obtain ⟨bound, rfl⟩ := Nat.exists_eq_add_of_le' (Nat.one_le_of_lt enough)
      have shorter := framed_code.length_lt code
      simp only [List.length_cons] at enough
      rw [skipCharacters, if_neg (by decide), if_pos rfl, skipEscape_code code]
      exact ih (by omega)

/-- A string is passed over up to its quotation mark. -/
theorem skipString_of_characters {text rest : List Char}
    (characters : Characters Dialect.all.code text rest) : skipString text = .ok rest :=
  skipCharacters_of_characters characters (Nat.lt_succ_self _)

end Strings

section Numbers

variable {behind : List Char}

/-- An exponent is passed over, however long it is. -/
theorem skipExponent_text (exponent : Exponent) (stops : startsWithDigit behind = false) :
    skipExponent (exponent.sign.toList ++ (exponent.digits.text ++ behind)) = .ok behind := by
  obtain ⟨mark, marks, sign, signs, digits⟩ := exponent
  have left := dropWhile_digits digits.known stops
  obtain ⟨c, others, same⟩ := List.exists_cons_of_ne_nil digits.filled
  have digit := digits.known c (by simp [same])
  have noSign : c ≠ '+' ∧ c ≠ '-' := ⟨ne_of_numeral (.inr digit) (by decide), by
    rintro rfl
    exact absurd digit (by decide)⟩
  rw [same, List.cons_append, List.dropWhile_cons_of_pos digit] at left
  cases sign with
  | none => simp [skipExponent, same, noSign, digit, left]
  | some sign => rcases signs sign rfl with rfl | rfl <;> simp [skipExponent, same, digit, left]

/-- A fraction and its exponent are passed over. -/
theorem skipFraction_text (digits : Digits) {exponent : Option Exponent}
    (ends : EndsScale exponent behind) :
    skipFraction (digits.text ++ (exponentText exponent ++ behind)) = .ok behind := by
  have left := dropWhile_digits digits.known (noDigit_exponentText ends.noDigit exponent)
  obtain ⟨c, others, same⟩ := List.exists_cons_of_ne_nil digits.filled
  have starts : startsWithDigit (digits.text ++ (exponentText exponent ++ behind)) = true := by
    rw [same]
    exact digits.known c (by simp [same])
  rw [skipFraction, if_pos starts, left]
  cases exponent with
  | some exponent =>
      have skipped := skipExponent_text exponent ends.noDigit
      simpa [exponentText, Exponent.text, exponent.marks] using skipped
  | none =>
      cases behind with
      | nil => rfl
      | cons c behind =>
          have noMark := ends.noMark rfl c rfl
          simp [exponentText, noMark]

/-- What stands behind an integer part is passed over. -/
theorem skipAfterWhole_text {numeral : Numeral} (ends : numeral.Ends behind) :
    skipAfterWhole (fractionText numeral.fraction ++ (exponentText numeral.exponent ++ behind)) =
      .ok behind := by
  obtain ⟨negative, whole, plain, fraction, exponent⟩ := numeral
  cases fraction with
  | some digits => exact skipFraction_text digits ends.scale
  | none =>
      cases exponent with
      | some exponent =>
          have noPoint : exponent.mark ≠ '.' := by
            intro same
            exact absurd (same ▸ exponent.marks) (by decide)
          have skipped := skipExponent_text exponent ends.scale.noDigit
          simpa [skipAfterWhole, fractionText, exponentText, Exponent.text, noPoint,
            exponent.marks] using skipped
      | none =>
          cases behind with
          | nil => rfl
          | cons c behind =>
              have noMark := ends.scale.noMark rfl c rfl
              have noPoint := ends.noPoint rfl rfl c rfl
              simp [skipAfterWhole, fractionText, exponentText, noMark, noPoint]

/-- An integer part is passed over, however long it is. -/
theorem skipUnsigned_whole {whole : Digits}
    (plain : whole.text.head? = some '0' → whole.text = ['0'])
    (stops : startsWithDigit behind = false) :
    skipUnsigned (whole.text ++ behind) = skipAfterWhole behind := by
  have left := dropWhile_digits whole.known stops
  obtain ⟨c, others, same⟩ := List.exists_cons_of_ne_nil whole.filled
  have digit := whole.known c (by simp [same])
  by_cases zero : c = '0'
  · have alone : whole.text = ['0'] := plain (by rw [same, zero]; rfl)
    simp [skipUnsigned, alone, stops]
  · rw [same, List.cons_append, List.dropWhile_cons_of_pos digit] at left
    simp [skipUnsigned, same, zero, digit, left]

/-- A literal without its sign is passed over. -/
theorem skipUnsigned_text {numeral : Numeral} (ends : numeral.Ends behind) :
    skipUnsigned (numeral.unsignedText ++ behind) = .ok behind := by
  have stops : startsWithDigit
      (fractionText numeral.fraction ++ (exponentText numeral.exponent ++ behind)) = false := by
    cases numeral.fraction with
    | some digits => rfl
    | none => exact noDigit_exponentText ends.scale.noDigit numeral.exponent
  rw [Numeral.unsignedText, List.append_assoc, List.append_assoc,
    skipUnsigned_whole numeral.plain stops, skipAfterWhole_text ends]

end Numbers

section Lists

/-- How elements are passed over one after another. The first argument bounds their number, and the
second tells whether none has been passed yet. -/
structure PassesList (list : Nat → Bool → List Char → Except Stop (List Char))
    (pass : List Char → Except Stop (List Char)) (close : Char) : Prop where
  closed : ∀ bound first {text rest}, skipBlanks text = close :: rest →
    list (bound + 1) first text = .ok rest
  first : ∀ bound {text c others behind}, skipBlanks text = c :: others → c ≠ close →
    pass text = .ok behind → list (bound + 1) true text = list bound false behind
  later : ∀ bound {text others behind}, skipBlanks text = ',' :: others →
    pass others = .ok behind → list (bound + 1) false text = list bound false behind

/-- Elements in texts that are not too long are passed over. -/
def Passes (limit : Nat) (element : Part) (pass : List Char → Except Stop (List Char)) : Prop :=
  ∀ ⦃text start rest⦄, text.length ≤ limit → Blanks text start → element start rest →
    Detached rest → pass text = .ok rest

variable {list : Nat → Bool → List Char → Except Stop (List Char)}
  {pass : List Char → Except Stop (List Char)} {close : Char} {element : Part} {limit : Nat}

/-- Elements are passed over one after the other up to the closing bracket. -/
theorem PassesList.elements (passesList : PassesList list pass close)
    (passes : Passes limit element pass) (framed : Framed element)
    (closes : close = ']' ∨ close = '\x7d') {text rest : List Char}
    (elements : Elements element close text rest) {bound : Nat} (enough : text.length ≤ bound)
    (short : text.length ≤ limit) :
    ∃ behind, pass text = .ok behind ∧ list bound false behind = .ok rest := by
  obtain ⟨solid, ends⟩ := closing closes
  induction elements generalizing bound with
  | @last text start behind rest blanks stands closed =>
      have sizes := blanks.length_le
      have shorter := framed.length_lt stands
      obtain ⟨bound, rfl⟩ := Nat.exists_eq_succ_of_ne_zero (n := bound) (by omega)
      exact ⟨behind, passes short blanks stands (closed.detached (ends rest)),
        passesList.closed bound false (closed.skipped (skipBlanks_cons solid rest))⟩
  | @more text start behind others rest blanks stands comma _ ih =>
      have sizes := blanks.length_le
      have shorter := framed.length_lt stands
      have left := comma.length_le
      rw [List.length_cons] at left
      obtain ⟨bound, rfl⟩ := Nat.exists_eq_succ_of_ne_zero (n := bound) (by omega)
      have detached := comma.detached (detached_cons (by decide) others)
      have enough : others.length ≤ bound := by omega
      obtain ⟨next, passed, more⟩ := ih enough (by omega)
      exact ⟨behind, passes short blanks stands detached,
        (passesList.later bound (comma.skipped (skipBlanks_cons rfl others)) passed).trans more⟩

/-- Elements do not begin with a bracket that closes them. -/
theorem Elements.begin (opens : Opens element) {text rest : List Char}
    (elements : Elements element close text rest) :
    ∃ c others, skipBlanks text = c :: others ∧ c ≠ ']' ∧ c ≠ '\x7d' := by
  obtain ⟨start, behind, blanks, stands⟩ :
      ∃ start behind, Blanks text start ∧ element start behind := by
    cases elements with
    | last blanks stands => exact ⟨_, _, blanks, stands⟩
    | more blanks stands => exact ⟨_, _, blanks, stands⟩
  obtain ⟨c, others, same, -, noBracket, noBrace⟩ := opens stands
  exact ⟨c, others, (opens.skipped blanks stands).trans same, noBracket, noBrace⟩

/-- What stands between brackets is passed over. -/
theorem PassesList.enclosed (passesList : PassesList list pass close)
    (passes : Passes limit element pass) (framed : Framed element) (opens : Opens element)
    (closes : close = ']' ∨ close = '\x7d') {text rest : List Char}
    (enclosed : Enclosed element close text rest) (short : text.length ≤ limit) :
    list (text.length + 1) true text = .ok rest := by
  rcases enclosed with closed | elements
  · exact passesList.closed _ _ (closed.skipped (skipBlanks_cons (closing closes).1 rest))
  · obtain ⟨behind, passed, more⟩ :=
      passesList.elements passes framed closes elements le_rfl short
    obtain ⟨c, others, begins, noBracket, noBrace⟩ := elements.begin opens
    have different : c ≠ close := by rcases closes with rfl | rfl <;> assumption
    exact (passesList.first _ begins different passed).trans more

end Lists

section Values

variable {value : List Char → Except Stop (List Char)}

/-- The items of an array are passed over as a list. -/
theorem skipItems_passesList (skips : ∀ text, value (skipBlanks text) = value text) :
    PassesList (skipItems value) value ']' where
  closed bound first text rest skipped := by simp [skipItems, skipped]
  first bound text c others behind skipped open_ passed := by
    rw [← skips, skipped] at passed
    simp [skipItems, skipped, open_, passed, Except.bind]
  later bound text others behind skipped passed := by
    simp [skipItems, skipped, passed, Except.bind]

theorem skipKey_skipBlanks (text : List Char) : skipKey (skipBlanks text) = skipKey text := by
  simp only [skipKey, skipBlanks_skipBlanks]

/-- The members of an object are passed over as a list. -/
theorem skipMembers_passesList :
    PassesList (skipMembers value) (fun text => (skipKey text).bind value) '\x7d' where
  closed bound first text rest skipped := by simp [skipMembers, skipped]
  first bound text c others behind skipped open_ passed := by
    obtain ⟨colon, key, passed⟩ := bind_eq_ok_iff.mp passed
    rw [← skipKey_skipBlanks, skipped] at key
    simp [skipMembers, skipped, open_, key, passed, bind, Except.bind]
  later bound text others behind skipped passed := by
    obtain ⟨colon, key, passed⟩ := bind_eq_ok_iff.mp passed
    simp [skipMembers, skipped, key, passed, bind, Except.bind]

/-- A key is passed over with its colon. -/
theorem skipKey_of_characters {text start key colon : List Char} (blanks : Blanks text ('"' :: start))
    (characters : Characters Dialect.all.code start key) (mark : Blanks key (':' :: colon)) :
    skipKey text = .ok colon := by
  rw [skipKey, blanks.skipped (skipBlanks_cons rfl start)]
  simp only [if_true, skipString_of_characters characters, Except.bind]
  exact readColon_eq_ok_iff.mpr mark

/-- A member is passed over if its value is. -/
theorem passes_member {limit depth : Nat} (passes : Passes limit (Value .all depth) value) :
    Passes limit (Member Dialect.all.code (Value .all depth)) fun text =>
      (skipKey text).bind value := by
  rintro text _ rest short blanks ⟨characters, mark, spaces, stands⟩ detached
  have key := skipKey_of_characters blanks characters mark
  have left := blanks.length_le
  have behind := framed_code.characters.length_lt characters
  have colon := mark.length_le
  simp only [List.length_cons] at left colon
  exact bind_eq_ok_iff.mpr ⟨_, key, passes (by omega) spaces stands detached⟩

theorem skipValueWithin_skipBlanks (limit : Nat) (text : List Char) :
    skipValueWithin limit (skipBlanks text) = skipValueWithin limit text := by
  cases limit <;> simp only [skipValueWithin, skipBlanks_skipBlanks]

section Begins

variable (limit : Nat) (rest : List Char)

theorem skipValueWithin_quote : skipValueWithin limit ('"' :: rest) = skipString rest := by
  cases limit <;> rfl

theorem skipValueWithin_bracket : skipValueWithin (limit + 1) ('[' :: rest) =
    skipItems (skipValueWithin limit) (rest.length + 1) true rest := rfl

theorem skipValueWithin_brace : skipValueWithin (limit + 1) ('\x7b' :: rest) =
    skipMembers (skipValueWithin limit) (rest.length + 1) true rest := rfl

theorem skipValueWithin_null : skipValueWithin limit ("null".toList ++ rest) = .ok rest := by
  cases limit <;> rfl

theorem skipValueWithin_true : skipValueWithin limit ("true".toList ++ rest) = .ok rest := by
  cases limit <;> rfl

theorem skipValueWithin_false : skipValueWithin limit ("false".toList ++ rest) = .ok rest := by
  cases limit <;> rfl

theorem skipValueWithin_minus : skipValueWithin limit ('-' :: rest) = skipUnsigned rest := by
  cases limit <;> rfl

theorem skipValueWithin_digit {c : Char} (digit : Decimal.isDigit c = true) :
    skipValueWithin limit (c :: rest) = skipUnsigned (c :: rest) := by
  have filled := isBlank_numeral (.inr digit)
  have other {d : Char} (known : d ≠ '-' ∧ Decimal.isDigit d = false) : c ≠ d :=
    ne_of_numeral (.inr digit) known
  have sign : c ≠ '-' := by
    rintro rfl
    exact absurd digit (by decide)
  cases limit <;>
    simp [skipValueWithin, skipBlanks_cons filled, other (d := 'n') (by decide),
      other (d := 't') (by decide), other (d := 'f') (by decide), other (d := '"') (by decide),
      sign, digit]

/-- A number literal is passed over, whether it is in the range or not. -/
theorem skipValueWithin_numeral (numeral : Numeral) {rest : List Char} (detached : Detached rest) :
    skipValueWithin limit (numeral.text ++ rest) = .ok rest := by
  have skipped := skipUnsigned_text (numeral.ends_of_detached detached)
  cases negative : numeral.negative with
  | true =>
      have begins : numeral.text ++ rest = '-' :: (numeral.unsignedText ++ rest) := by
        simp [Numeral.text, negative]
      rw [begins, skipValueWithin_minus, skipped]
  | false =>
      obtain ⟨c, others, same⟩ := List.exists_cons_of_ne_nil numeral.whole.filled
      have digit := numeral.whole.known c (by simp [same])
      have begins : numeral.text ++ rest = numeral.unsignedText ++ rest := by
        simp [Numeral.text, negative]
      rw [begins]
      rw [Numeral.unsignedText, same, List.cons_append, List.cons_append] at skipped ⊢
      rw [skipValueWithin_digit limit _ digit, skipped]

end Begins

/-- A value without brackets is passed over. -/
theorem skipValueWithin_scalar (limit : Nat) {text rest : List Char} (scalar : Scalar .all text rest)
    (detached : Detached rest) : skipValueWithin limit text = .ok rest := by
  cases scalar with
  | null => exact skipValueWithin_null limit rest
  | true => exact skipValueWithin_true limit rest
  | false => exact skipValueWithin_false limit rest
  | string characters =>
      exact (skipValueWithin_quote limit _).trans (skipString_of_characters characters)
  | number numeral => exact skipValueWithin_numeral limit numeral detached

/-- The length of a text bounds the depth of the values in it. -/
theorem passes_value (depth limit : Nat) :
    Passes limit (Value .all depth) (skipValueWithin limit) := by
  induction depth generalizing limit with
  | zero =>
      intro text start rest _ blanks stands detached
      rw [← skipValueWithin_skipBlanks, (opens_value .all 0).skipped blanks stands]
      exact skipValueWithin_scalar limit stands detached
  | succ depth ih =>
      intro text start rest short blanks stands detached
      rw [← skipValueWithin_skipBlanks, (opens_value .all (depth + 1)).skipped blanks stands]
      have short := blanks.length_le.trans short
      -- An opening bracket takes one character of the text and one step of the limit.
      rcases stands with scalar | ⟨items⟩ | ⟨members⟩
      · exact skipValueWithin_scalar limit scalar detached
      · rw [List.length_cons] at short
        obtain ⟨limit, rfl⟩ := Nat.exists_eq_add_of_le' (Nat.one_le_of_lt short)
        rw [skipValueWithin_bracket]
        exact (skipItems_passesList (skipValueWithin_skipBlanks limit)).enclosed (ih limit)
          (framed_value depth) (opens_value .all depth) (.inl rfl) items (Nat.le_of_lt_succ short)
      · rw [List.length_cons] at short
        obtain ⟨limit, rfl⟩ := Nat.exists_eq_add_of_le' (Nat.one_le_of_lt short)
        rw [skipValueWithin_brace]
        exact skipMembers_passesList.enclosed (passes_member (ih limit))
          (framed_value depth).member (opens_member ..) (.inr rfl) members
          (Nat.le_of_lt_succ short)

/-- A value is passed over when nothing behind it goes on with it. -/
theorem skipValue_of_value {depth : Nat} {text start rest : List Char} (blanks : Blanks text start)
    (stands : Value .all depth start rest) (detached : Detached rest) :
    skipValue text = .ok rest :=
  passes_value depth text.length le_rfl blanks stands detached

end Values

end HostBridge.Json
