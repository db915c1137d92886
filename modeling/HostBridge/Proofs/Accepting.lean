/-
This file shows that the reader decodes exactly the JSON texts whose brackets nest not too deep,
whose surrogates come in pairs and whose numbers have a double.
-/
import HostBridge.Proofs.Nesting

namespace HostBridge.Json

/-- The part of the language that is decoded. -/
def Dialect.decoded : Dialect where
  code := PairedCode
  numeral := Numeral.Fits

/-- A word is scanned exactly where it stands. -/
theorem scanWord_eq_ok_iff (word text rest : List Char) :
    scanWord word text = .ok rest ↔ text = word ++ rest := by
  induction word generalizing text with
  | nil => simp [scanWord]
  | cons c word ih =>
      obtain _ | ⟨d, text⟩ := text
      · simp [scanWord, stopAt]
      · by_cases same : c = d
        · simp [scanWord, same, ih]
        · have different : d ≠ c := fun equal => same equal.symm
          simp [scanWord, same, different, stopAfter]

theorem leaves_scanWord (word text rest : List Char) (value : Json) :
    Leaves ((scanWord word text).map fun rest => (value, rest)) rest ↔ text = word ++ rest := by
  rw [← scanWord_eq_ok_iff]
  cases scanWord word text <;> simp [Except.map]

section Lengths

/-- Brackets with anything in them take at least one character. -/
theorem Enclosed.length_lt {element : Part} {close : Char}
    (shorter : ∀ {text rest}, element text rest → rest.length < text.length)
    {text rest : List Char} (enclosed : Enclosed element close text rest) :
    rest.length < text.length := by
  have closed {text rest : List Char} (blanks : Blanks text (close :: rest)) :
      rest.length < text.length := blanks.length_le
  rcases enclosed with empty | elements
  · exact closed empty
  · induction elements with
    | last blanks stands ends =>
        exact (closed ends).trans ((shorter stands).trans_le blanks.length_le)
    | more blanks stands comma _ ih =>
        have left := comma.length_le
        have taken := shorter stands
        have sizes := blanks.length_le
        rw [List.length_cons] at left
        omega

/-- A member takes at least one character. -/
theorem Member.length_lt {value : Part}
    (shorter : ∀ {text rest}, value text rest → rest.length < text.length)
    {text rest : List Char} (member : Member PairedCode value text rest) :
    rest.length < text.length := by
  obtain ⟨key, found, blanks, stands⟩ := member
  have taken := shorter stands
  have left := blanks.length_le
  have colon := found.length_le
  have name := key.length_lt
  simp only [List.length_cons] at colon ⊢
  omega

theorem length_lt_append {taken : List Char} (filled : 0 < taken.length) (rest : List Char) :
    rest.length < (taken ++ rest).length := by
  rw [List.length_append]
  omega

/-- A number literal is not empty. -/
theorem Numeral.length_pos (numeral : Numeral) : 0 < numeral.text.length := by
  have filled := List.length_pos_iff.mpr numeral.whole.filled
  simp only [Numeral.text, Numeral.unsignedText, List.length_append]
  omega

theorem Scalar.length_lt {text rest : List Char} (scalar : Scalar .decoded text rest) :
    rest.length < text.length := by
  cases scalar with
  | null => exact length_lt_append (by decide) rest
  | true => exact length_lt_append (by decide) rest
  | false => exact length_lt_append (by decide) rest
  | string characters => exact Nat.lt_succ_of_lt characters.length_lt
  | number numeral => exact length_lt_append numeral.length_pos rest

/-- A value takes at least one character, so that the bound of the reader is never reached. -/
theorem length_lt_of_value {depth : Nat} {text rest : List Char}
    (stands : Value .decoded depth text rest) : rest.length < text.length := by
  induction depth generalizing text rest with
  | zero => exact Scalar.length_lt stands
  | succ depth ih =>
      rcases stands with scalar | ⟨items⟩ | ⟨members⟩
      · exact scalar.length_lt
      · exact Nat.lt_succ_of_lt (items.length_lt ih)
      · exact Nat.lt_succ_of_lt (members.length_lt (Member.length_lt ih))

end Lengths

/-- A reader that skips blanks decodes a value where one stands. -/
structure Decodes (read : List Char → Scan Json) (value : Part) : Prop where
  accepts : Accepts (fun text rest => Leaves (read text) rest) value
  skips : ∀ text, read (skipBlanks text) = read text
  nothing : ∀ rest, ¬ Leaves (read []) rest
  noBracket : ∀ {text rest}, value text rest → text.head? ≠ some ']'

section Nested

variable {read : List Char → Scan Json} {value : Part} (decodes : Decodes read value)
  {text rest : List Char} {bound : Nat}

include decodes

/-- An item is accepted where the reader stops behind a value. -/
theorem Decodes.acceptsItem :
    Accepts (fun text rest => text.head? ≠ some ']' ∧ Leaves (read text) rest) value where
  sound accepted := decodes.accepts.sound accepted.2
  complete stands detached :=
    ⟨decodes.noBracket stands, decodes.accepts.complete stands detached⟩
  filled := decodes.accepts.filled
  shorter := decodes.accepts.shorter

/-- The items of an array are read exactly up to its closing bracket. -/
theorem Decodes.leaves_readItems (enough : text.length < bound) :
    Leaves (readItems read bound true text) rest ↔ Enclosed value ']' text rest :=
  ⟨(readItems_list decodes.nothing).sound decodes.acceptsItem,
    fun enclosed => (readItems_list decodes.nothing).complete decodes.acceptsItem (.inl rfl)
      enclosed enough⟩

/-- A member is accepted where a key, a colon and a value stand. -/
theorem Decodes.acceptsMember :
    Accepts (AcceptsMember read) (Member PairedCode value) where
  sound := by
    rintro text rest ⟨key, behind, colon, same, scanned, found, left⟩
    rw [same]
    rw [← decodes.skips] at left
    exact .intro ((leaves_scanString key behind).mp scanned) (readColon_eq_ok_iff.mp found)
      (blanks_skipBlanks colon) (decodes.accepts.sound left)
  complete := by
    rintro _ rest ⟨key, found, blanks, stands⟩ detached
    refine ⟨_, _, _, rfl, (leaves_scanString ..).mpr key, readColon_eq_ok_iff.mpr found, ?_⟩
    rw [← decodes.skips, blanks.skipped (decodes.accepts.filled stands)]
    exact decodes.accepts.complete stands detached
  filled := by
    rintro _ rest ⟨key, found, blanks, stands⟩
    exact skipBlanks_cons rfl _
  shorter := Member.length_lt decodes.accepts.shorter

/-- The members of an object are read exactly up to its closing bracket. -/
theorem Decodes.leaves_readMembers (enough : text.length < bound) :
    Leaves (readMembers read bound true text) rest ↔
      Enclosed (Member PairedCode value) '\x7d' text rest :=
  ⟨readMembers_list.sound decodes.acceptsMember,
    fun enclosed => readMembers_list.complete decodes.acceptsMember (.inr rfl) enclosed enough⟩

end Nested

section Values

theorem readValue_skipBlanks (depth : Nat) (text : List Char) :
    readValue depth (skipBlanks text) = readValue depth text := by
  cases depth <;> simp only [readValue, skipBlanks_skipBlanks]

theorem not_leaves_readValue_nil (depth : Nat) (rest : List Char) :
    ¬ Leaves (readValue depth []) rest := by
  cases depth <;> simp [readValue, skipBlanks, stopAfter]

/-- A number literal begins with its sign or with a digit. -/
theorem Numeral.exists_text (numeral : Numeral) (rest : List Char) :
    ∃ c others, numeral.text ++ rest = c :: others ∧ (c = '-' ∨ Decimal.isDigit c = true) := by
  obtain ⟨c, others, same⟩ := List.exists_cons_of_ne_nil numeral.whole.filled
  have digit := numeral.whole.known c (by simp [same])
  cases negative : numeral.negative with
  | true => exact ⟨'-', numeral.unsignedText ++ rest, by simp [Numeral.text, negative], .inl rfl⟩
  | false => exact ⟨c, _, by simp [Numeral.text, negative, Numeral.unsignedText, same]; rfl,
      .inr digit⟩

/-- A value begins with a character that is neither a blank nor a bracket that closes. -/
theorem exists_value {dialect : Dialect} {depth : Nat} {text rest : List Char}
    (stands : Value dialect depth text rest) :
    ∃ c others, text = c :: others ∧ isBlank c = false ∧ c ≠ ']' ∧ c ≠ '\x7d' := by
  rcases value_iff.mp stands with scalar | ⟨inner, rfl, nest⟩
  · cases scalar with
    | null => exact ⟨'n', _, rfl, rfl, by decide⟩
    | true => exact ⟨'t', _, rfl, rfl, by decide⟩
    | false => exact ⟨'f', _, rfl, rfl, by decide⟩
    | string => exact ⟨'"', _, rfl, rfl, by decide⟩
    | number numeral =>
        obtain ⟨c, others, same, begins⟩ := numeral.exists_text rest
        exact ⟨c, others, same, isBlank_numeral begins, ne_of_numeral begins (by decide),
          ne_of_numeral begins (by decide)⟩
  · cases nest with
    | array => exact ⟨'[', _, rfl, rfl, by decide⟩
    | object => exact ⟨'\x7b', _, rfl, rfl, by decide⟩

variable {depth : Nat}
  (nested : ∀ inner, depth = inner + 1 → Decodes (readValue inner) (Value .decoded inner))

include nested

/-- What the reader takes is a value of the language that is decoded. -/
theorem value_of_readValue {c : Char} (filled : isBlank c = false) {text rest : List Char}
    (leaves : Leaves (readValue depth (c :: text)) rest) :
    Value .decoded depth (c :: text) rest := by
  refine value_iff.mpr ?_
  rw [readValue.eq_def] at leaves
  simp only [skipBlanks_cons filled] at leaves
  split at leaves
  · next first =>
      rw [first, (leaves_scanWord ..).mp leaves]
      exact .inl .null
  split at leaves
  · next first =>
      rw [first, (leaves_scanWord ..).mp leaves]
      exact .inl .true
  split at leaves
  · next first =>
      rw [first, (leaves_scanWord ..).mp leaves]
      exact .inl .false
  split at leaves
  · next first =>
      rw [first]
      exact .inl (.string ((leaves_scanString text rest).mp ((leaves_map _).mp leaves)))
  split at leaves
  · obtain ⟨numeral, same, -, fits⟩ := (leaves_scanNumber_iff ..).mp ((leaves_map _).mp leaves)
    rw [same]
    exact .inl (.number numeral fits)
  split at leaves
  · next first =>
      cases depth with
      | zero => simp [stopAfter] at leaves
      | succ inner =>
          have enclosed := ((nested inner rfl).leaves_readItems (Nat.lt_succ_self _)).mp
            ((leaves_map _).mp leaves)
          rw [first]
          exact .inr ⟨inner, rfl, .array enclosed⟩
  split at leaves
  · next first =>
      cases depth with
      | zero => simp [stopAfter] at leaves
      | succ inner =>
          have enclosed := ((nested inner rfl).leaves_readMembers (Nat.lt_succ_self _)).mp
            ((leaves_map fun members => object (Members.ofPairs members)).mp leaves)
          rw [first]
          exact .inr ⟨inner, rfl, .object enclosed⟩
  · simp [stopAfter] at leaves

/-- The reader takes every value of that language where nothing goes on with it. -/
theorem readValue_of_value {text rest : List Char} (stands : Value .decoded depth text rest)
    (detached : Detached rest) : Leaves (readValue depth text) rest := by
  rcases value_iff.mp stands with scalar | ⟨inner, rfl, nest⟩
  · cases scalar with
    | null => exact readValue_null depth rest ▸ leaves_ok.mpr rfl
    | true => exact readValue_boolean depth rest true ▸ leaves_ok.mpr rfl
    | false => exact readValue_boolean depth rest false ▸ leaves_ok.mpr rfl
    | string characters =>
        rw [readValue_quote, leaves_map]
        exact (leaves_scanString ..).mpr characters
    | number numeral fits =>
        have scanned := (leaves_scanNumber_iff ..).mpr
          ⟨numeral, rfl, numeral.ends_of_detached detached, fits⟩
        obtain ⟨c, others, same, begins⟩ := numeral.exists_text rest
        rw [same] at scanned ⊢
        rw [readValue_numeral depth others begins, leaves_map]
        exact scanned
  · have decodes := nested inner rfl
    cases nest with
    | array enclosed =>
        rw [readValue_bracket, leaves_map]
        exact (decodes.leaves_readItems (Nat.lt_succ_self _)).mpr enclosed
    | object enclosed =>
        rw [readValue_brace, leaves_map fun members => object (Members.ofPairs members)]
        exact (decodes.leaves_readMembers (Nat.lt_succ_self _)).mpr enclosed

end Values

/-- Every nesting of values is decoded as long as its brackets nest at most so deep. -/
theorem decodes_readValue (depth : Nat) : Decodes (readValue depth) (Value .decoded depth) := by
  -- The values inside a bracket are those of a reader that may open one bracket less.
  have step (depth : Nat) (nested : ∀ inner, depth = inner + 1 →
      Decodes (readValue inner) (Value .decoded inner)) :
      Decodes (readValue depth) (Value .decoded depth) := by
    refine ⟨⟨?_, readValue_of_value nested, ?_, length_lt_of_value⟩, readValue_skipBlanks depth,
      not_leaves_readValue_nil depth, ?_⟩
    · intro text rest leaves
      cases skipped : skipBlanks text with
      | nil => exact absurd (skipped ▸ leaves) (not_leaves_readValue_nil depth rest)
      | cons c others =>
          rw [skipped] at leaves
          exact value_of_readValue nested (isBlank_of_skipBlanks skipped) leaves
    · intro text rest stands
      obtain ⟨c, others, rfl, filled, -⟩ := exists_value stands
      exact skipBlanks_cons filled others
    · intro text rest stands
      obtain ⟨c, others, rfl, -, different, -⟩ := exists_value stands
      simpa using different
  induction depth with
  | zero => exact step 0 (by simp)
  | succ depth ih =>
      refine step (depth + 1) fun inner same => ?_
      obtain rfl : depth = inner := Nat.succ.inj same
      exact ih

/-- A whole text is read exactly when it is one value between blanks. -/
theorem exists_readText_iff (text : List Char) :
    (∃ value, readText text = .ok value) ↔ IsText .decoded depthLimit text := by
  have decodes := decodes_readValue depthLimit
  constructor
  · rintro ⟨value, read⟩
    cases found : readValue depthLimit text with
    | error stop => simp [readText, found, bind, Except.bind] at read
    | ok known =>
        obtain ⟨known, rest⟩ := known
        have leaves : Leaves (readValue depthLimit (skipBlanks text)) rest :=
          ⟨known, (decodes.skips text).trans found⟩
        refine ⟨skipBlanks text, rest, blanks_skipBlanks text, decodes.accepts.sound leaves, ?_⟩
        cases left : skipBlanks rest with
        | nil => exact left ▸ blanks_skipBlanks rest
        | cons c others => simp [readText, found, left, stopAfter, bind, Except.bind] at read
  · rintro ⟨start, behind, blanks, stands, ends⟩
    have skipped := blanks.skipped (decodes.accepts.filled stands)
    have detached : Detached behind := ends.detached (by simp [Detached])
    obtain ⟨value, read⟩ := decodes.accepts.complete stands detached
    rw [← skipped, decodes.skips] at read
    have left : skipBlanks behind = [] := ends.skipped rfl
    exact ⟨value, by simp [readText, read, left, bind, Except.bind, pure, Except.pure]⟩

/-- A text is decoded exactly when it is JSON inside these limits. -/
theorem exists_ofText_iff (text : String) :
    (∃ value, ofText text = .ok value) ↔ IsText .decoded depthLimit text.toList := by
  rw [← exists_readText_iff, ofText]
  cases readText text.toList <;> simp [Except.mapError]

end HostBridge.Json
