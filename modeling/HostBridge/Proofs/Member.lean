/-
This file shows that the value of a configuration is read alike wherever it stands.
-/
import HostBridge.Configuration.Reader
import HostBridge.Proofs.Decoding
import HostBridge.Proofs.Skipping

namespace HostBridge.Configuration

open HostBridge.Json

section Values

/-- A value is looked for behind the blanks. -/
theorem beforeValue_eq_ok_iff {text start : List Char} :
    beforeValue text = .ok start ↔ skipBlanks text = start ∧ start ≠ [] := by
  rw [beforeValue]
  split
  · next skipped => simp [skipped, stopAfter, eq_comm]
  · next skipped =>
      simp only [Except.ok.injEq]
      exact ⟨fun same => ⟨same, same ▸ skipped⟩, And.left⟩

/-- Nothing is read from a value of another type. -/
theorem refuse_ne_ok {A : Type} (expected : String) (text : List Char) (result : A × List Char) :
    refuse expected text ≠ .ok result := by
  unfold refuse
  split
  · nofun
  · simp only
    split_ifs <;> simp [bind_eq_ok_iff, stopAt, stopAfter]

/-- Nothing is read where its word stands. -/
theorem readNull_eq_ok_iff {text rest : List Char} :
    readNull text = .ok rest ↔ ∃ start, Blanks text start ∧ start = "null".toList ++ rest := by
  constructor
  · intro read
    obtain ⟨start, begun, word⟩ := bind_eq_ok_iff.mp read
    obtain ⟨rfl, -⟩ := beforeValue_eq_ok_iff.mp begun
    split at word
    · next others skipped =>
        obtain rfl := (scanWord_eq_ok_iff ..).mp word
        exact ⟨_, blanks_skipBlanks text, skipped⟩
    · obtain ⟨result, refused, -⟩ := map_eq_ok_iff.mp word
      exact absurd refused (refuse_ne_ok _ _ _)
  · rintro ⟨_, blanks, rfl⟩
    have skipped := blanks.skipped (skipBlanks_cons rfl ("ull".toList ++ rest))
    have begun : beforeValue text = .ok ("null".toList ++ rest) :=
      beforeValue_eq_ok_iff.mpr ⟨skipped, by simp⟩
    exact bind_eq_ok_iff.mpr ⟨_, begun, (scanWord_eq_ok_iff ..).mpr rfl⟩

/-- A truth value is read where its word stands. -/
theorem readBoolean_eq_ok_iff {text rest : List Char} {value : Bool} :
    readBoolean text = .ok (value, rest) ↔
      ∃ start, Blanks text start ∧ start = (Json.boolean value).text.toList ++ rest := by
  constructor
  · intro read
    obtain ⟨start, begun, word⟩ := bind_eq_ok_iff.mp read
    obtain ⟨rfl, -⟩ := beforeValue_eq_ok_iff.mp begun
    split at word
    · next others skipped =>
        obtain ⟨scanned, rfl⟩ := map_const_eq_ok_iff.mp word
        obtain rfl := (scanWord_eq_ok_iff ..).mp scanned
        exact ⟨_, blanks_skipBlanks text, skipped⟩
    · next others skipped =>
        obtain ⟨scanned, rfl⟩ := map_const_eq_ok_iff.mp word
        obtain rfl := (scanWord_eq_ok_iff ..).mp scanned
        exact ⟨_, blanks_skipBlanks text, skipped⟩
    · exact absurd word (refuse_ne_ok _ _ _)
  · rintro ⟨_, blanks, rfl⟩
    have begun : beforeValue text = .ok ((Json.boolean value).text.toList ++ rest) := by
      refine beforeValue_eq_ok_iff.mpr ⟨?_, by cases value <;> simp [Json.text]⟩
      cases value <;> exact blanks.skipped (skipBlanks_cons rfl _)
    rw [readBoolean, begun]
    cases value <;> rfl

/-- The name of a mode is read where it stands as a string. -/
theorem readModeName_eq_ok_iff {text rest : List Char} {mode : SentinelMode} :
    readModeName text = .ok (mode, rest) ↔ scanString text = .ok (mode.name, rest) := by
  have different : SentinelMode.fixed.name ≠ SentinelMode.unique.name := by decide
  constructor
  · intro read
    obtain ⟨⟨name, behind⟩, scanned, known⟩ := bind_eq_ok_iff.mp read
    simp only at known
    split_ifs at known with fixed unique
    · cases known
      rw [scanned, fixed]
    · cases known
      rw [scanned, unique]
    · cases known
  · intro scanned
    refine bind_eq_ok_iff.mpr ⟨_, scanned, ?_⟩
    cases mode <;> simp [different.symm]

/-- What stands behind the brace of an object that names a mode. -/
def ModeObject (mode : SentinelMode) : Part := fun text rest =>
  ∃ key, Blanks text ('"' :: key) ∧ ∃ behind, scanString key = .ok (mode.name, behind) ∧
    ∃ colon, Blanks behind (':' :: colon) ∧
      ∃ after, (∃ start, Blanks colon start ∧ start = "null".toList ++ after) ∧
        Blanks after ('\x7d' :: rest)

theorem readModeKey_eq_ok_iff {text rest : List Char} {mode : SentinelMode} :
    readModeKey (skipBlanks text) = .ok (mode, rest) ↔
      ∃ key, Blanks text ('"' :: key) ∧ scanString key = .ok (mode.name, rest) := by
  constructor
  · intro read
    unfold readModeKey at read
    split at read
    · cases read
    · next key skipped =>
        exact ⟨key, skipped ▸ blanks_skipBlanks text, readModeName_eq_ok_iff.mp read⟩
    · cases read
    · cases read
  · rintro ⟨key, blanks, scanned⟩
    rw [blanks.skipped (skipBlanks_cons rfl key)]
    exact readModeName_eq_ok_iff.mpr scanned

/-- A mode is read as the key of an object with nothing in it. -/
theorem readModeObject_eq_ok_iff {text rest : List Char} {mode : SentinelMode} :
    readModeObject text = .ok (mode, rest) ↔ ModeObject mode text rest := by
  constructor
  · intro read
    obtain ⟨⟨known, behind⟩, named, read⟩ := bind_eq_ok_iff.mp read
    obtain ⟨colon, mark, read⟩ := bind_eq_ok_iff.mp read
    obtain ⟨after, null, read⟩ := bind_eq_ok_iff.mp read
    split at read
    · cases read
    · next c others skipped =>
        split_ifs at read with closed
        · obtain ⟨rfl, rfl⟩ := Prod.mk.inj (Except.ok.inj read)
          obtain ⟨key, blanks, scanned⟩ := readModeKey_eq_ok_iff.mp named
          exact ⟨key, blanks, behind, scanned, colon, readColon_eq_ok_iff.mp mark, after,
            readNull_eq_ok_iff.mp null, closed ▸ skipped ▸ blanks_skipBlanks after⟩
        · cases read
  · rintro ⟨key, blanks, behind, scanned, colon, mark, after, null, closed⟩
    have named := readModeKey_eq_ok_iff.mpr ⟨key, blanks, scanned⟩
    have skipped := closed.skipped (skipBlanks_cons rfl rest)
    rw [readModeObject, named]
    simp only [bind, Except.bind, readColon_eq_ok_iff.mpr mark, readNull_eq_ok_iff.mpr null,
      skipped, if_true]
    rfl

/-- The texts of a mode. -/
def ModeValue (mode : SentinelMode) : Part := fun text rest =>
  (∃ name, text = '"' :: name ∧ scanString name = .ok (mode.name, rest)) ∨
    ∃ inside, text = '\x7b' :: inside ∧ ModeObject mode inside rest

/-- A mode is read as its name or as such an object. -/
theorem readMode_eq_ok_iff {text rest : List Char} {mode : SentinelMode} :
    readMode text = .ok (mode, rest) ↔ ∃ start, Blanks text start ∧ ModeValue mode start rest := by
  constructor
  · intro read
    refine ⟨skipBlanks text, blanks_skipBlanks text, ?_⟩
    unfold readMode at read
    split at read
    · cases read
    · next c others skipped =>
        rw [skipped]
        split_ifs at read with quote brace
        · exact .inl ⟨others, by rw [quote], readModeName_eq_ok_iff.mp read⟩
        · exact .inr ⟨others, by rw [brace], readModeObject_eq_ok_iff.mp read⟩
        · cases read
  · rintro ⟨_, blanks, ⟨name, rfl, scanned⟩ | ⟨inside, rfl, object⟩⟩
    · rw [readMode, blanks.skipped (skipBlanks_cons rfl name)]
      exact readModeName_eq_ok_iff.mpr scanned
    · rw [readMode, blanks.skipped (skipBlanks_cons rfl inside)]
      exact readModeObject_eq_ok_iff.mpr object

end Values

section Sizes

/-- What is scaled is no integer. -/
theorem toFloat_ne_integer (value : Significand) (text : List Char) (size : Int)
    (rest : List Char) : value.toFloat text ≠ .ok (.integer size, rest) := by
  unfold Significand.toFloat
  split <;> simp [stopAt]

theorem scanExponent_ne_integer (value : Significand) (text : List Char) (size : Int)
    (rest : List Char) : scanExponent value text ≠ .ok (.integer size, rest) := by
  unfold scanExponent
  split
  split
  · simp [stopAt]
  split
  · simp [stopAfter]
  split
  · exact toFloat_ne_integer _ _ _ _
  · split <;> simp [stopAt]

/-- Digits with a power of ten are no integer. -/
theorem scanScale_ne_integer (value : Significand) (text : List Char) (size : Int)
    (rest : List Char) : scanScale value text ≠ .ok (.integer size, rest) := by
  unfold scanScale
  split
  · split_ifs
    · exact scanExponent_ne_integer _ _ _ _
    · exact toFloat_ne_integer _ _ _ _
  · exact toFloat_ne_integer _ _ _ _

/-- An integer is read alike in front of any text that does not go on with it. -/
theorem scanNumber_integer {numeral : Numeral} {rest behind : List Char} {size : Int}
    (detached : Detached rest)
    (scanned : scanNumber (numeral.text ++ rest) = .ok (.integer size, behind)) :
    behind = rest ∧ ∀ other, Detached other →
      scanNumber (numeral.text ++ other) = .ok (.integer size, other) := by
  have ends {rest : List Char} (detached : Detached rest) := numeral.ends_of_detached detached
  rw [scanNumber_text] at scanned
  by_cases whole : numeral.fraction = none ∧ numeral.exponent = none ∧ numeral.whole.Short
  · rw [scanUnsigned_whole (ends detached) whole.1 whole.2.1 whole.2.2] at scanned
    obtain ⟨known, rfl⟩ := Prod.mk.inj (Except.ok.inj scanned)
    refine ⟨rfl, fun other detached => ?_⟩
    rw [scanNumber_text, scanUnsigned_whole (ends detached) whole.1 whole.2.1 whole.2.2, known]
  · rw [scanUnsigned_scaled (ends detached) whole] at scanned
    exact absurd scanned (scanScale_ne_integer _ _ _ _)

/-- The texts of a size. -/
def SizeValue (size : UInt64) : Part := fun text rest =>
  ∃ c others number, text = c :: others ∧ (c = '-' ∨ Decimal.isDigit c = true) ∧
    scanNumber text = .ok (.integer number, rest) ∧ 0 ≤ number ∧ number.toNat.toUInt64 = size

theorem SizeValue.skipped {size : UInt64} {text start rest : List Char}
    (value : SizeValue size start rest) (blanks : Blanks text start) : skipBlanks text = start := by
  obtain ⟨c, others, number, rfl, numeral, -⟩ := value
  exact blanks.skipped (skipBlanks_cons (isBlank_numeral numeral) others)

/-- A size is read where the digits of an integer of 64 bits stand. -/
theorem readSize_eq_ok_iff {text rest : List Char} {size : UInt64} :
    readSize text = .ok (size, rest) ↔ ∃ start, Blanks text start ∧ SizeValue size start rest := by
  constructor
  · intro read
    obtain ⟨start, begun, read⟩ := bind_eq_ok_iff.mp read
    obtain ⟨rfl, -⟩ := beforeValue_eq_ok_iff.mp begun
    refine ⟨_, blanks_skipBlanks text, ?_⟩
    split at read
    · next c others skipped =>
        split_ifs at read with numeral
        · obtain ⟨⟨number, behind⟩, scanned, read⟩ := bind_eq_ok_iff.mp read
          cases number with
          | integer number =>
              simp only at read
              split_ifs at read with positive
              · obtain ⟨same, rfl⟩ := Prod.mk.inj (Except.ok.inj read)
                exact ⟨c, others, number, skipped, by simpa using numeral, scanned, positive, same⟩
              · cases read
          | float => cases read
        · exact absurd read (refuse_ne_ok _ _ _)
    · exact absurd read (refuse_ne_ok _ _ _)
  · rintro ⟨_, blanks, c, others, number, rfl, numeral, scanned, positive, same⟩
    have begun : beforeValue text = .ok (c :: others) := beforeValue_eq_ok_iff.mpr
      ⟨blanks.skipped (skipBlanks_cons (isBlank_numeral numeral) others), by simp⟩
    have begins : (c = '-' || Decimal.isDigit c) = true := by simpa using numeral
    rw [readSize, begun]
    simp only [Except.bind, begins, if_true, scanned, positive, same]

/-- The texts of a limit. -/
def LimitValue (limit : Option UInt64) : Part := fun text rest =>
  limit = none ∧ text = "null".toList ++ rest ∨ ∃ size, limit = some size ∧ SizeValue size text rest

/-- A limit is read where a size or the word for none stands. -/
theorem readLimit_eq_ok_iff {text rest : List Char} {limit : Option UInt64} :
    readLimit text = .ok (limit, rest) ↔
      ∃ start, Blanks text start ∧ LimitValue limit start rest := by
  constructor
  · intro read
    refine ⟨skipBlanks text, blanks_skipBlanks text, ?_⟩
    unfold readLimit at read
    split at read
    · next others skipped =>
        obtain ⟨scanned, rfl⟩ := map_const_eq_ok_iff.mp read
        obtain rfl := (scanWord_eq_ok_iff ..).mp scanned
        exact .inl ⟨rfl, skipped⟩
    · obtain ⟨size, scanned, rfl⟩ := map_pair_eq_ok_iff.mp read
      obtain ⟨start, blanks, value⟩ := readSize_eq_ok_iff.mp scanned
      obtain rfl : skipBlanks text = start :=
        (skipBlanks_skipBlanks text).symm.trans (value.skipped blanks)
      exact .inr ⟨size, rfl, value⟩
  · rintro ⟨start, blanks, ⟨rfl, rfl⟩ | ⟨size, rfl, value⟩⟩
    · rw [readLimit, blanks.skipped (skipBlanks_cons rfl ("ull".toList ++ rest))]
      rfl
    · have read := readSize_eq_ok_iff.mpr ⟨start, .refl start, value⟩
      obtain ⟨c, others, number, rfl, numeral, -⟩ := value
      have other := ne_of_numeral numeral (d := 'n') (by decide)
      rw [readLimit, blanks.skipped (skipBlanks_cons (isBlank_numeral numeral) others)]
      split
      · next same => exact absurd (List.cons.inj same).1 other
      · rw [read]
        rfl

end Sizes

section Places

/-- What stands at the beginning of a value is told alike in front of any other text. -/
def Told {A : Type} (part : A → Part) : Prop :=
  ∀ ⦃depth word rest value behind⦄, Value .all depth (word ++ rest) rest → Detached rest →
    part value (word ++ rest) behind →
      behind = rest ∧ ∀ other, Detached other → part value (word ++ other) other

/-- A reader passes over blanks and reads what is told from the text behind them. -/
structure Reads {A : Type} (read : List Char → Scan A) (part : A → Part) : Prop where
  spelled : ∀ {text rest value}, read text = .ok (value, rest) ↔
    ∃ start, Blanks text start ∧ part value start rest
  opens : ∀ value, Opens (part value)
  told : Told part

/-- A framed part that ends where a value does is told by it. -/
theorem told_of_framed {A : Type} {part : A → Part} (framed : ∀ value, Framed (part value))
    (ends : ∀ ⦃depth text rest value behind⦄, Value .all depth text rest →
      part value text behind → behind = rest) : Told part := by
  intro depth word rest value behind stands _ known
  obtain rfl := ends stands known
  exact ⟨rfl, fun other _ => (framed value).exchange known other⟩

/-- Two parts that begin behind the same blanks begin in the same place. -/
theorem start_unique {one two : Part} (left : Opens one) (right : Opens two)
    {text start other rest behind : List Char} (blanks : Blanks text start) (stands : one start rest)
    (spaces : Blanks text other) (known : two other behind) : other = start :=
  (right.skipped spaces known).symm.trans (left.skipped blanks stands)

/-- A value is read from its own text as it is read where it stands. -/
theorem Reads.place {A : Type} {read : List Char → Scan A} {part : A → Part}
    (reads : Reads read part) {depth : Nat} {text word rest behind : List Char} {value : A}
    (blanks : Blanks text (word ++ rest)) (stands : Value .all depth (word ++ rest) rest)
    (detached : Detached rest) :
    read text = .ok (value, behind) ↔ behind = rest ∧ read word = .ok (value, []) := by
  have alone : Value .all depth (word ++ []) [] := (framed_value depth).exchange stands []
  have nothing : Detached [] := by simp [Detached]
  constructor
  · intro scanned
    obtain ⟨start, spaces, known⟩ := reads.spelled.mp scanned
    obtain rfl :=
      start_unique (opens_value .all depth) (reads.opens value) blanks stands spaces known
    obtain ⟨rfl, frame⟩ := reads.told stands detached known
    refine ⟨rfl, reads.spelled.mpr ⟨word, .refl word, ?_⟩⟩
    simpa using frame [] nothing
  · rintro ⟨rfl, scanned⟩
    obtain ⟨start, spaces, known⟩ := reads.spelled.mp scanned
    rw [← List.append_nil word] at spaces
    obtain rfl :=
      start_unique (opens_value .all depth) (reads.opens value) (.refl _) alone spaces known
    obtain ⟨-, frame⟩ := reads.told alone nothing known
    exact reads.spelled.mpr ⟨_, blanks, frame _ detached⟩

/-- What is read at a place is what is read of the word that stands there. -/
theorem Reads.place_map {A B : Type} {read : List Char → Scan A} {part : A → Part}
    (reads : Reads read part) (make : A → B) {depth : Nat} {text word rest behind : List Char}
    {result : B} (blanks : Blanks text (word ++ rest))
    (stands : Value .all depth (word ++ rest) rest) (detached : Detached rest) :
    ((read text).map fun (value, rest) => (make value, rest)) = .ok (result, behind) ↔
      behind = rest ∧
        ((read word).map fun (value, rest) => (make value, rest)) = .ok (result, []) := by
  rw [map_pair_eq_ok_iff, map_pair_eq_ok_iff]
  constructor
  · rintro ⟨value, scanned, rfl⟩
    obtain ⟨rfl, alone⟩ := (reads.place blanks stands detached).mp scanned
    exact ⟨rfl, value, alone, rfl⟩
  · rintro ⟨rfl, value, alone, rfl⟩
    exact ⟨value, (reads.place blanks stands detached).mpr ⟨rfl, alone⟩, rfl⟩

/-- A truth value is read alike wherever it stands. -/
theorem reads_boolean : Reads readBoolean fun value text rest =>
    text = (Json.boolean value).text.toList ++ rest where
  spelled := readBoolean_eq_ok_iff
  opens := by
    rintro (_ | _) _ rest rfl
    · exact ⟨'f', _, rfl, rfl, by decide⟩
    · exact ⟨'t', _, rfl, rfl, by decide⟩
  told := by
    refine told_of_framed (fun value => framed_word (by cases value <;> simp [Json.text])) ?_
    rintro depth _ rest (_ | _) behind stands rfl
    · exact List.append_cancel_left (begun_of_value (c := 'f') stands)
    · exact List.append_cancel_left (begun_of_value (c := 't') stands)

/-- An object of a mode is a part of its own. -/
theorem framed_modeObject (mode : SentinelMode) : Framed (ModeObject mode) :=
  (framed_blanks '"').then ((frames_scanString mode.name).then ((framed_blanks ':').then
    ((framed_word (by simp)).behind_blanks.then (framed_blanks '\x7d'))))

/-- The value of a mode is a part of its own. -/
theorem framed_modeValue (mode : SentinelMode) : Framed (ModeValue mode) := by
  rintro _ rest (⟨name, rfl, scanned⟩ | ⟨inside, rfl, object⟩)
  · obtain ⟨taken, -, rfl, frame⟩ := frames_scanString _ scanned
    exact ⟨'"' :: taken, by simp, rfl, fun other => .inl ⟨_, rfl, frame other⟩⟩
  · obtain ⟨taken, -, rfl, frame⟩ := framed_modeObject mode object
    exact ⟨'\x7b' :: taken, by simp, rfl, fun other => .inr ⟨_, rfl, frame other⟩⟩

/-- A string that is scanned is one of JSON. -/
theorem characters_of_scanString {text rest : List Char} {name : String}
    (scanned : scanString text = .ok (name, rest)) : Characters Dialect.all.code text rest :=
  characters_of_decoded ((leaves_scanString text rest).mp ⟨name, scanned⟩)

/-- An object that names a mode is an object. -/
theorem enclosed_of_modeObject {mode : SentinelMode} {text rest : List Char}
    (object : ModeObject mode text rest) :
    Enclosed (Member Dialect.all.code (Value .all 0)) '\x7d' text rest := by
  obtain ⟨key, blanks, behind, scanned, colon, mark, after, ⟨_, spaces, rfl⟩, closed⟩ := object
  have null : Value .all 0 ("null".toList ++ after) after := Scalar.null
  exact .inr (.last blanks (.intro (characters_of_scanString scanned) mark spaces null) closed)

/-- A mode is read alike wherever it stands. -/
theorem reads_mode : Reads readMode ModeValue where
  spelled := readMode_eq_ok_iff
  opens := by
    rintro mode _ rest (⟨name, rfl, -⟩ | ⟨inside, rfl, -⟩)
    · exact ⟨'"', name, rfl, rfl, by decide⟩
    · exact ⟨'\x7b', inside, rfl, rfl, by decide⟩
  told := by
    refine told_of_framed framed_modeValue ?_
    rintro depth _ rest mode behind stands (⟨name, rfl, scanned⟩ | ⟨inside, rfl, object⟩)
    · exact (characters_of_scanString scanned).unique (begun_of_value (c := '"') stands)
    · obtain ⟨inner, -, enclosed⟩ : ∃ inner, depth = inner + 1 ∧
          Enclosed (Member Dialect.all.code (Value .all inner)) '\x7d' inside rest :=
        begun_of_value (c := '\x7b') stands
      have meet := (meet_value 0 inner).member (opens_value ..) (opens_value ..)
      exact (enclosed_of_modeObject object).unique meet (opens_member ..) (opens_member ..)
        (.inr rfl) enclosed

/-- A value that begins like a number is a number literal. -/
theorem exists_numeral_of_value {depth : Nat} {c : Char} {others rest : List Char}
    (stands : Value .all depth (c :: others) rest) (begins : c = '-' ∨ Decimal.isDigit c = true) :
    ∃ numeral : Numeral, c :: others = numeral.text ++ rest := by
  have other {d : Char} (known : d ≠ '-' ∧ Decimal.isDigit d = false) : c ≠ d :=
    ne_of_numeral begins known
  have begun := begun_of_value stands
  simpa only [Begun, other (d := 'n') (by decide), other (d := 't') (by decide),
    other (d := 'f') (by decide), other (d := '"') (by decide), other (d := '[') (by decide),
    other (d := '\x7b') (by decide), if_false] using begun

/-- A limit is read alike wherever it stands. -/
theorem reads_limit : Reads readLimit LimitValue where
  spelled := readLimit_eq_ok_iff
  opens := by
    rintro limit _ rest (⟨-, rfl⟩ | ⟨size, -, c, others, number, rfl, numeral, -⟩)
    · exact ⟨'n', _, rfl, rfl, by decide⟩
    · exact ⟨c, others, rfl, isBlank_numeral numeral, ne_of_numeral numeral (by decide),
        ne_of_numeral numeral (by decide)⟩
  told := by
    rintro depth word rest limit behind stands detached (⟨rfl, same⟩ | ⟨size, rfl, value⟩)
    · have begun := begun_of_value (c := 'n') (same ▸ stands)
      obtain rfl : behind = rest := List.append_cancel_left begun
      obtain rfl : word = "null".toList := List.append_cancel_right same
      exact ⟨rfl, fun other _ => .inl ⟨rfl, rfl⟩⟩
    · obtain ⟨c, others, number, same, begins, scanned, positive, known⟩ := value
      obtain ⟨numeral, text⟩ := exists_numeral_of_value (same ▸ stands) begins
      obtain rfl : word = numeral.text := List.append_cancel_right (same.trans text)
      obtain ⟨rfl, frame⟩ := scanNumber_integer detached scanned
      refine ⟨rfl, fun other detached => .inr ⟨size, rfl, ?_⟩⟩
      obtain ⟨d, digits, split, begins⟩ := numeral.exists_text other
      exact ⟨d, digits, number, split, begins, frame other detached, positive, known⟩

end Places

end HostBridge.Configuration
