/-
This file shows that a part of a text stays what it is whatever stands behind it.
-/
import HostBridge.Proofs.Escapes

namespace HostBridge.Json

section Steps

variable {A B : Type} {first : Except Stop A} {value : B}

/-- One step after the other succeeds when both do. -/
theorem bind_eq_ok_iff {next : A → Except Stop B} :
    first.bind next = .ok value ↔ ∃ result, first = .ok result ∧ next result = .ok value := by
  cases first <;> simp [Except.bind]

theorem map_eq_ok_iff {make : A → B} :
    first.map make = .ok value ↔ ∃ result, first = .ok result ∧ make result = value := by
  cases first <;> simp [Except.map]

/-- A fixed result is handed on with what is left. -/
theorem map_const_eq_ok_iff {scan : Except Stop (List Char)} {made : A} {result : A}
    {rest : List Char} :
    (scan.map fun rest => (made, rest)) = .ok (result, rest) ↔ scan = .ok rest ∧ made = result := by
  cases scan <;> simp [Except.map, and_comm]

/-- A scan with another result stops where the first one does. -/
theorem map_pair_eq_ok_iff {scan : Scan A} {make : A → B} {rest : List Char} :
    (scan.map fun (result, rest) => (make result, rest)) = .ok (value, rest) ↔
      ∃ result, scan = .ok (result, rest) ∧ make result = value := by
  obtain _ | ⟨result, behind⟩ := scan <;> simp [Except.map]
  exact and_comm

end Steps

/-- Some characters are taken, and they are taken alike in front of any other text. -/
def Framed (part : Part) : Prop :=
  ∀ ⦃text rest⦄, part text rest →
    ∃ taken, taken ≠ [] ∧ text = taken ++ rest ∧ ∀ other, part (taken ++ other) other

/-- A framed part takes at least one character. -/
theorem Framed.length_lt {part : Part} (framed : Framed part) {text rest : List Char}
    (stands : part text rest) : rest.length < text.length := by
  obtain ⟨taken, filled, rfl, -⟩ := framed stands
  have positive := List.length_pos_iff.mpr filled
  rw [List.length_append]
  omega

/-- What stands behind may be exchanged. -/
theorem Framed.exchange {part : Part} (framed : Framed part) {word rest : List Char}
    (stands : part (word ++ rest) rest) (other : List Char) : part (word ++ other) other := by
  obtain ⟨taken, -, same, frame⟩ := framed stands
  obtain rfl := List.append_cancel_right same
  exact frame other

theorem framed_word {word : List Char} (filled : word ≠ []) :
    Framed fun text rest => text = word ++ rest :=
  fun _ _ same => ⟨word, filled, same, fun _ => rfl⟩

/-- Blanks with a character behind them. -/
theorem framed_blanks (c : Char) : Framed fun text rest => Blanks text (c :: rest) := by
  rintro _ rest ⟨blanks, known, rfl⟩
  exact ⟨blanks ++ [c], by simp, by simp, fun other => ⟨blanks, known, by simp⟩⟩

/-- Blanks may stand in front. -/
theorem Framed.behind_blanks {part : Part} (framed : Framed part) :
    Framed fun text rest => ∃ start, Blanks text start ∧ part start rest := by
  rintro _ rest ⟨start, ⟨blanks, known, rfl⟩, stands⟩
  obtain ⟨taken, filled, rfl, frame⟩ := framed stands
  exact ⟨blanks ++ taken, by simp [filled], by simp, fun other =>
    ⟨taken ++ other, ⟨blanks, known, by simp⟩, frame other⟩⟩

/-- One part behind another. -/
theorem Framed.then {one two : Part} (first : Framed one) (second : Framed two) :
    Framed fun text rest => ∃ behind, one text behind ∧ two behind rest := by
  rintro _ rest ⟨behind, stands, follows⟩
  obtain ⟨taken, filled, rfl, frame⟩ := first stands
  obtain ⟨more, -, rfl, others⟩ := second follows
  refine ⟨taken ++ more, by simp [filled], by simp, fun other => ⟨more ++ other, ?_, others other⟩⟩
  rw [List.append_assoc]
  exact frame _

/-- Four hexadecimal digits are a part of their own. -/
theorem framed_hex (value : Nat) : Framed (Hex value) := by
  rintro _ rest ⟨a, b, c, d, known, rfl⟩
  exact ⟨[a, b, c, d], by simp, rfl, fun other => ⟨a, b, c, d, known, rfl⟩⟩

/-- An escape by a number is a part of its own. -/
theorem framed_code : Framed Dialect.all.code := by
  rintro _ rest ⟨value, hex⟩
  obtain ⟨taken, filled, rfl, frame⟩ := framed_hex value hex
  exact ⟨taken, filled, rfl, fun other => ⟨value, frame other⟩⟩

/-- The characters of a string are a part of their own if their escapes are. -/
theorem Framed.characters {code : Part} (framed : Framed code) : Framed (Characters code) := by
  intro text rest characters
  induction characters with
  | close => exact ⟨['"'], by simp, rfl, fun _ => .close⟩
  | @plain c _ _ noQuote noBackslash visible _ ih =>
      obtain ⟨taken, -, rfl, frame⟩ := ih
      exact ⟨c :: taken, by simp, rfl, fun other =>
        .plain noQuote noBackslash visible (frame other)⟩
  | @escape c _ _ plain _ ih =>
      obtain ⟨taken, -, rfl, frame⟩ := ih
      exact ⟨'\\' :: c :: taken, by simp, rfl, fun other => .escape plain (frame other)⟩
  | numeric stands _ ih =>
      obtain ⟨taken, -, rfl, frame⟩ := ih
      obtain ⟨digits, -, rfl, others⟩ := framed stands
      refine ⟨'\\' :: 'u' :: (digits ++ taken), by simp, by simp, fun other => ?_⟩
      exact .numeric (by simpa using others _) (frame other)

section Lists

variable {element : Part} (framed : Framed element) {close : Char}

include framed

/-- The elements between brackets are a part of their own if each one is. -/
theorem Framed.elements : Framed (Elements element close) := by
  intro text rest elements
  induction elements with
  | last blanks stands ends =>
      obtain ⟨taken, filled, rfl, frame⟩ :=
        (framed.behind_blanks.then (framed_blanks close)) ⟨_, ⟨_, blanks, stands⟩, ends⟩
      refine ⟨taken, filled, rfl, fun other => ?_⟩
      obtain ⟨_, ⟨_, blanks, stands⟩, ends⟩ := frame other
      exact .last blanks stands ends
  | more blanks stands comma _ ih =>
      obtain ⟨others, -, rfl, follow⟩ := ih
      obtain ⟨taken, filled, rfl, frame⟩ :=
        (framed.behind_blanks.then (framed_blanks ',')) ⟨_, ⟨_, blanks, stands⟩, comma⟩
      refine ⟨taken ++ others, by simp [filled], by simp, fun other => ?_⟩
      obtain ⟨_, ⟨_, blanks, stands⟩, comma⟩ := frame (others ++ other)
      rw [List.append_assoc]
      exact .more blanks stands comma (follow other)

theorem Framed.enclosed : Framed (Enclosed element close) := by
  rintro text rest (closed | elements)
  · obtain ⟨taken, filled, rfl, frame⟩ := framed_blanks close closed
    exact ⟨taken, filled, rfl, fun other => .inl (frame other)⟩
  · obtain ⟨taken, filled, rfl, frame⟩ := framed.elements elements
    exact ⟨taken, filled, rfl, fun other => .inr (frame other)⟩

/-- A member is a part of its own if its value is. -/
theorem Framed.member : Framed (Member Dialect.all.code element) := by
  rintro _ rest ⟨key, colon, blanks, stands⟩
  obtain ⟨taken, -, rfl, frame⟩ :=
    (framed_code.characters.then ((framed_blanks ':').then framed.behind_blanks))
      ⟨_, key, _, colon, _, blanks, stands⟩
  refine ⟨'"' :: taken, by simp, rfl, fun other => ?_⟩
  obtain ⟨_, key, _, colon, _, blanks, stands⟩ := frame other
  exact .intro key colon blanks stands

end Lists

/-- A value without brackets is a part of its own. -/
theorem framed_scalar : Framed (Scalar .all) := by
  intro text rest scalar
  cases scalar with
  | null => exact ⟨"null".toList, by simp, rfl, fun _ => .null⟩
  | true => exact ⟨"true".toList, by simp, rfl, fun _ => .true⟩
  | false => exact ⟨"false".toList, by simp, rfl, fun _ => .false⟩
  | string characters =>
      obtain ⟨taken, -, rfl, frame⟩ := framed_code.characters characters
      exact ⟨'"' :: taken, by simp, rfl, fun other => .string (frame other)⟩
  | number numeral known =>
      have filled : numeral.text ≠ [] := by
        intro empty
        exact numeral.whole.filled (by simp_all [Numeral.text, Numeral.unsignedText])
      exact ⟨numeral.text, filled, rfl, fun _ => .number numeral known⟩

/-- A value is a part of its own, by induction on its depth. -/
theorem framed_value (depth : Nat) : Framed (Value .all depth) := by
  induction depth with
  | zero => exact framed_scalar
  | succ depth ih =>
      rintro text rest (scalar | ⟨items⟩ | ⟨members⟩)
      · obtain ⟨taken, filled, rfl, frame⟩ := framed_scalar scalar
        exact ⟨taken, filled, rfl, fun other => .inl (frame other)⟩
      · obtain ⟨taken, -, rfl, frame⟩ := ih.enclosed items
        exact ⟨'[' :: taken, by simp, rfl, fun other => .inr (.array (frame other))⟩
      · obtain ⟨taken, -, rfl, frame⟩ := ih.member.enclosed members
        exact ⟨'\x7b' :: taken, by simp, rfl, fun other => .inr (.object (frame other))⟩

section Strings

/-- A reader that succeeds takes some characters and does alike in front of any other text. -/
def Frames {A : Type} (scan : List Char → Scan A) : Prop :=
  ∀ value, Framed fun text rest => scan text = .ok (value, rest)

theorem scanLowSurrogate_hex (high : Nat) {low : Nat} {digits rest : List Char}
    (hex : Hex low digits rest) (range : 0xDC00 ≤ low ∧ low ≤ 0xDFFF) :
    scanLowSurrogate high ('\\' :: 'u' :: digits) =
      .ok (Text.pairedChar high.toUInt16 low.toUInt16, rest) := by
  simp [scanLowSurrogate, (scanHex_iff ..).mpr hex, range]

/-- Both halves of a character are scanned as the character. -/
theorem scanEscape_pair {high low : Nat} {text digits rest : List Char}
    (hex : Hex high text ('\\' :: 'u' :: digits)) (leads : 0xD800 ≤ high ∧ high ≤ 0xDBFF)
    (found : Hex low digits rest) (range : 0xDC00 ≤ low ∧ low ≤ 0xDFFF) :
    scanEscape ('u' :: text) = .ok (Text.pairedChar high.toUInt16 low.toUInt16, rest) := by
  have other : ¬ (0xDC00 ≤ high ∧ high ≤ 0xDFFF) := fun within => by omega
  simp [scanEscape, (scanHex_iff ..).mpr hex, other, leads, scanLowSurrogate_hex high found range]

/-- The number of a whole character is scanned as the character. -/
theorem scanEscape_single {code : Nat} {text rest : List Char} (hex : Hex code text rest)
    (single : ¬ (0xD800 ≤ code ∧ code ≤ 0xDFFF)) :
    scanEscape ('u' :: text) = .ok (Char.ofNat code, rest) := by
  have low : ¬ (0xDC00 ≤ code ∧ code ≤ 0xDFFF) := fun within => single (by omega)
  have high : ¬ (0xD800 ≤ code ∧ code ≤ 0xDBFF) := fun within => single (by omega)
  simp [scanEscape, (scanHex_iff ..).mpr hex, low, high]

theorem scanEscape_plain {c d : Char} (plain : plainEscape? c = some d) (rest : List Char) :
    scanEscape (c :: rest) = .ok (d, rest) := by
  have other : c ≠ 'u' := by
    rintro rfl
    cases plain
  simp [scanEscape, plain]

/-- What stands behind an escape does not change how it is scanned. -/
theorem frames_scanEscape : Frames scanEscape := by
  intro value text rest scanned
  rcases (leaves_scanEscape text rest).mp ⟨value, scanned⟩ with ⟨c, rfl, known⟩ | ⟨text, rfl, code⟩
  · obtain ⟨d, plain⟩ := Option.isSome_iff_exists.mp known
    rw [scanEscape_plain plain] at scanned
    cases scanned
    exact ⟨[c], by simp, rfl, fun other => scanEscape_plain plain other⟩
  · cases code with
    | single hex single =>
        rw [scanEscape_single hex single] at scanned
        cases scanned
        obtain ⟨taken, -, rfl, frame⟩ := framed_hex _ hex
        exact ⟨'u' :: taken, by simp, rfl, fun other => scanEscape_single (frame other) single⟩
    | pair hex leads found range =>
        rw [scanEscape_pair hex leads found range] at scanned
        obtain ⟨rfl, -⟩ := Prod.mk.inj (Except.ok.inj scanned)
        obtain ⟨second, -, rfl, frame⟩ := framed_hex _ found
        obtain ⟨first, -, rfl, before⟩ := framed_hex _ hex
        refine ⟨'u' :: (first ++ '\\' :: 'u' :: second), by simp, by simp, fun other => ?_⟩
        rw [List.cons_append, List.append_assoc]
        exact scanEscape_pair (before _) leads (frame other) range

/-- Any bound will do that is not less than the number of characters taken. -/
theorem scanCharacters_frame {bound : Nat} {text rest value : List Char}
    (scanned : scanCharacters bound text = .ok (value, rest)) :
    ∃ taken, taken ≠ [] ∧ text = taken ++ rest ∧ ∀ other enough, taken.length ≤ enough →
      scanCharacters enough (taken ++ other) = .ok (value, other) := by
  induction bound generalizing text value with
  | zero => cases scanned
  | succ bound ih =>
      obtain _ | ⟨c, text⟩ := text
      · cases scanned
      rw [scanCharacters] at scanned
      split_ifs at scanned with quote backslash control
      · cases scanned
        refine ⟨['"'], by simp, by simp [quote], fun other enough least => ?_⟩
        obtain ⟨enough, rfl⟩ := Nat.exists_eq_add_of_le' least
        simp [scanCharacters]
      · cases escaped : scanEscape text with
        | error stop => simp [escaped] at scanned
        | ok read =>
            obtain ⟨plain, behind⟩ := read
            cases others : scanCharacters bound behind with
            | error stop => simp [escaped, others, Except.map] at scanned
            | ok read =>
                obtain ⟨value, rest⟩ := read
                simp only [escaped, others, Except.map] at scanned
                cases scanned
                obtain ⟨first, -, rfl, before⟩ := frames_scanEscape _ escaped
                obtain ⟨second, -, rfl, frame⟩ := ih others
                refine ⟨'\\' :: (first ++ second), by simp, by simp [backslash],
                  fun other enough least => ?_⟩
                obtain ⟨enough, rfl⟩ := Nat.exists_eq_add_of_le' (Nat.one_le_of_lt least)
                have left := frame other enough (by simp at least; omega)
                have start := before (second ++ other)
                simp [scanCharacters, start, left, Except.map]
      · cases scanned
      · cases others : scanCharacters bound text with
        | error stop => simp [others, Except.map] at scanned
        | ok read =>
            obtain ⟨value, rest⟩ := read
            simp only [others, Except.map] at scanned
            cases scanned
            obtain ⟨taken, -, rfl, frame⟩ := ih others
            refine ⟨c :: taken, by simp, rfl, fun other enough least => ?_⟩
            obtain ⟨enough, rfl⟩ := Nat.exists_eq_add_of_le' (Nat.one_le_of_lt least)
            have left := frame other enough (by simpa using least)
            simp [scanCharacters, quote, backslash, control, left, Except.map]

/-- What stands behind a string does not change how it is scanned. -/
theorem frames_scanString : Frames scanString := by
  intro name text rest scanned
  cases found : scanCharacters (text.length + 1) text with
  | error stop => simp [scanString, found, Except.map] at scanned
  | ok read =>
      obtain ⟨value, behind⟩ := read
      simp only [scanString, found, Except.map] at scanned
      cases scanned
      obtain ⟨taken, filled, rfl, frame⟩ := scanCharacters_frame found
      refine ⟨taken, filled, rfl, fun other => ?_⟩
      have left := frame other ((taken ++ other).length + 1) (by simp; omega)
      show scanString (taken ++ other) = _
      rw [scanString, left]
      rfl

end Strings

end HostBridge.Json
