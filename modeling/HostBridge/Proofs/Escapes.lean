/-
This file shows which string literals are read, and that their reading ends where they do.
-/
import HostBridge.Proofs.Numeral

namespace HostBridge.Json

open Text

/-- The code of a character: one code unit, or two that are a pair of surrogates. -/
inductive PairedCode : Part where
  | single {code : Nat} {text rest : List Char} : Hex code text rest →
      ¬ (0xD800 ≤ code ∧ code ≤ 0xDFFF) → PairedCode text rest
  | pair {high low : Nat} {text digits rest : List Char} :
      Hex high text ('\\' :: 'u' :: digits) → 0xD800 ≤ high ∧ high ≤ 0xDBFF →
      Hex low digits rest → 0xDC00 ≤ low ∧ low ≤ 0xDFFF → PairedCode text rest

/-- Four hexadecimal digits are scanned as their number. -/
theorem scanHex_iff (text : List Char) (value : Nat) (rest : List Char) :
    scanHex text = .ok (value, rest) ↔ Hex value text rest := by
  constructor
  · intro scanned
    unfold scanHex at scanned
    split at scanned
    · cases scanned
    · split at scanned
      · next found =>
          obtain ⟨rfl, rfl⟩ : _ = value ∧ text.drop 4 = rest := by simpa using scanned
          unfold hexFour? at found
          split at found
          · exact ⟨_, _, _, _, found, rfl⟩
          · cases found
      · cases scanned
  · rintro ⟨a, b, c, d, found, rfl⟩
    have enough : ¬ byteLength ((a :: b :: c :: d :: rest).take 4) < 4 := by
      have one := a.utf8Size_pos
      have two := b.utf8Size_pos
      have three := c.utf8Size_pos
      have four := d.utf8Size_pos
      simp only [List.take_succ_cons, List.take_zero, byteLength, List.foldr_cons, List.foldr_nil]
      omega
    have same : hexFour? (a :: b :: c :: d :: rest) = some value := found
    rw [scanHex, if_neg enough, same]
    rfl

/-- Behind the first half of a character its second half must stand. -/
theorem leaves_scanLowSurrogate (high : Nat) (text rest : List Char) :
    Leaves (scanLowSurrogate high text) rest ↔
      ∃ low digits, text = '\\' :: 'u' :: digits ∧ Hex low digits rest ∧
        0xDC00 ≤ low ∧ low ≤ 0xDFFF := by
  constructor
  · intro leaves
    unfold scanLowSurrogate at leaves
    split at leaves
    · simp [stopAt] at leaves
    · split at leaves
      · simp [stopAt] at leaves
      · next digits =>
          cases scanned : scanHex digits with
          | error stop => simp [scanned] at leaves
          | ok read =>
              obtain ⟨low, behind⟩ := read
              by_cases range : 0xDC00 ≤ low ∧ low ≤ 0xDFFF
              · obtain rfl : behind = rest := by simpa [scanned, range] using leaves
                exact ⟨low, digits, rfl, (scanHex_iff digits low behind).mp scanned, range⟩
              · simp [scanned, range, stopAt] at leaves
      · simp [stopAfter] at leaves
    · simp [stopAfter] at leaves
  · rintro ⟨low, digits, rfl, hex, range⟩
    have scanned := (scanHex_iff digits low rest).mpr hex
    simp [scanLowSurrogate, scanned, range]

/-- An escape by a number is scanned exactly when halves of characters come in pairs. -/
theorem leaves_scanEscape_code (text rest : List Char) :
    Leaves (scanEscape ('u' :: text)) rest ↔ PairedCode text rest := by
  constructor
  · intro leaves
    cases scanned : scanHex text with
    | error stop => simp [scanEscape, scanned] at leaves
    | ok read =>
        obtain ⟨code, behind⟩ := read
        have hex := (scanHex_iff text code behind).mp scanned
        by_cases low : 0xDC00 ≤ code ∧ code ≤ 0xDFFF
        · simp [scanEscape, scanned, low, stopAt] at leaves
        · by_cases high : 0xD800 ≤ code ∧ code ≤ 0xDBFF
          · have second : Leaves (scanLowSurrogate code behind) rest := by
              simpa [scanEscape, scanned, low, high] using leaves
            obtain ⟨other, digits, rfl, found, range⟩ :=
              (leaves_scanLowSurrogate code behind rest).mp second
            exact .pair hex high found range
          · obtain rfl : behind = rest := by simpa [scanEscape, scanned, low, high] using leaves
            exact .single hex (by omega)
  · intro paired
    cases paired with
    | @single code _ _ hex single =>
        have low : ¬ (0xDC00 ≤ code ∧ code ≤ 0xDFFF) := fun within => single (by omega)
        have high : ¬ (0xD800 ≤ code ∧ code ≤ 0xDBFF) := fun within => single (by omega)
        simp [scanEscape, (scanHex_iff ..).mpr hex, low, high]
    | @pair high low _ _ _ hex leads found range =>
        have second := (leaves_scanLowSurrogate high _ rest).mpr ⟨low, _, rfl, found, range⟩
        have other : ¬ (0xDC00 ≤ high ∧ high ≤ 0xDFFF) := fun within => by omega
        simpa [scanEscape, (scanHex_iff ..).mpr hex, other, leads] using second

/-- An escape of one letter is scanned exactly when the letter has a meaning. -/
theorem leaves_scanEscape_plain {c : Char} (different : c ≠ 'u') (text rest : List Char) :
    Leaves (scanEscape (c :: text)) rest ↔ (plainEscape? c).isSome ∧ text = rest := by
  cases plain : plainEscape? c <;> simp [scanEscape, plain, stopAfter]

/-- An escape is one letter, or a number whose halves come in pairs. -/
theorem leaves_scanEscape (text rest : List Char) :
    Leaves (scanEscape text) rest ↔
      (∃ c, text = c :: rest ∧ (plainEscape? c).isSome) ∨
        ∃ digits, text = 'u' :: digits ∧ PairedCode digits rest := by
  obtain _ | ⟨c, text⟩ := text
  · simp [scanEscape, stopAt]
  · by_cases numeric : c = 'u'
    · subst numeric
      have none : (plainEscape? 'u').isSome = false := rfl
      simp [leaves_scanEscape_code, none]
    · rw [leaves_scanEscape_plain numeric]
      simp [numeric, and_comm]

theorem Hex.length_eq {value : Nat} {text rest : List Char} (hex : Hex value text rest) :
    text.length = rest.length + 4 := by
  obtain ⟨a, b, c, d, -, rfl⟩ := hex
  rfl

theorem PairedCode.length_lt {text rest : List Char} (paired : PairedCode text rest) :
    rest.length < text.length := by
  cases paired with
  | single hex _ =>
      have size := hex.length_eq
      omega
  | pair hex _ found _ =>
      have size := hex.length_eq
      have next := found.length_eq
      simp only [List.length_cons] at size
      omega

/-- The length of the text bounds the characters that are read. -/
theorem leaves_scanCharacters_cons (bound : Nat) (c : Char) (text rest : List Char) :
    Leaves (scanCharacters (bound + 1) (c :: text)) rest ↔
      if c = '"' then text = rest
      else if c = '\\' then
        ∃ behind, Leaves (scanEscape text) behind ∧ Leaves (scanCharacters bound behind) rest
      else 0x20 ≤ c.toNat ∧ Leaves (scanCharacters bound text) rest := by
  rw [scanCharacters]
  split
  · exact leaves_ok
  · split
    · cases scanned : scanEscape text with
      | error stop => simp
      | ok read =>
          obtain ⟨plain, behind⟩ := read
          simp [leaves_map]
    · split
      · next control => simp [not_le.mpr control, stopAfter]
      · next visible => rw [leaves_map, and_iff_right (not_lt.mp visible)]

/-- What is scanned are the characters of a string up to its end. -/
theorem characters_of_scanCharacters {bound : Nat} {text rest : List Char}
    (leaves : Leaves (scanCharacters bound text) rest) : Characters PairedCode text rest := by
  induction bound generalizing text with
  | zero => simp [scanCharacters, stopAt] at leaves
  | succ bound ih =>
      obtain _ | ⟨c, text⟩ := text
      · simp [scanCharacters, stopAt] at leaves
      · rw [leaves_scanCharacters_cons] at leaves
        split at leaves
        · next quote =>
            rw [quote, leaves]
            exact .close
        · next noQuote =>
            split at leaves
            · next backslash =>
                obtain ⟨behind, escaped, others⟩ := leaves
                rw [backslash]
                obtain ⟨d, rfl, plain⟩ | ⟨digits, rfl, paired⟩ :=
                  (leaves_scanEscape text behind).mp escaped
                · exact .escape plain (ih others)
                · exact .numeric paired (ih others)
            · next noBackslash => exact .plain noQuote noBackslash leaves.1 (ih leaves.2)

/-- All characters of a string are scanned up to its end. -/
theorem scanCharacters_of_characters {text rest : List Char}
    (characters : Characters PairedCode text rest) {bound : Nat} (enough : text.length < bound) :
    Leaves (scanCharacters bound text) rest := by
  induction characters generalizing bound with
  | close =>
      obtain ⟨bound, rfl⟩ := Nat.exists_eq_succ_of_ne_zero (Nat.ne_zero_of_lt enough)
      rw [Nat.succ_eq_add_one, leaves_scanCharacters_cons, if_pos rfl]
  | plain noQuote noBackslash visible _ ih =>
      obtain ⟨bound, rfl⟩ := Nat.exists_eq_succ_of_ne_zero (Nat.ne_zero_of_lt enough)
      rw [Nat.succ_eq_add_one, leaves_scanCharacters_cons, if_neg noQuote, if_neg noBackslash]
      exact ⟨visible, ih (by simpa using enough)⟩
  | @escape c text rest plain _ ih =>
      obtain ⟨bound, rfl⟩ := Nat.exists_eq_succ_of_ne_zero (Nat.ne_zero_of_lt enough)
      rw [Nat.succ_eq_add_one, leaves_scanCharacters_cons, if_neg (by decide), if_pos rfl]
      simp only [List.length_cons] at enough
      exact ⟨text, (leaves_scanEscape ..).mpr (.inl ⟨c, rfl, plain⟩), ih (by omega)⟩
  | @numeric text behind rest paired _ ih =>
      obtain ⟨bound, rfl⟩ := Nat.exists_eq_succ_of_ne_zero (Nat.ne_zero_of_lt enough)
      rw [Nat.succ_eq_add_one, leaves_scanCharacters_cons, if_neg (by decide), if_pos rfl]
      have shorter := paired.length_lt
      simp only [List.length_cons] at enough
      exact ⟨behind, (leaves_scanEscape ..).mpr (.inr ⟨text, rfl, paired⟩), ih (by omega)⟩

/-- The rest behind a string is shorter, so that the bound of the scan is never reached. -/
theorem Characters.length_lt {text rest : List Char} (characters : Characters PairedCode text rest) :
    rest.length < text.length := by
  induction characters with
  | close => exact Nat.lt_succ_self _
  | plain _ _ _ _ ih => exact Nat.lt_succ_of_lt ih
  | escape _ _ ih => exact Nat.lt_succ_of_lt (Nat.lt_succ_of_lt ih)
  | numeric paired _ ih =>
      exact Nat.lt_succ_of_lt (Nat.lt_succ_of_lt (Nat.lt_trans ih paired.length_lt))

/-- A string is scanned exactly up to its quotation mark. -/
theorem leaves_scanString (text rest : List Char) :
    Leaves (scanString text) rest ↔ Characters PairedCode text rest := by
  rw [scanString, leaves_map]
  exact ⟨characters_of_scanCharacters,
    fun characters => scanCharacters_of_characters characters (Nat.lt_succ_self _)⟩

end HostBridge.Json
