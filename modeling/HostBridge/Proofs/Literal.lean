/-
This file shows that a quoted text is read back as it was and up to its last quote.
-/
import HostBridge.Json.Scanner
import HostBridge.Script.Token
import HostBridge.Text.Quoted
import Mathlib.Tactic.IntervalCases

namespace HostBridge

/-- No item is lost when every item becomes at least one. -/
theorem length_le_flatMap {A B : Type} (f : A → List B) (items : List A)
    (filled : ∀ item ∈ items, 1 ≤ (f item).length) : items.length ≤ (items.flatMap f).length := by
  induction items with
  | nil => simp
  | cons item items ih =>
      obtain ⟨first, others⟩ := List.forall_mem_cons.mp filled
      have rest := ih others
      rw [List.flatMap_cons, List.length_append, List.length_cons]
      omega

namespace Text

/-- The characters that are written with a backslash and a mark. -/
def Quoted.marks : List (Char × Char) :=
  [('"', '"'), ('\\', '\\'), ('n', '\n'), ('r', '\r'), ('t', '\t'), ('b', '\x08'), ('f', '\x0c')]

/-- A character is written as it is, with a mark or with its code point. -/
inductive Quoted.Written (c : Char) : List Char → Prop where
  | plain : c ≠ '"' → c ≠ '\\' → 0x20 ≤ c.toNat → Written c [c]
  | mark (mark : Char) : (mark, c) ∈ Quoted.marks → Written c ['\\', mark]
  | code : c.toNat < 0x20 → Written c ('\\' :: 'u' :: hexFixed 4 c.toNat)

theorem Quoted.written_escape (c : Char) : Quoted.Written c (Quoted.escape c) := by
  have known (code : Nat) (d : Char) (own : d.toNat = code) (same : c.toNat = code) : c = d :=
    Char.toNat_inj.mp (same.trans own.symm)
  unfold escape
  split
  · next same => exact .mark '"' (by simp [same, marks])
  split
  · next same => exact .mark '\\' (by simp [same, marks])
  split
  · next same => exact .mark 'n' (by simp [same, marks])
  split
  · next same => exact .mark 'r' (by simp [same, marks])
  split
  · next same => exact .mark 't' (by simp [same, marks])
  split
  · next same => exact .mark 'b' (by simp [known 0x08 '\x08' rfl same, marks])
  split
  · next same => exact .mark 'f' (by simp [known 0x0C '\x0c' rfl same, marks])
  split
  · next low => exact .code low
  · next noQuote noBackslash _ _ _ _ _ high =>
      exact .plain noQuote noBackslash (Nat.le_of_not_lt high)

/-- A hexadecimal digit is read back. -/
theorem hexValue?_hexDigit (value : Nat) : hexValue? (hexDigit value) = some (value % 16) := by
  have checked : ∀ digit < 16, hexValue? (hexDigit digit) = some digit := by decide
  have same : hexDigit value = hexDigit (value % 16) := by simp [hexDigit]
  rw [same, checked _ (Nat.mod_lt value (by decide))]

/-- Four digits hold sixteen bits. -/
theorem hexFour?_hexFixed (value : Nat) (small : value < 0x10000) (rest : List Char) :
    hexFour? (hexFixed 4 value ++ rest) = some value := by
  simp only [hexFixed, List.nil_append, List.cons_append, hexFour?, hexValue?_hexDigit,
    Option.bind_eq_bind, Option.bind_some, Option.some.injEq]
  omega

theorem Quoted.Written.length_pos {c : Char} {written : List Char}
    (form : Quoted.Written c written) : 1 ≤ written.length := by
  cases form <;> simp

/-- Escaping makes a text no shorter. -/
theorem Quoted.length_le (text : List Char) : text.length ≤ (text.flatMap escape).length :=
  length_le_flatMap escape text fun c _ => (written_escape c).length_pos

end Text

namespace Json

open Text

/-- Four hexadecimal digits of a number are read back. -/
theorem scanHex_hexFixed (value : Nat) (small : value < 0x10000) (rest : List Char) :
    scanHex (hexFixed 4 value ++ rest) = .ok (value, rest) := by
  have wide : ¬ byteLength ((hexFixed 4 value ++ rest).take 4) < 4 := by
    have size (c : Char) : 1 ≤ c.utf8Size := Char.utf8Size_pos c
    have first := size (hexDigit (value / 16 / 16 / 16))
    have second := size (hexDigit (value / 16 / 16))
    have third := size (hexDigit (value / 16))
    have fourth := size (hexDigit value)
    simp only [hexFixed, List.nil_append, List.cons_append, List.take_succ_cons, List.take_zero,
      byteLength, List.foldr_cons, List.foldr_nil]
    omega
  rw [scanHex, if_neg wide, hexFour?_hexFixed value small]
  simp [hexFixed]

/-- A written character is read as the character. -/
theorem scanCharacters_written (bound : Nat) {c : Char} {written : List Char}
    (form : Quoted.Written c written) (rest : List Char) :
    scanCharacters (bound + 1) (written ++ rest) =
      (scanCharacters bound rest).map fun (text, rest) => (c :: text, rest) := by
  cases form with
  | plain noQuote noBackslash high =>
      simp [scanCharacters, noQuote, noBackslash, Nat.not_lt.mpr high]
  | mark mark known =>
      have read : scanEscape (mark :: rest) = .ok (c, rest) := by
        simp only [Quoted.marks, List.mem_cons, Prod.mk.injEq, List.not_mem_nil, or_false] at known
        rcases known with ⟨rfl, rfl⟩ | ⟨rfl, rfl⟩ | ⟨rfl, rfl⟩ | ⟨rfl, rfl⟩ | ⟨rfl, rfl⟩ |
          ⟨rfl, rfl⟩ | ⟨rfl, rfl⟩ <;> rfl
      simp [scanCharacters, read]
  | code low =>
      have read : scanEscape ('u' :: (hexFixed 4 c.toNat ++ rest)) = .ok (c, rest) := by
        have noLow : ¬ 0xDC00 ≤ c.toNat := by omega
        have noHigh : ¬ 0xD800 ≤ c.toNat := by omega
        simp [scanEscape, scanHex_hexFixed c.toNat (by omega), noLow, noHigh]
      simp [scanCharacters, read]

/-- Escaped characters are read back up to the quotation mark. -/
theorem scanCharacters_quoted (text rest : List Char) (bound : Nat) (enough : text.length < bound) :
    scanCharacters bound (text.flatMap Quoted.escape ++ '"' :: rest) = .ok (text, rest) := by
  induction text generalizing bound with
  | nil =>
      obtain ⟨bound, rfl⟩ := Nat.exists_eq_succ_of_ne_zero (Nat.ne_of_gt enough)
      simp [scanCharacters]
  | cons c text ih =>
      obtain ⟨bound, rfl⟩ := Nat.exists_eq_succ_of_ne_zero (Nat.ne_zero_of_lt enough)
      rw [List.flatMap_cons, List.append_assoc,
        scanCharacters_written bound (Quoted.written_escape c), ih bound (Nat.lt_of_succ_lt_succ enough)]
      rfl

/-- A literal ends where the quoted text ends, whatever the text holds and whatever follows. -/
theorem scanString_quoted (text : String) (rest : List Char) :
    scanString (text.toList.flatMap Quoted.escape ++ '"' :: rest) = .ok (text, rest) := by
  rw [scanString, scanCharacters_quoted]
  · simp [Except.map]
  · have grown := Quoted.length_le text.toList
    rw [List.length_append, List.length_cons]
    omega

end Json

namespace Script

open Text

theorem Cursor.advance_advance (cursor : Cursor) (first second : Nat) :
    (cursor.advance first).advance second = cursor.advance (first + second) := by
  simp [advance, Nat.add_assoc]

/-- A cursor that is advanced stands behind what it passed. -/
theorem Cursor.advance_rest (cursor : Cursor) (first rest : List Char)
    (here : cursor.rest = first ++ rest) : (cursor.advance first.length).rest = rest := by
  simp [advance, here]

/-- The escape of a control character is read as its number. -/
theorem readEscape_code (value : Nat) (low : value < 0x20) (rest : List Char) :
    readEscape ('u' :: (hexFixed 4 value ++ rest)) = .code value 5 := by
  interval_cases value <;> rfl

/-- A script reads a written character as the units of the character. -/
theorem Cursor.readQuoted_written (mode : Mode) (bound : Nat) (before : Units) (cursor : Cursor)
    {c : Char} {written : List Char} (form : Quoted.Written c written) (rest : List Char)
    (here : cursor.rest = written ++ rest) :
    Cursor.readQuoted mode '"' (bound + 1) before cursor =
      Cursor.readQuoted mode '"' bound ((charUnits c).reverse ++ before)
        (cursor.advance written.length) := by
  cases form with
  | plain noQuote noBackslash high =>
      have noFeed : c ≠ '\n' := by
        rintro rfl
        exact absurd high (by decide)
      have noReturn : c ≠ '\r' := by
        rintro rfl
        exact absurd high (by decide)
      simp [Cursor.readQuoted, here, noQuote, noBackslash, noFeed, noReturn]
  | mark mark known =>
      simp only [Quoted.marks, List.mem_cons, Prod.mk.injEq, List.not_mem_nil, or_false] at known
      simp only [Cursor.readQuoted, here]
      rcases known with ⟨rfl, rfl⟩ | ⟨rfl, rfl⟩ | ⟨rfl, rfl⟩ | ⟨rfl, rfl⟩ | ⟨rfl, rfl⟩ |
        ⟨rfl, rfl⟩ | ⟨rfl, rfl⟩ <;> rfl
  | code low =>
      have small : c.toNat < 0x10000 := by omega
      have noDigit : isDigit 'u' = false := by decide
      have noLineEnd : isWideLineEnd 'u' = false := by decide
      have width : (hexFixed 4 c.toNat).length = 4 := rfl
      simp [Cursor.readQuoted, here, escapeIn, readEscape_code c.toNat low rest, noDigit, noLineEnd,
        width, codeUnits, charUnits, small]

/-- A script reads a quoted text as the units of the text and stands behind its last quote. -/
theorem Cursor.readQuoted_quoted (mode : Mode) (text rest : List Char) (bound : Nat)
    (enough : text.length < bound) (before : Units) (cursor : Cursor)
    (here : cursor.rest = text.flatMap Quoted.escape ++ '"' :: rest) :
    Cursor.readQuoted mode '"' bound before cursor =
      .ok (before.reverse ++ text.flatMap charUnits,
        cursor.advance ((text.flatMap Quoted.escape).length + 1)) := by
  induction text generalizing bound before cursor with
  | nil =>
      obtain ⟨bound, rfl⟩ := Nat.exists_eq_succ_of_ne_zero (Nat.ne_of_gt enough)
      simp [Cursor.readQuoted, here]
  | cons c text ih =>
      obtain ⟨bound, rfl⟩ := Nat.exists_eq_succ_of_ne_zero (Nat.ne_zero_of_lt enough)
      rw [List.flatMap_cons, List.append_assoc] at here
      rw [readQuoted_written mode bound before cursor (Quoted.written_escape c) _ here,
        ih bound (Nat.lt_of_succ_lt_succ enough) _ _ (advance_rest cursor _ _ here),
        advance_advance]
      simp [Nat.add_assoc]

/-- The token of a literal is its text, and the next token begins behind its last quote. -/
theorem Cursor.readToken_quote (mode : Mode) (text : String) (rest : List Char) (bound : Nat)
    (enough : text.length < bound) (cursor : Cursor)
    (here : cursor.rest = (quote text).toList ++ rest) :
    Cursor.readToken mode bound cursor =
      .ok (.text (units text), cursor.advance (quote text).toList.length) := by
  have opened : cursor.rest = '"' :: (text.toList.flatMap Quoted.escape ++ '"' :: rest) := by
    simp [here, quote, Quoted.encode]
  have size : 1 + ((text.toList.flatMap Quoted.escape).length + 1) =
      (quote text).toList.length := by
    rw [quote, Quoted.encode, String.toList_ofList]
    simp only [List.cons_append, List.length_cons, List.length_append, List.length_nil]
    omega
  have read := Cursor.readQuoted_quoted mode text.toList rest bound
    (by rwa [String.length_toList]) [] (cursor.advance 1) (advance_rest cursor ['"'] _ opened)
  rw [advance_advance, size, List.reverse_nil, List.nil_append] at read
  simp only [Cursor.readToken, opened, decide_true, Bool.true_or, if_true, read]
  rfl

end Script

end HostBridge
