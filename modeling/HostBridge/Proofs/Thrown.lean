/-
This file shows what is read of a thrown message, whose code units need not be text.
-/
import HostBridge.Proofs.Accepting
import HostBridge.Proofs.Literal
import HostBridge.Script.Library.JsonWriter
import Mathlib.Data.List.Basic

namespace HostBridge

open Json Text

/-- What a script writes in place of its value when it throws an error with the message. -/
def thrownText (message : List UInt16) : String :=
  "\x7b\"error\":" ++ Script.quoteUnits message ++ "\x7d"

/-- How a character or a lone surrogate is written. -/
def symbolText : Char ⊕ UInt16 → List Char
  | .inl c => Quoted.escape c
  | .inr unit => '\\' :: 'u' :: hexFixed 4 unit.toNat

def symbolsText (units : List UInt16) : List Char := (unitSymbols units).flatMap symbolText

/-- Code units are quoted as the symbols that they make. -/
theorem toList_quoteUnits (units : List UInt16) :
    (Script.quoteUnits units).toList = '"' :: (symbolsText units ++ ['"']) := by
  simp only [Script.quoteUnits, String.toList_append, String.toList_join, List.flatMap_map]
  rw [List.flatMap_congr (g := symbolText) fun symbol _ => by cases symbol <;> simp [symbolText]]
  simp [symbolsText]

/-- A thrown message is written as the error of an object. -/
theorem toList_thrownText (units : List UInt16) :
    (thrownText units).toList =
      '\x7b' :: '"' :: ("error".toList ++ '"' :: ':' :: '"' :: (symbolsText units ++ ['"', '\x7d'])) := by
  simp [thrownText, toList_quoteUnits]

section Whole

/-- Symbols that are all characters are written as the escaped text. -/
theorem flatMap_symbolText {symbols : List (Char ⊕ UInt16)} {text : List Char}
    (whole : leadingText symbols = (text, false)) :
    symbols.flatMap symbolText = text.flatMap Quoted.escape := by
  induction symbols generalizing text with
  | nil =>
      obtain rfl : [] = text := congrArg Prod.fst whole
      rfl
  | cons symbol symbols ih =>
      cases symbol with
      | inl c =>
          simp only [leadingText, Prod.mk.injEq] at whole
          obtain ⟨rfl, known⟩ := whole
          have others := ih (Prod.ext rfl known)
          simp [symbolText, others]
      | inr unit => cases whole

/-- Code units that make a text are symbols that are all characters. -/
theorem leadingText_of_textOfUnits {units : List UInt16} {text : String}
    (told : textOfUnits units = .ok text) :
    leadingText (unitSymbols units) = (text.toList, false) := by
  unfold textOfUnits at told
  split at told
  · next known =>
      cases told
      rw [known, String.toList_ofList]
  · cases told

/-- A message that is text is read back. -/
theorem ofText_thrownText {units : List UInt16} {message : String}
    (told : textOfUnits units = .ok message) :
    Json.ofText (thrownText units) = .ok (.object [("error", .string message)]) := by
  have plain : (Json.object [("error", .string message)]).Plain depthLimit :=
    .object (List.pairwise_singleton _ _) (List.forall_mem_singleton.mpr (.string message))
  have same : thrownText units = (Json.object [("error", .string message)]).text := by
    apply String.toList_inj.mp
    rw [toList_thrownText, symbolsText, flatMap_symbolText (leadingText_of_textOfUnits told)]
    simp [text, memberTexts, separated, quote, Quoted.encode, Quoted.escape]
  rw [same, ofText_text plain]

end Whole

section Broken

/-- Four hexadecimal digits are read as their number only. -/
theorem hex_hexFixed {value code : Nat} (small : value < 0x10000) {behind rest : List Char}
    (hex : Hex code (hexFixed 4 value ++ behind) rest) : code = value ∧ rest = behind := by
  have scanned := (scanHex_iff ..).mpr hex
  rw [scanHex_hexFixed value small] at scanned
  obtain ⟨rfl, rfl⟩ := Prod.mk.inj (Except.ok.inj scanned)
  exact ⟨rfl, rfl⟩

/-- A written character in front of a string can be left out. -/
theorem characters_of_written {c : Char} {written behind rest : List Char}
    (form : Quoted.Written c written) (characters : Characters PairedCode (written ++ behind) rest) :
    Characters PairedCode behind rest := by
  cases form with
  | plain noQuote noBackslash =>
      cases characters with
      | close => exact absurd rfl noQuote
      | plain _ _ _ others => exact others
      | escape | numeric => exact absurd rfl noBackslash
  | mark mark known =>
      cases characters with
      | plain _ noBackslash => exact absurd rfl noBackslash
      | escape _ others => exact others
      | numeric => simp [Quoted.marks] at known
  | code low =>
      cases characters with
      | plain _ noBackslash => exact absurd rfl noBackslash
      | escape plain => exact absurd plain (by decide)
      | numeric paired others =>
          cases paired with
          | single hex => exact (hex_hexFixed (by omega) hex).2 ▸ others
          | pair hex high =>
              obtain ⟨rfl, -⟩ := hex_hexFixed (by omega) hex
              omega

theorem isHighSurrogate_iff (unit : UInt16) :
    isHighSurrogate unit = true ↔ 0xD800 ≤ unit.toNat ∧ unit.toNat ≤ 0xDBFF := by
  simp [isHighSurrogate, UInt16.le_iff_toNat_le]

theorem isLowSurrogate_iff (unit : UInt16) :
    isLowSurrogate unit = true ↔ 0xDC00 ≤ unit.toNat ∧ unit.toNat ≤ 0xDFFF := by
  simp [isLowSurrogate, UInt16.le_iff_toNat_le]

/-- The escape of a low surrogate is not that of a character. -/
theorem Text.Quoted.Written.not_low {c : Char} {written behind digits rest : List Char} {low : Nat}
    (form : Quoted.Written c written) (range : 0xDC00 ≤ low ∧ low ≤ 0xDFFF)
    (hex : Hex low digits rest) : written ++ behind ≠ '\\' :: 'u' :: digits := by
  intro same
  cases form with
  | plain _ noBackslash => exact noBackslash (List.cons.inj same).1
  | mark mark known =>
      obtain ⟨-, same⟩ := List.cons.inj same
      obtain ⟨rfl, -⟩ := List.cons.inj same
      simp [Quoted.marks] at known
  | code code =>
      simp only [List.cons_append, List.cons.injEq, true_and] at same
      obtain ⟨rfl, -⟩ := hex_hexFixed (by omega) (same ▸ hex)
      omega

/-- What is written of some units begins with the escape of a low surrogate only if the first of
them is one. -/
theorem not_low_symbolsText {units : List UInt16}
    (free : ∀ unit ∈ units.head?, isLowSurrogate unit = false) {low : Nat}
    (range : 0xDC00 ≤ low ∧ low ≤ 0xDFFF) {digits rest : List Char} (hex : Hex low digits rest)
    (behind : List Char) : symbolsText units ++ '"' :: behind ≠ '\\' :: 'u' :: digits := by
  have escaped (c : Char) (others : List Char) :
      Quoted.escape c ++ others ≠ '\\' :: 'u' :: digits :=
    (Quoted.written_escape c).not_low range hex
  have coded {unit : UInt16} (other : isLowSurrogate unit = false) (others : List Char) :
      '\\' :: 'u' :: (hexFixed 4 unit.toNat ++ others) ≠ '\\' :: 'u' :: digits := by
    intro same
    simp only [List.cons.injEq, true_and] at same
    obtain ⟨rfl, -⟩ := hex_hexFixed unit.toNat_lt (same ▸ hex)
    rw [(isLowSurrogate_iff unit).mpr range] at other
    cases other
  unfold symbolsText
  fun_cases unitSymbols units with
  | case1 => simp
  | case2 unit surrogate => simpa [symbolText] using coded (free unit rfl) ('"' :: behind)
  | case3 unit other => simpa [symbolText] using escaped _ ('"' :: behind)
  | case4 unit next units paired => simpa [symbolText] using escaped _ _
  | case5 unit next units unpaired lone => simpa [symbolText] using coded (free unit rfl) _
  | case6 unit next units unpaired other => simpa [symbolText] using escaped _ _

/-- A lone surrogate is an escape that is refused. -/
theorem not_characters_lone {unit : UInt16}
    (surrogate : isHighSurrogate unit = true ∨ isLowSurrogate unit = true) {units : List UInt16}
    (free : isHighSurrogate unit = true → ∀ next ∈ units.head?, isLowSurrogate next = false)
    (behind rest : List Char) :
    ¬ Characters PairedCode
      ('\\' :: 'u' :: (hexFixed 4 unit.toNat ++ (symbolsText units ++ '"' :: behind))) rest := by
  intro characters
  have small := unit.toNat_lt
  rw [isHighSurrogate_iff, isLowSurrogate_iff] at surrogate
  cases characters with
  | plain _ noBackslash => exact noBackslash rfl
  | escape plain => exact absurd plain (by decide)
  | numeric paired others =>
      cases paired with
      | single hex other =>
          obtain ⟨rfl, -⟩ := hex_hexFixed small hex
          omega
      | pair hex high found range =>
          obtain ⟨rfl, same⟩ := hex_hexFixed small hex
          exact not_low_symbolsText (free ((isHighSurrogate_iff unit).mpr high)) range found behind
            same.symm

/-- Units that are no text are written with an escape that is refused. -/
theorem not_characters_broken {units : List UInt16}
    (broken : (leadingText (unitSymbols units)).2 = true) (behind rest : List Char) :
    ¬ Characters PairedCode (symbolsText units ++ '"' :: behind) rest := by
  have skipped {c : Char} {others : List Char}
      (refused : ¬ Characters PairedCode (others ++ '"' :: behind) rest) :
      ¬ Characters PairedCode (Quoted.escape c ++ others ++ '"' :: behind) rest := by
    rw [List.append_assoc]
    exact fun characters => refused (characters_of_written (Quoted.written_escape c) characters)
  fun_induction unitSymbols units with
  | case1 => cases broken
  | case2 unit surrogate =>
      have free : isHighSurrogate unit = true → ∀ next ∈ ([] : List UInt16).head?,
          isLowSurrogate next = false := by simp
      have refused := not_characters_lone (by simpa using surrogate) free behind rest
      simpa [symbolsText, unitSymbols, surrogate, symbolText] using refused
  | case3 unit other => cases broken
  | case4 unit next units paired ih =>
      rw [symbolsText, unitSymbols, if_pos paired, List.flatMap_cons]
      exact skipped (ih broken)
  | case5 unit next units unpaired lone ih =>
      have free : isHighSurrogate unit = true → ∀ other ∈ (next :: units).head?,
          isLowSurrogate other = false := by
        intro high other head
        obtain rfl : next = other := Option.some.inj head
        simpa [high] using unpaired
      have refused := not_characters_lone (by simpa using lone) free behind rest
      rw [symbolsText, unitSymbols, if_neg unpaired, if_pos lone, List.flatMap_cons]
      simpa [symbolText, symbolsText] using refused
  | case6 unit next units unpaired other ih =>
      rw [symbolsText, unitSymbols, if_neg unpaired, if_neg other, List.flatMap_cons]
      exact skipped (ih broken)

/-- A text that is decoded begins with a value. -/
theorem leaves_of_ofText {text : String} {value : Json} (decoded : Json.ofText text = .ok value) :
    ∃ rest, Leaves (readValue depthLimit text.toList) rest := by
  rw [ofText, readText] at decoded
  cases found : readValue depthLimit text.toList with
  | error stop => simp [found, bind, Except.bind, Except.mapError] at decoded
  | ok known => exact ⟨known.2, known.1, rfl⟩

/-- A message that is no text makes a payload that is refused. -/
theorem ofText_thrownText_broken {units : List UInt16}
    (lone : ∀ message, textOfUnits units ≠ .ok message) (value : Json) :
    Json.ofText (thrownText units) ≠ .ok value := by
  intro decoded
  have broken : (leadingText (unitSymbols units)).2 = true := by
    unfold textOfUnits at lone
    split at lone
    · exact absurd rfl (lone _)
    · next known => rw [known]
  obtain ⟨rest, leaves⟩ := leaves_of_ofText decoded
  have limit : depthLimit = 126 + 1 := rfl
  rw [toList_thrownText, limit, readValue_brace,
    leaves_map fun members => object (Members.ofPairs members)] at leaves
  rcases (readMembers_list.first ..).mp leaves with closed | ⟨behind, accepted, -⟩
  · cases closed
  · obtain ⟨key, beyond, colon, same, ⟨name, scanned⟩, found, value⟩ := accepted
    obtain rfl := (List.cons.inj same).2
    have known := scanString_quoted "error" (':' :: '"' :: (symbolsText units ++ ['"', '\x7d']))
    have plain : "error".toList.flatMap Quoted.escape = "error".toList := rfl
    rw [plain] at known
    obtain ⟨-, rfl⟩ := Prod.mk.inj (Except.ok.inj (known.symm.trans scanned))
    rw [readColon_colon] at found
    obtain rfl := Except.ok.inj found
    rw [readValue_quote, leaves_map, leaves_scanString] at value
    exact not_characters_broken broken ['\x7d'] behind value

end Broken

end HostBridge
