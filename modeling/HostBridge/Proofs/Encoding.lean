/-
This file shows that the UTF-8 bytes of a text are read back, and that no other bytes are.
-/
import HostBridge.Text.Utf8
import Mathlib.Data.Nat.Init
import Mathlib.Data.UInt
import Mathlib.Tactic.SplitIfs

namespace HostBridge.Text

section Spelling

/-- A byte that is not the first one of a character. -/
def Follows (byte : UInt8) : Prop := 0x80 ≤ byte.toNat ∧ byte.toNat ≤ 0xBF

/-- What else the second byte of a character is bound to, so that every code has one spelling. -/
def Narrow (first second : UInt8) : Prop :=
  (first.toNat = 0xE0 → 0xA0 ≤ second.toNat) ∧ (first.toNat = 0xED → second.toNat ≤ 0x9F) ∧
    (first.toNat = 0xF0 → 0x90 ≤ second.toNat) ∧ (first.toNat = 0xF4 → second.toNat ≤ 0x8F)

/-- The bytes that stand for a code. -/
inductive Spells : List UInt8 → Nat → Prop where
  | one {first : UInt8} (low : first.toNat < 0x80) : Spells [first] first.toNat
  | two {first second : UInt8} (low : 0xC2 ≤ first.toNat) (high : first.toNat ≤ 0xDF)
      (follows : Follows second) :
      Spells [first, second] (first.toNat % 32 * 64 + second.toNat % 64)
  | three {first second third : UInt8} (low : 0xE0 ≤ first.toNat) (high : first.toNat ≤ 0xEF)
      (follows : Follows second) (narrow : Narrow first second) (last : Follows third) :
      Spells [first, second, third]
        ((first.toNat % 16 * 64 + second.toNat % 64) * 64 + third.toNat % 64)
  | four {first second third fourth : UInt8} (low : 0xF0 ≤ first.toNat)
      (high : first.toNat ≤ 0xF4) (follows : Follows second) (narrow : Narrow first second)
      (next : Follows third) (last : Follows fourth) :
      Spells [first, second, third, fourth]
        (((first.toNat % 8 * 64 + second.toNat % 64) * 64 + third.toNat % 64) * 64 +
          fourth.toNat % 64)

/-- A character is spelled by its bytes. -/
theorem spells_encoded (c : Char) : Spells (String.utf8EncodeChar c) c.val.toNat := by
  have scalar : c.val.toNat < 0xD800 ∨ 0xDFFF < c.val.toNat ∧ c.val.toNat < 0x110000 := c.valid
  unfold String.utf8EncodeChar
  generalize c.val.toNat = code at *
  extract_lets value
  simp only [value]
  have byte (n : Nat) : (UInt8.ofNat n).toNat = n % 256 := UInt8.toNat_ofNat'
  split_ifs with one two three
  · have same : (UInt8.ofNat code).toNat = code := by rw [byte]; omega
    conv => rhs; rw [← same]
    exact .one (by omega)
  · have same : (UInt8.ofNat (code / 64 % 0x20 + 0xc0)).toNat % 32 * 64 +
        (UInt8.ofNat (code % 0x40 + 0x80)).toNat % 64 = code := by simp only [byte]; omega
    conv => rhs; rw [← same]
    refine .two ?_ ?_ ⟨?_, ?_⟩ <;> rw [byte] <;> omega
  · have same : ((UInt8.ofNat (code / 4096 % 0x10 + 0xe0)).toNat % 16 * 64 +
        (UInt8.ofNat (code / 64 % 0x40 + 0x80)).toNat % 64) * 64 +
        (UInt8.ofNat (code % 0x40 + 0x80)).toNat % 64 = code := by simp only [byte]; omega
    conv => rhs; rw [← same]
    refine .three ?_ ?_ ⟨?_, ?_⟩ ⟨?_, ?_, ?_, ?_⟩ ⟨?_, ?_⟩ <;> simp only [byte] <;> omega
  · have same : (((UInt8.ofNat (code / 262144 % 0x08 + 0xf0)).toNat % 8 * 64 +
        (UInt8.ofNat (code / 4096 % 0x40 + 0x80)).toNat % 64) * 64 +
        (UInt8.ofNat (code / 64 % 0x40 + 0x80)).toNat % 64) * 64 +
        (UInt8.ofNat (code % 0x40 + 0x80)).toNat % 64 = code := by simp only [byte]; omega
    conv => rhs; rw [← same]
    refine .four ?_ ?_ ⟨?_, ?_⟩ ⟨?_, ?_, ?_, ?_⟩ ⟨?_, ?_⟩ ⟨?_, ?_⟩ <;> simp only [byte] <;> omega

theorem toNat_ofNat_char {code : Nat} (valid : code.isValidChar) :
    (Char.ofNat code).val.toNat = code := by
  rw [Char.ofNat, dif_pos valid]
  rfl

/-- Bytes that spell a code are the bytes of its character. -/
theorem Spells.encoded {bytes : List UInt8} {code : Nat} (spells : Spells bytes code) :
    String.utf8EncodeChar (Char.ofNat code) = bytes := by
  have byte {n : Nat} (first : UInt8) (same : n = first.toNat) : UInt8.ofNat n = first := by
    rw [same, UInt8.ofNat_toNat]
  unfold String.utf8EncodeChar
  extract_lets value
  simp only [value]
  cases spells with
  | @one first low =>
      rw [toNat_ofNat_char (.inl (by omega)), if_pos (by omega), byte first rfl]
  | @two first second low high follows =>
      obtain ⟨least, most⟩ := follows
      have above : ¬ first.toNat % 32 * 64 + second.toNat % 64 ≤ 0x7f := by omega
      rw [toNat_ofNat_char (.inl (by omega)), if_neg above, if_pos (by omega),
        byte first (by omega), byte second (by omega)]
  | @three first second third low high follows narrow last =>
      obtain ⟨least, most⟩ := follows
      obtain ⟨some, other, -, -⟩ := narrow
      obtain ⟨lower, upper⟩ := last
      have above : ¬ (first.toNat % 16 * 64 + second.toNat % 64) * 64 + third.toNat % 64 ≤ 0x7ff := by
        omega
      rw [toNat_ofNat_char (by simp only [Nat.isValidChar]; omega), if_neg (by omega),
        if_neg above, if_pos (by omega), byte first (by omega),
        byte second (by omega), byte third (by omega)]
  | @four first second third fourth low high follows narrow next last =>
      obtain ⟨least, most⟩ := follows
      obtain ⟨-, -, some, other⟩ := narrow
      obtain ⟨lower, upper⟩ := next
      obtain ⟨lowest, highest⟩ := last
      have above : ¬ ((first.toNat % 8 * 64 + second.toNat % 64) * 64 + third.toNat % 64) * 64 +
          fourth.toNat % 64 ≤ 0xffff := by omega
      rw [toNat_ofNat_char (by simp only [Nat.isValidChar]; omega), if_neg (by omega),
        if_neg (by omega), if_neg above, byte first (by omega),
        byte second (by omega), byte third (by omega),
        byte fourth (by omega)]

end Spelling

section Decoding

/-- The number of bytes that follow depends on the range of the first byte. -/
theorem followers?_eq (first : UInt8) :
    followers? first =
      if first.toNat < 0x80 then some 0
      else if 0xC2 ≤ first.toNat ∧ first.toNat ≤ 0xDF then some 1
      else if 0xE0 ≤ first.toNat ∧ first.toNat ≤ 0xEF then some 2
      else if 0xF0 ≤ first.toNat ∧ first.toNat ≤ 0xF4 then some 3
      else none := by
  simp [followers?, UInt8.lt_iff_toNat_lt, UInt8.le_iff_toNat_le]

/-- The bits of the first byte are those behind its mark. -/
theorem firstBits_eq (first : UInt8) :
    firstBits first =
      if first.toNat < 0x80 then first.toNat
      else if first.toNat ≤ 0xDF then first.toNat % 32
      else if first.toNat ≤ 0xEF then first.toNat % 16
      else first.toNat % 8 := by
  simp [firstBits, UInt8.lt_iff_toNat_lt, UInt8.le_iff_toNat_le]

/-- A byte is in the range of a state. -/
def Within (range : UInt8 × UInt8) (byte : UInt8) : Prop :=
  (range.1 ≤ byte && byte ≤ range.2) = true

theorem within_following (byte : UInt8) : Within (0x80, 0xBF) byte ↔ Follows byte := by
  simp [Within, Follows, UInt8.le_iff_toNat_le]

/-- The second byte follows the first and is narrowed where the first leaves forms that are too
long. -/
theorem within_second (first second : UInt8) :
    Within (secondByteRange first) second ↔ Follows second ∧ Narrow first second := by
  rw [Within, secondByteRange, Follows, Narrow]
  simp only [UInt8.ext_iff]
  split_ifs <;> simp_all [UInt8.le_iff_toNat_le] <;> omega

variable {code read needed count : Nat} {range : UInt8 × UInt8} {byte : UInt8}
  {rest : List UInt8} {text : List Char}

/-- A byte inside a character is added to its code. -/
theorem decodeFrom_next (within : Within range byte) :
    decodeFrom (.inside code read (needed + 1) range) count (byte :: rest) =
      decodeFrom (.inside (code * 64 + byte.toNat % 64) (read + 1) needed (0x80, 0xBF)) (count + 1)
        rest := by
  rw [Within] at within
  rw [decodeFrom, if_pos within]

/-- The last byte of a character makes the character. -/
theorem decodeFrom_last (within : Within range byte) :
    decodeFrom (.inside code read 0 range) count (byte :: rest) =
      (decodeFrom .outside (count + 1) rest).map
        (Char.ofNat (code * 64 + byte.toNat % 64) :: ·) := by
  rw [Within] at within
  rw [decodeFrom, if_pos within]

/-- Inside a character there is a byte that fits. -/
theorem exists_within {bytes : List UInt8}
    (decoded : decodeFrom (.inside code read needed range) count bytes = .ok text) :
    ∃ byte rest, bytes = byte :: rest ∧ Within range byte := by
  cases bytes with
  | nil => simp [decodeFrom] at decoded
  | cons byte rest =>
      refine ⟨byte, rest, rfl, ?_⟩
      by_contra outside
      rw [Within] at outside
      rw [decodeFrom, if_neg outside] at decoded
      cases decoded

/-- A spelled character is read, and reading goes on behind it. -/
theorem Spells.decoded {bytes : List UInt8} {code : Nat} (spells : Spells bytes code) (count : Nat)
    (rest : List UInt8) :
    decodeFrom .outside count (bytes ++ rest) =
      (decodeFrom .outside (count + bytes.length) rest).map (Char.ofNat code :: ·) := by
  cases spells with
  | @one first low =>
      have kind : followers? first = some 0 := by rw [followers?_eq, if_pos low]
      rw [List.singleton_append, decodeFrom, kind]
      rfl
  | @two first second low high follows =>
      have kind : followers? first = some 1 := by
        rw [followers?_eq, if_neg (by omega), if_pos ⟨low, high⟩]
      have bits : firstBits first = first.toNat % 32 := by
        rw [firstBits_eq, if_neg (by omega), if_pos high]
      have narrow : Narrow first second := by
        refine ⟨?_, ?_, ?_, ?_⟩ <;> omega
      rw [List.cons_append, decodeFrom, kind]
      simp only [List.singleton_append]
      rw [decodeFrom_last ((within_second first second).mpr ⟨follows, narrow⟩), bits]
      rfl
  | @three first second third low high follows narrow last =>
      have kind : followers? first = some 2 := by
        rw [followers?_eq, if_neg (by omega), if_neg (by omega), if_pos ⟨low, high⟩]
      have bits : firstBits first = first.toNat % 16 := by
        rw [firstBits_eq, if_neg (by omega), if_neg (by omega), if_pos high]
      rw [List.cons_append, decodeFrom, kind]
      simp only [List.cons_append, List.nil_append]
      rw [decodeFrom_next ((within_second first second).mpr ⟨follows, narrow⟩),
        decodeFrom_last ((within_following third).mpr last), bits]
      rfl
  | @four first second third fourth low high follows narrow next last =>
      have kind : followers? first = some 3 := by
        rw [followers?_eq, if_neg (by omega), if_neg (by omega), if_neg (by omega),
          if_pos ⟨low, high⟩]
      have bits : firstBits first = first.toNat % 8 := by
        rw [firstBits_eq, if_neg (by omega), if_neg (by omega), if_neg (by omega)]
      rw [List.cons_append, decodeFrom, kind]
      simp only [List.cons_append, List.nil_append]
      rw [decodeFrom_next ((within_second first second).mpr ⟨follows, narrow⟩),
        decodeFrom_next ((within_following third).mpr next),
        decodeFrom_last ((within_following fourth).mpr last), bits]
      rfl

/-- What is read begins with a spelled character. -/
theorem exists_spells {first : UInt8}
    (decoded : decodeFrom .outside count (first :: rest) = .ok text) :
    ∃ bytes code tail, first :: rest = bytes ++ tail ∧ Spells bytes code := by
  have kind := followers?_eq first
  rw [decodeFrom] at decoded
  split_ifs at kind with one two three four
  · exact ⟨[first], _, rest, rfl, .one one⟩
  · simp only [kind] at decoded
    obtain ⟨second, rest, rfl, within⟩ := exists_within decoded
    obtain ⟨follows, -⟩ := (within_second first second).mp within
    exact ⟨[first, second], _, rest, rfl, .two two.1 two.2 follows⟩
  · simp only [kind] at decoded
    obtain ⟨second, rest, rfl, within⟩ := exists_within decoded
    obtain ⟨follows, narrow⟩ := (within_second first second).mp within
    rw [decodeFrom_next within] at decoded
    obtain ⟨third, rest, rfl, last⟩ := exists_within decoded
    exact ⟨[first, second, third], _, rest, rfl,
      .three three.1 three.2 follows narrow ((within_following third).mp last)⟩
  · simp only [kind] at decoded
    obtain ⟨second, rest, rfl, within⟩ := exists_within decoded
    obtain ⟨follows, narrow⟩ := (within_second first second).mp within
    rw [decodeFrom_next within] at decoded
    obtain ⟨third, rest, rfl, next⟩ := exists_within decoded
    rw [decodeFrom_next next] at decoded
    obtain ⟨fourth, rest, rfl, last⟩ := exists_within decoded
    exact ⟨[first, second, third, fourth], _, rest, rfl,
      .four four.1 four.2 follows narrow ((within_following third).mp next)
        ((within_following fourth).mp last)⟩
  · simp only [kind] at decoded
    cases decoded

end Decoding

section Text

/-- The bytes of any characters are decoded as these. -/
theorem decodeFrom_encoded (text : List Char) (count : Nat) :
    decodeFrom .outside count (text.flatMap String.utf8EncodeChar) = .ok text := by
  induction text generalizing count with
  | nil => rfl
  | cons c text ih =>
      rw [List.flatMap_cons, (spells_encoded c).decoded, ih]
      exact congrArg (fun c => Except.ok (c :: text)) (Char.ofNat_toNat c)

/-- Only the bytes of some characters are decoded. -/
theorem encoded_of_decodeFrom {count : Nat} {bytes : List UInt8} {text : List Char}
    (decoded : decodeFrom .outside count bytes = .ok text) :
    text.flatMap String.utf8EncodeChar = bytes := by
  induction length : bytes.length using Nat.strong_induction_on generalizing count bytes text with
  | _ size ih =>
      cases bytes with
      | nil =>
          rw [decodeFrom] at decoded
          cases decoded
          rfl
      | cons first rest =>
          obtain ⟨bytes, code, tail, split, spells⟩ := exists_spells decoded
          rw [split, spells.decoded] at decoded
          cases later : decodeFrom .outside (count + bytes.length) tail with
          | error fault => rw [later] at decoded; cases decoded
          | ok others =>
              rw [later] at decoded
              cases decoded
              have shorter : tail.length < size := by
                have positive : 0 < bytes.length := by cases spells <;> simp
                rw [← length, split, List.length_append]
                omega
              rw [List.flatMap_cons, spells.encoded, ih _ shorter later rfl, split]

/-- Bytes are read as a text exactly when they are the bytes of that text. -/
theorem decodeUtf8_eq_ok_iff (bytes : List UInt8) (text : String) :
    decodeUtf8 bytes = .ok text ↔ encodeUtf8 text = bytes := by
  constructor
  · intro decoded
    rw [decodeUtf8] at decoded
    cases read : decodeFrom .outside 0 bytes with
    | error fault => rw [read] at decoded; cases decoded
    | ok chars =>
        rw [read] at decoded
        cases decoded
        rw [encodeUtf8, String.toList_ofList, encoded_of_decodeFrom read]
  · rintro rfl
    rw [decodeUtf8, encodeUtf8, decodeFrom_encoded]
    exact congrArg Except.ok String.ofList_toList

/-- A text is decoded from its bytes. -/
@[simp] theorem decodeUtf8_encodeUtf8 (text : String) : decodeUtf8 (encodeUtf8 text) = .ok text :=
  (decodeUtf8_eq_ok_iff _ _).mpr rfl

end Text

end HostBridge.Text
