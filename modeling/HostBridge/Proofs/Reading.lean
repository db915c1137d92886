/-
This file shows that the text of a JSON value without floats is read as the value.
-/
import HostBridge.HostValue
import HostBridge.Json.Reader
import HostBridge.Proofs.Literal
import Mathlib.Data.List.Induction

namespace HostBridge

open Text

/-- What may follow a value in a text. -/
def Json.Stops (rest : List Char) : Prop := ∀ c ∈ rest.head?, c = ',' ∨ c = ']' ∨ c = '\x7d'

section Digits

/-- A digit in front counts ten times what stands before it. -/
theorem ofDigitChars_digit (c : Char) (digits : List Char) (value : Nat) :
    Nat.ofDigitChars 10 (c :: digits) value =
      Nat.ofDigitChars 10 digits (value * 10 + (c.toNat - 48)) := by
  rw [Nat.ofDigitChars_cons, Nat.mul_comm]
  rfl

/-- More digits do not make a number less. -/
theorem le_ofDigitChars (digits : List Char) (value : Nat) :
    value ≤ Nat.ofDigitChars 10 digits value := by
  induction digits generalizing value with
  | nil => exact le_rfl
  | cons c digits ih =>
      rw [ofDigitChars_digit]
      exact le_trans (by omega) (ih _)

/-- Only zero is written with a zero at its beginning. -/
theorem exists_toDigits {value : Nat} (positive : 0 < value) :
    ∃ c digits, Nat.toDigits 10 value = c :: digits ∧ c ≠ '0' := by
  induction value using Nat.strongRecOn with
  | ind value ih =>
      by_cases small : value < 10
      · refine ⟨value.digitChar, [], Nat.toDigits_of_lt_base small, ?_⟩
        interval_cases value <;> decide
      · obtain ⟨c, digits, same, different⟩ := ih (value / 10) (by omega) (by omega)
        refine ⟨c, digits ++ [(value % 10).digitChar], ?_, different⟩
        rw [Nat.toDigits_of_base_le (by decide) (by omega), same, List.cons_append]

/-- The digits of a number are digits. -/
theorem isDigit_toDigits (value : Nat) : ∀ c ∈ Nat.toDigits 10 value, Decimal.isDigit c = true :=
  fun _ member => Nat.isDigit_of_mem_toDigits (by decide) le_rfl member

theorem exists_cons_toDigits (value : Nat) :
    ∃ c others, Nat.toDigits 10 value = c :: others ∧ Decimal.isDigit c = true := by
  obtain ⟨c, others, same⟩ := List.exists_cons_of_ne_nil
    (List.ne_nil_of_length_pos (Nat.length_toDigits_pos (b := 10) (n := value)))
  exact ⟨c, others, same, isDigit_toDigits value c (by simp [same])⟩

end Digits

namespace Json

theorem Stops.startsWithDigit {rest : List Char} (stops : Stops rest) :
    startsWithDigit rest = false := by
  cases rest with
  | nil => rfl
  | cons c rest => rcases stops c rfl with rfl | rfl | rfl <;> rfl

/-- Digits are taken as long as the number fits. -/
theorem takeDigits_digits {digits : List Char} (known : ∀ c ∈ digits, Decimal.isDigit c = true)
    {value : Nat} (fits : Nat.ofDigitChars 10 digits value < 0x10000000000000000)
    {rest : List Char} (stops : Stops rest) :
    takeDigits value (digits ++ rest) =
      (Nat.ofDigitChars 10 digits value, digits.length, rest) := by
  induction digits generalizing value with
  | nil =>
      have none := stops.startsWithDigit
      cases rest with
      | nil => rfl
      | cons c rest =>
          have noDigit : Decimal.isDigit c = false := none
          simp [takeDigits, noDigit, Nat.ofDigitChars]
  | cons c digits ih =>
      obtain ⟨first, others⟩ := List.forall_mem_cons.mp known
      rw [ofDigitChars_digit] at fits ⊢
      have small := lt_of_le_of_lt (le_ofDigitChars digits _) fits
      simp [takeDigits, first, small, ih others fits]

/-- Digits that nothing goes on with are an integer. -/
theorem scanAfterWhole_stops (negative : Bool) (digits : Nat) {rest : List Char}
    (stops : Stops rest) :
    scanAfterWhole negative digits rest = .ok (wholeNumber negative digits, rest) := by
  cases rest with
  | nil => rfl
  | cons c rest => rcases stops c rfl with rfl | rfl | rfl <;> rfl

/-- The digits of a number of 64 bits are scanned as the number. -/
theorem scanUnsigned_toDigits (negative : Bool) {value : Nat} (fits : value < 0x10000000000000000)
    {rest : List Char} (stops : Stops rest) :
    scanUnsigned negative (Nat.toDigits 10 value ++ rest) =
      .ok (wholeNumber negative value, rest) := by
  rcases Nat.eq_zero_or_pos value with rfl | positive
  · have zero : Nat.toDigits 10 0 = ['0'] := rfl
    simp [zero, scanUnsigned, stops.startsWithDigit, scanAfterWhole_stops negative 0 stops]
  · obtain ⟨c, digits, same, different⟩ := exists_toDigits positive
    have whole : Nat.ofDigitChars 10 (c :: digits) 0 = value := by
      rw [← same, Nat.ofDigitChars_ten_toDigits]
    have known := isDigit_toDigits value
    rw [same] at known ⊢
    have taken := takeDigits_digits known (whole.symm ▸ fits) stops
    rw [whole] at taken
    have digit : Decimal.isDigit c = true := known c (List.mem_cons_self ..)
    rw [List.cons_append] at taken ⊢
    simp [scanUnsigned, different, digit, taken, stops.startsWithDigit,
      scanAfterWhole_stops negative value stops]

/-- Every integer of 64 bits without a sign is read back. -/
theorem scanNumber_toDigits {value : Nat} (fits : value < 0x10000000000000000) {rest : List Char}
    (stops : Stops rest) :
    scanNumber (Nat.toDigits 10 value ++ rest) = .ok (.integer value, rest) := by
  have scanned := scanUnsigned_toDigits false fits stops
  obtain ⟨c, others, same, digit⟩ := exists_cons_toDigits value
  have noSign : c ≠ '-' := by
    rintro rfl
    exact absurd digit (by decide)
  have unsigned : scanNumber (Nat.toDigits 10 value ++ rest) =
      scanUnsigned false (Nat.toDigits 10 value ++ rest) := by
    rw [same, List.cons_append, scanNumber]
    rintro rest same
    exact noSign (List.cons.inj same).1
  rw [unsigned, scanned]
  rfl

/-- Every integer of 64 bits with a sign is read back. -/
theorem scanNumber_integerText (value : Int64) {rest : List Char} (stops : Stops rest) :
    scanNumber ((integerText value.toInt).toList ++ rest) = .ok (.integer value.toInt, rest) := by
  have low := value.le_toInt
  have high := value.toInt_lt
  have digits : (Decimal.digitText value.toInt.natAbs).toList =
      Nat.toDigits 10 value.toInt.natAbs := String.toList_ofList
  have small : value.toInt.natAbs < 0x10000000000000000 := by omega
  by_cases negative : value.toInt < 0
  · have whole : wholeNumber true value.toInt.natAbs = .integer value.toInt := by
      have positive : 0 < value.toInt.natAbs := by omega
      have fits : value.toInt.natAbs ≤ 0x8000000000000000 := by omega
      simp only [wholeNumber, positive, fits, decide_true, Bool.and_self, Bool.not_true,
        Bool.false_eq_true, if_false, if_true, Number.integer.injEq, Int.ofNat_eq_natCast]
      omega
    rw [integerText, if_pos negative, String.toList_append, digits, List.append_assoc]
    exact (scanUnsigned_toDigits true small stops).trans (by rw [whole])
  · have size : (value.toInt.natAbs : Int) = value.toInt := by omega
    rw [integerText, if_neg negative, String.empty_append, digits, scanNumber_toDigits small stops,
      size]

theorem skipBlanks_cons {c : Char} (filled : isBlank c = false) (text : List Char) :
    skipBlanks (c :: text) = c :: text := by
  simp [skipBlanks, filled]

/-- The reader reads the text of the value, which does not look like the end of an array. -/
structure ReadBy (read : List Char → Scan Json) (value : Json) : Prop where
  head : ∃ c others, value.text.toList = c :: others ∧ isBlank c = false ∧ c ≠ ']'
  reads : ∀ rest, Stops rest → read (value.text.toList ++ rest) = .ok (value, rest)

theorem itemTexts_eq_map (items : List Json) : itemTexts items = items.map Json.text := by
  induction items with
  | nil => rfl
  | cons item items ih => rw [itemTexts, ih, List.map_cons]

def memberText (member : String × Json) : String := quote member.1 ++ ":" ++ member.2.text

theorem memberTexts_eq_map (members : List (String × Json)) :
    memberTexts members = members.map memberText := by
  induction members with
  | nil => rfl
  | cons member members ih =>
      rw [memberTexts, ih, List.map_cons]
      rfl

/-- The texts after the first one, each behind its comma. -/
def following (texts : List String) : List Char := texts.flatMap fun text => ',' :: text.toList

theorem toList_separated_cons (first : String) (others : List String) :
    (separated "," (first :: others)).toList = first.toList ++ following others := by
  rw [separated, String.toList_intercalate]
  induction others generalizing first with
  | nil => simp [following]
  | cons second others ih =>
      have rest := ih second
      rw [List.map_cons, List.map_cons, List.intercalate_cons_cons, ← List.map_cons, rest]
      simp [following]

/-- A number may be followed by a comma or a closing bracket. -/
theorem stops_following (texts : List String) {close : Char} (closes : close = ']' ∨ close = '\x7d')
    (rest : List Char) : Stops (following texts ++ close :: rest) := by
  cases texts with
  | nil => exact fun c first => .inr (Option.some.inj first ▸ closes)
  | cons text texts => exact fun c first => .inl (Option.some.inj first).symm

section Lists

variable {read : List Char → Scan Json}

/-- An item and what is read behind it are read together. -/
theorem readItems_item {item : Json} {items : List Json} {bound : Nat} {behind rest : List Char}
    (known : ReadBy read item) (stops : Stops behind)
    (later : readItems read bound false behind = .ok (items, rest)) :
    readItems read (bound + 1) true (item.text.toList ++ behind) = .ok (item :: items, rest) := by
  obtain ⟨c, others, same, filled, different⟩ := known.head
  have first := known.reads behind stops
  rw [same, List.cons_append] at first ⊢
  simp [readItems, skipBlanks_cons filled, different, first, later, bind, Except.bind, pure,
    Except.pure]

/-- Behind its comma, an item is read like the first one. -/
theorem readItems_comma (bound : Nat) {item : Json} (known : ReadBy read item)
    (behind : List Char) :
    readItems read bound false (',' :: (item.text.toList ++ behind)) =
      readItems read bound true (item.text.toList ++ behind) := by
  obtain ⟨c, others, same, filled, different⟩ := known.head
  have comma : isBlank ',' = false := by decide
  cases bound with
  | zero => rfl
  | succ bound =>
      rw [same, List.cons_append]
      simp [readItems, skipBlanks_cons comma, skipBlanks_cons filled, different]

/-- The items behind the first one are read, by induction over them. -/
theorem readItems_following (items : List Json) (known : ∀ item ∈ items, ReadBy read item)
    (bound : Nat) (enough : items.length < bound) (rest : List Char) :
    readItems read bound false (following (itemTexts items) ++ ']' :: rest) =
      .ok (items, rest) := by
  induction items generalizing bound with
  | nil =>
      obtain ⟨bound, rfl⟩ := Nat.exists_eq_succ_of_ne_zero (Nat.ne_zero_of_lt enough)
      rfl
  | cons item items ih =>
      obtain ⟨bound, rfl⟩ := Nat.exists_eq_succ_of_ne_zero (Nat.ne_zero_of_lt enough)
      obtain ⟨here, others⟩ := List.forall_mem_cons.mp known
      have split : following (itemTexts (item :: items)) ++ ']' :: rest =
          ',' :: (item.text.toList ++ (following (itemTexts items) ++ ']' :: rest)) := by
        simp [following, itemTexts]
      rw [split, readItems_comma _ here]
      exact readItems_item here (stops_following _ (.inl rfl) rest)
        (ih others bound (Nat.lt_of_succ_lt_succ enough))

/-- The texts of items with commas between them are read as the items. -/
theorem readItems_separated (items : List Json) (known : ∀ item ∈ items, ReadBy read item)
    (bound : Nat) (enough : items.length < bound) (rest : List Char) :
    readItems read bound true ((separated "," (itemTexts items)).toList ++ ']' :: rest) =
      .ok (items, rest) := by
  obtain ⟨bound, rfl⟩ := Nat.exists_eq_succ_of_ne_zero (Nat.ne_zero_of_lt enough)
  cases items with
  | nil => rfl
  | cons item items =>
      obtain ⟨here, others⟩ := List.forall_mem_cons.mp known
      rw [itemTexts, toList_separated_cons, List.append_assoc]
      exact readItems_item here (stops_following _ (.inl rfl) rest)
        (readItems_following items others bound (Nat.lt_of_succ_lt_succ enough) rest)

/-- A member is written as its quoted key, a colon and its value. -/
theorem toList_memberText (member : String × Json) (behind : List Char) :
    (memberText member).toList ++ behind =
      '"' :: (member.1.toList.flatMap Quoted.escape ++ '"' :: ':' ::
        (member.2.text.toList ++ behind)) := by
  simp [memberText, quote, Quoted.encode]

theorem readColon_colon (rest : List Char) : readColon (':' :: rest) = .ok rest := rfl

/-- A member is read and then the ones behind it. -/
theorem readMembers_member {member : String × Json} {members : List (String × Json)} {bound : Nat}
    {behind rest : List Char} (known : ReadBy read member.2) (stops : Stops behind)
    (later : readMembers read bound false behind = .ok (members, rest)) :
    readMembers read (bound + 1) true ((memberText member).toList ++ behind) =
      .ok (member :: members, rest) := by
  have first := known.reads behind stops
  have key := scanString_quoted member.1 (':' :: (member.2.text.toList ++ behind))
  have mark : isBlank '"' = false := by decide
  rw [toList_memberText]
  simp [readMembers, skipBlanks_cons mark, key, readColon_colon, first, later, bind, Except.bind,
    pure, Except.pure]

theorem readMembers_comma (bound : Nat) (member : String × Json) (behind : List Char) :
    readMembers read bound false (',' :: ((memberText member).toList ++ behind)) =
      readMembers read bound true ((memberText member).toList ++ behind) := by
  have comma : isBlank ',' = false := by decide
  have mark : isBlank '"' = false := by decide
  rw [toList_memberText]
  cases bound with
  | zero => rfl
  | succ bound => simp [readMembers, skipBlanks_cons comma, skipBlanks_cons mark]

/-- The members behind the first one are read, by induction over them. -/
theorem readMembers_following (members : List (String × Json))
    (known : ∀ member ∈ members, ReadBy read member.2) (bound : Nat)
    (enough : members.length < bound) (rest : List Char) :
    readMembers read bound false (following (memberTexts members) ++ '\x7d' :: rest) =
      .ok (members, rest) := by
  induction members generalizing bound with
  | nil =>
      obtain ⟨bound, rfl⟩ := Nat.exists_eq_succ_of_ne_zero (Nat.ne_zero_of_lt enough)
      rfl
  | cons member members ih =>
      obtain ⟨bound, rfl⟩ := Nat.exists_eq_succ_of_ne_zero (Nat.ne_zero_of_lt enough)
      obtain ⟨here, others⟩ := List.forall_mem_cons.mp known
      have split : following (memberTexts (member :: members)) ++ '\x7d' :: rest =
          ',' :: ((memberText member).toList ++
            (following (memberTexts members) ++ '\x7d' :: rest)) := by
        simp [memberTexts_eq_map, following]
      rw [split, readMembers_comma]
      exact readMembers_member here (stops_following _ (.inr rfl) rest)
        (ih others bound (Nat.lt_of_succ_lt_succ enough))

/-- The texts of members with commas between them are read as the members. -/
theorem readMembers_separated (members : List (String × Json))
    (known : ∀ member ∈ members, ReadBy read member.2) (bound : Nat)
    (enough : members.length < bound) (rest : List Char) :
    readMembers read bound true ((separated "," (memberTexts members)).toList ++ '\x7d' :: rest) =
      .ok (members, rest) := by
  obtain ⟨bound, rfl⟩ := Nat.exists_eq_succ_of_ne_zero (Nat.ne_zero_of_lt enough)
  cases members with
  | nil => rfl
  | cons member members =>
      obtain ⟨here, others⟩ := List.forall_mem_cons.mp known
      rw [memberTexts, toList_separated_cons, List.append_assoc]
      exact readMembers_member here (stops_following _ (.inr rfl) rest)
        (readMembers_following members others bound (Nat.lt_of_succ_lt_succ enough) rest)

end Lists

/-- The text of an integer begins with its sign or a digit. -/
theorem exists_integerText (value : Int) : ∃ c others, (integerText value).toList = c :: others ∧
    (c = '-' ∨ Decimal.isDigit c = true) := by
  have digits : (Decimal.digitText value.natAbs).toList = Nat.toDigits 10 value.natAbs :=
    String.toList_ofList
  by_cases negative : value < 0
  · exact ⟨'-', Nat.toDigits 10 value.natAbs, by simp [integerText, negative, digits], .inl rfl⟩
  · obtain ⟨c, others, same, digit⟩ := exists_cons_toDigits value.natAbs
    exact ⟨c, others, by simp [integerText, negative, digits, same], .inr digit⟩

/-- A number does not begin like another value. -/
theorem ne_of_numeral {c d : Char} (numeral : c = '-' ∨ Decimal.isDigit c = true)
    (other : d ≠ '-' ∧ Decimal.isDigit d = false) : c ≠ d := by
  rintro rfl
  rcases numeral with rfl | digit
  · exact other.1 rfl
  · rw [other.2] at digit
    cases digit

end Json

/-- A member with a greater key than all others is put behind them. -/
theorem Members.insert_last {members : Members} {key : String}
    (below : ∀ member ∈ members, member.1 < key) (value : Json) :
    members.insert key value = members ++ [(key, value)] := by
  induction members with
  | nil => rfl
  | cons member members ih =>
      obtain ⟨first, known⟩ := member
      obtain ⟨here, others⟩ := List.forall_mem_cons.mp below
      have different : key ≠ first := by
        rintro rfl
        exact String.lt_irrefl _ here
      rw [insert, if_neg different, if_neg (String.lt_asymm here), ih others, List.cons_append]

theorem Members.ofPairs_concat (pairs : List (String × Json)) (last : String × Json) :
    ofPairs (pairs ++ [last]) = (ofPairs pairs).insert last.1 last.2 := by
  rw [ofPairs, List.foldl_append]
  rfl

def Members.Sorted (members : Members) : Prop :=
  members.Pairwise fun first second => first.1 < second.1

/-- Members in the order of their keys keep it. -/
theorem Members.ofPairs_sorted {pairs : Members} (sorted : pairs.Sorted) :
    ofPairs pairs = pairs := by
  induction pairs using List.reverseRecOn with
  | nil => rfl
  | append_singleton pairs last ih =>
      obtain ⟨before, -, below⟩ := List.pairwise_append.mp sorted
      rw [ofPairs_concat, ih before]
      exact insert_last (fun member known => below member known last (List.mem_singleton_self _)) _

/-- A value without floats, whose brackets nest at most so deep. The keys of its objects are
sorted. -/
inductive Json.Plain : Nat → Json → Prop where
  | null {depth : Nat} : Plain depth .null
  | boolean {depth : Nat} (value : Bool) : Plain depth (.boolean value)
  | integer {depth : Nat} (value : Int64) : Plain depth (.ofInt64 value)
  | string {depth : Nat} (value : String) : Plain depth (.string value)
  | array {depth : Nat} {items : List Json} : (∀ item ∈ items, Plain depth item) →
      Plain (depth + 1) (.array items)
  | object {depth : Nat} {members : Members} : members.Sorted →
      (∀ member ∈ members, Plain depth member.2) → Plain (depth + 1) (.object members)

namespace Json

/-- A number does not begin with a blank. -/
theorem isBlank_numeral {c : Char} (numeral : c = '-' ∨ Decimal.isDigit c = true) :
    isBlank c = false := by
  simp [isBlank, ne_of_numeral numeral (d := ' ') (by decide),
    ne_of_numeral numeral (d := '\t') (by decide), ne_of_numeral numeral (d := '\n') (by decide),
    ne_of_numeral numeral (d := '\r') (by decide)]

/-- An array is written as its items between brackets. -/
theorem toList_array (items : List Json) : (Json.array items).text.toList =
    '[' :: ((separated "," (itemTexts items)).toList ++ [']']) := by
  simp [text]

/-- An object is written as its members between braces. -/
theorem toList_object (members : List (String × Json)) : (Json.object members).text.toList =
    '\x7b' :: ((separated "," (memberTexts members)).toList ++ ['\x7d']) := by
  simp [text]

/-- The text of a value begins with no blank and no closing bracket. -/
theorem Plain.head {depth : Nat} {value : Json} (plain : Plain depth value) :
    ∃ c others, value.text.toList = c :: others ∧ isBlank c = false ∧ c ≠ ']' := by
  cases plain with
  | null => exact ⟨'n', "ull".toList, rfl, rfl, by decide⟩
  | boolean value =>
      cases value with
      | true => exact ⟨'t', "rue".toList, rfl, rfl, by decide⟩
      | false => exact ⟨'f', "alse".toList, rfl, rfl, by decide⟩
  | integer value =>
      obtain ⟨c, others, same, numeral⟩ := exists_integerText value.toInt
      exact ⟨c, others, same, isBlank_numeral numeral, ne_of_numeral numeral (by decide)⟩
  | string value =>
      exact ⟨'"', value.toList.flatMap Quoted.escape ++ ['"'], by simp [text, quote, Quoted.encode],
        rfl, by decide⟩
  | @array _ items => exact ⟨'[', _, toList_array items, rfl, by decide⟩
  | @object _ members => exact ⟨'\x7b', _, toList_object members, rfl, by decide⟩

section First

variable (depth : Nat) (rest : List Char)

theorem readValue_null : readValue depth ("null".toList ++ rest) = .ok (.null, rest) := by
  cases depth <;> rfl

theorem readValue_boolean (value : Bool) :
    readValue depth ((Json.boolean value).text.toList ++ rest) = .ok (.boolean value, rest) := by
  cases depth <;> cases value <;> rfl

/-- A quotation mark begins a string. -/
theorem readValue_quote : readValue depth ('"' :: rest) =
    (scanString rest).map fun (text, rest) => (.string text, rest) := by
  cases depth <;> rfl

/-- A sign or a digit begins a number. -/
theorem readValue_numeral {c : Char} (numeral : c = '-' ∨ Decimal.isDigit c = true) :
    readValue depth (c :: rest) =
      (scanNumber (c :: rest)).map fun (value, rest) => (.number value, rest) := by
  have begins : (c = '-' || Decimal.isDigit c) = true := by simpa using numeral
  have filled := isBlank_numeral numeral
  cases depth <;>
    simp [readValue, skipBlanks_cons filled, ne_of_numeral numeral (d := 'n') (by decide),
      ne_of_numeral numeral (d := 't') (by decide), ne_of_numeral numeral (d := 'f') (by decide),
      ne_of_numeral numeral (d := '"') (by decide), begins]

/-- A bracket begins an array, whose values may nest one bracket less. -/
theorem readValue_bracket : readValue (depth + 1) ('[' :: rest) =
    (readItems (readValue depth) (rest.length + 1) true rest).map
      fun (items, rest) => (.array items, rest) := rfl

/-- A brace begins an object, whose values may nest one bracket less. -/
theorem readValue_brace : readValue (depth + 1) ('\x7b' :: rest) =
    (readMembers (readValue depth) (rest.length + 1) true rest).map
      fun (members, rest) => (.object (Members.ofPairs members), rest) := rfl

end First

theorem length_le_separated (texts : List String) :
    texts.length ≤ (separated "," texts).toList.length + 1 := by
  cases texts with
  | nil => exact Nat.zero_le _
  | cons first others =>
      have commas : others.length ≤ (following others).length :=
        length_le_flatMap _ others (by simp)
      rw [toList_separated_cons, List.length_append, List.length_cons]
      omega

/-- The text of a value is read up to its end, whatever stops it there. -/
theorem Plain.reads {depth : Nat} {value : Json} (plain : Plain depth value) :
    ∀ rest, Stops rest → readValue depth (value.text.toList ++ rest) = .ok (value, rest) := by
  induction plain with
  | null =>
      intro rest _
      exact readValue_null _ rest
  | boolean value =>
      intro rest _
      exact readValue_boolean _ rest value
  | @integer depth value =>
      intro rest stops
      obtain ⟨c, others, same, numeral⟩ := exists_integerText value.toInt
      have scanned := scanNumber_integerText value stops
      rw [same, List.cons_append] at scanned
      rw [ofInt64, text, Number.text, same, List.cons_append,
        readValue_numeral depth _ numeral, scanned]
      rfl
  | string value =>
      intro rest _
      have opened : (Json.string value).text.toList ++ rest =
          '"' :: (value.toList.flatMap Quoted.escape ++ '"' :: rest) := by
        simp [text, quote, Quoted.encode]
      rw [opened, readValue_quote, scanString_quoted]
      rfl
  | @array depth items plain ih =>
      intro rest _
      have known : ∀ item ∈ items, ReadBy (readValue depth) item :=
        fun item member => ⟨(plain item member).head, ih item member⟩
      have enough := length_le_separated (itemTexts items)
      rw [itemTexts_eq_map, List.length_map] at enough
      rw [toList_array, List.cons_append, List.append_assoc, List.singleton_append,
        readValue_bracket, readItems_separated items known]
      · rfl
      · rw [itemTexts_eq_map, List.length_append, List.length_cons]
        omega
  | @object depth members sorted plain ih =>
      intro rest _
      have known : ∀ member ∈ members, ReadBy (readValue depth) member.2 :=
        fun member listed => ⟨(plain member listed).head, ih member listed⟩
      have enough := length_le_separated (memberTexts members)
      rw [memberTexts_eq_map, List.length_map] at enough
      rw [toList_object, List.cons_append, List.append_assoc, List.singleton_append,
        readValue_brace, readMembers_separated members known]
      · simp only [Except.map, Members.ofPairs_sorted sorted]
      · rw [memberTexts_eq_map, List.length_append, List.length_cons]
        omega

/-- A plain value is read from its text. -/
theorem ofText_text {value : Json} (plain : Plain depthLimit value) :
    ofText value.text = .ok value := by
  have read := plain.reads [] (by simp [Stops])
  rw [List.append_nil] at read
  rw [ofText, readText, read]
  rfl

end Json

end HostBridge
