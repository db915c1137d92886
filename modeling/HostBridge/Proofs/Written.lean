/-
This file shows that the text of every JSON value is JSON.
-/
import HostBridge.Proofs.Accepting
import HostBridge.Proofs.Digits

namespace HostBridge

namespace Decimal

/-- The digits as they are counted when an integer has a zero behind its point. -/
def Scientific.pointed (value : Scientific) : Scientific :=
  if 0 ≤ value.exponent then ⟨value.digits * 10 ^ (value.exponent.toNat + 1), -1⟩ else value

/-- The digits of the size of a double as its literal has them. -/
def counted (value : Dyadic) : Scientific :=
  if value.mantissa = 0 then ⟨0, -1⟩
  else
    let digits := shortest value
    if digits.exponent + digitCount digits.digits ≤ 16 then digits.pointed else digits

end Decimal

namespace Json

open Text

/-- A written character in front of a string makes a string. -/
theorem characters_written {c : Char} {written : List Char} (form : Quoted.Written c written)
    {behind rest : List Char} (characters : Characters Dialect.all.code behind rest) :
    Characters Dialect.all.code (written ++ behind) rest := by
  cases form with
  | plain noQuote noBackslash visible => exact .plain noQuote noBackslash visible characters
  | mark mark known =>
      have plain : (plainEscape? mark).isSome = true := by
        simp only [Quoted.marks, List.mem_cons, Prod.mk.injEq, List.not_mem_nil, or_false] at known
        rcases known with ⟨rfl, rfl⟩ | ⟨rfl, rfl⟩ | ⟨rfl, rfl⟩ | ⟨rfl, rfl⟩ | ⟨rfl, rfl⟩ |
          ⟨rfl, rfl⟩ | ⟨rfl, rfl⟩ <;> rfl
      exact .escape plain characters
  | code low =>
      have hex := (scanHex_iff _ _ behind).mp (scanHex_hexFixed c.toNat (by omega) behind)
      exact .numeric ⟨_, hex⟩ characters

/-- A quoted text ends with its last quote. -/
theorem characters_escaped (text rest : List Char) :
    Characters Dialect.all.code (text.flatMap Quoted.escape ++ '"' :: rest) rest := by
  induction text with
  | nil => exact .close
  | cons c text ih =>
      rw [List.flatMap_cons, List.append_assoc]
      exact characters_written (Quoted.written_escape c) ih

section Numbers

/-- The digits of a number, which begin with a zero only if it is zero. -/
def digitsOf (value : Nat) : Digits where
  text := Nat.toDigits 10 value
  filled := List.ne_nil_of_length_pos Nat.length_toDigits_pos
  known := isDigit_toDigits value

/-- The digits of a number have no zero in front. -/
theorem digitsOf_plain (value : Nat) :
    (digitsOf value).text.head? = some '0' → (digitsOf value).text = ['0'] := by
  rcases Nat.eq_zero_or_pos value with rfl | positive
  · exact fun _ => rfl
  · obtain ⟨c, digits, same, different⟩ := exists_toDigits positive
    intro head
    have first : (Nat.toDigits 10 value).head? = some '0' := head
    rw [same] at first
    exact absurd (Option.some.inj first) different

open Decimal

/-- The digits of a literal before its exponent, as one natural number. -/
def Numeral.digits (numeral : Numeral) : Nat :=
  Nat.ofDigitChars 10 (numeral.whole.text ++ numeral.fraction.elim [] Digits.text) 0

/-- The power of ten that the last of these digits counts. -/
def Numeral.power (numeral : Numeral) : Int :=
  numeral.exponent.elim 0 Exponent.value -
    numeral.fraction.elim 0 fun digits => (digits.text.length : Int)

/-- A literal of a float with these digits. -/
structure Numeral.Shows (numeral : Numeral) (value : Scientific) : Prop where
  digits : numeral.digits = value.digits
  power : numeral.power = value.exponent
  float : numeral.fraction = none → numeral.exponent ≠ none
  near : ∀ exponent ∈ numeral.exponent,
    exponent.size ≤ value.exponent.natAbs + digitCount value.digits

/-- The text is a literal without a sign, of a float with these digits. -/
def Writes (text : List Char) (value : Scientific) : Prop :=
  ∃ numeral : Numeral, numeral.unsignedText = text ∧ numeral.Shows value

theorem isDigit_zeros (count : Nat) : ∀ c ∈ List.replicate count '0', isDigit c = true := by
  intro c member
  rw [List.eq_of_mem_replicate member]
  rfl

/-- The first digit is no zero, so that all digits before the point are an integer part. -/
theorem writes_positional {value : Scientific} (positive : 0 < value.digits) :
    Writes (Layout.json.positional value).toList value.pointed := by
  obtain ⟨c, digits, same, different⟩ := exists_toDigits positive
  have known := isDigit_toDigits value.digits
  have number : Nat.ofDigitChars 10 (Nat.toDigits 10 value.digits) 0 = value.digits :=
    Nat.ofDigitChars_ten_toDigits
  unfold Layout.positional Scientific.pointed
  simp only
  generalize Nat.toDigits 10 value.digits = all at same known number
  subst same
  have plain {others : List Char} (head : (c :: others).head? = some '0') : c :: others = ['0'] :=
    absurd (Option.some.inj head) different
  split
  · have whole : ∀ d ∈ c :: (digits ++ List.replicate value.exponent.toNat '0'),
        isDigit d = true := by
      intro d member
      rw [← List.cons_append, List.mem_append] at member
      exact member.elim (known d) (isDigit_zeros _ d)
    refine ⟨⟨false, ⟨_, by simp, whole⟩, plain, some .zero, none⟩, ?_, ?_, ?_, by simp, by simp⟩
    · simp [Numeral.unsignedText, fractionText, exponentText, zeros, Layout.json]
    · have zeros : List.replicate value.exponent.toNat '0' ++ ['0'] =
          List.replicate (value.exponent.toNat + 1) '0' := List.replicate_succ'.symm
      simp only [Numeral.digits, Option.elim_some, Digits.text_zero, List.append_assoc, zeros,
        ← List.cons_append, Nat.ofDigitChars_append, Nat.ofDigitChars_replicate_zero, number]
      exact Nat.mul_comm ..
    · simp [Numeral.power]
  · next negative =>
      split
      · next before =>
          generalize count : ((c :: digits).length + value.exponent).toNat = taken
          obtain ⟨taken, rfl⟩ := Nat.exists_eq_succ_of_ne_zero (n := taken) (by omega)
          have whole : ∀ d ∈ c :: digits.take taken, isDigit d = true :=
            fun d member => known d (List.mem_of_mem_take (i := taken + 1) member)
          have fraction : ∀ d ∈ digits.drop taken, isDigit d = true :=
            fun d member => known d (List.mem_cons_of_mem c (List.mem_of_mem_drop member))
          have filled : digits.drop taken ≠ [] := by
            rw [Ne, List.drop_eq_nil_iff]
            simp only [List.length_cons] at count
            omega
          refine ⟨⟨false, ⟨_, by simp, whole⟩, plain, some ⟨_, filled, fraction⟩, none⟩, ?_, ?_,
            ?_, by simp, by simp⟩
          · simp [Numeral.unsignedText, fractionText, exponentText]
          · simpa [Numeral.digits] using number
          · simp only [List.length_cons] at count
            simp only [Numeral.power, Option.elim_none, Option.elim_some, List.length_drop]
            omega
      · next within =>
          generalize count : (-((c :: digits).length + value.exponent)).toNat = missing
          have fraction : ∀ d ∈ List.replicate missing '0' ++ c :: digits, isDigit d = true :=
            fun d member => (List.mem_append.mp member).elim (isDigit_zeros _ d) (known d)
          refine ⟨⟨false, .zero, fun _ => rfl, some ⟨_, by simp, fraction⟩, none⟩, ?_, ?_, ?_,
            by simp, by simp⟩
          · simp [Numeral.unsignedText, fractionText, exponentText, zeros]
          · have zero : Nat.ofDigitChars 10 ['0'] 0 = 0 := rfl
            simp only [Numeral.digits, Option.elim_some, Digits.text_zero,
              Nat.ofDigitChars_append, Nat.ofDigitChars_replicate_zero, zero, Nat.mul_zero, number]
          · simp only [Numeral.power, Option.elim_none, Option.elim_some, List.length_append,
              List.length_replicate]
            omega

/-- Digits with an exponent are written as a literal of them. -/
theorem writes_exponential (value : Scientific) : Writes (exponential value).toList value := by
  obtain ⟨c, digits, same⟩ := List.exists_cons_of_ne_nil
    (List.ne_nil_of_length_pos (Nat.length_toDigits_pos (b := 10) (n := value.digits)))
  have known := isDigit_toDigits value.digits
  have number : Nat.ofDigitChars 10 (Nat.toDigits 10 value.digits) 0 = value.digits :=
    Nat.ofDigitChars_ten_toDigits
  have places : digitCount value.digits = digits.length + 1 := by
    rw [digitCount, same, List.length_cons]
  have length : (Nat.toDigits 10 value.digits).length = digits.length + 1 := places
  unfold exponential
  simp only [length]
  generalize counted : value.exponent + (digits.length + 1 : Nat) - 1 = power
  generalize Nat.toDigits 10 value.digits = all at same known number
  subst same
  obtain ⟨first, others⟩ := List.forall_mem_cons.mp known
  have signs : ∀ d ∈ some (if power < 0 then '-' else '+'), d = '+' ∨ d = '-' := by
    split <;> simp
  have size : Exponent.value ⟨'e', rfl, _, signs, digitsOf power.natAbs⟩ = power := by
    simp only [Exponent.value, Exponent.size, Exponent.isNegative, digitsOf,
      Nat.ofDigitChars_ten_toDigits]
    by_cases negative : power < 0
    · rw [if_pos (by simp [negative])]
      omega
    · rw [if_neg (by simp [negative])]
      omega
  refine ⟨⟨false, ⟨[c], by simp, by simpa using first⟩, by simp,
    if filled : digits = [] then none else some ⟨digits, filled, others⟩,
    some ⟨'e', rfl, _, signs, digitsOf power.natAbs⟩⟩, ?_, ?_, ?_, by simp, ?_⟩
  · by_cases negative : power < 0 <;> cases digits <;>
      simp [Numeral.unsignedText, fractionText, exponentText, Exponent.text, digitsOf, digitText,
        negative]
  · cases digits <;> simpa [Numeral.digits] using number
  · cases digits <;> simp [Numeral.power, size] at counted ⊢ <;> omega
  · intro exponent known
    obtain rfl := Option.some.inj known
    simp only [Exponent.size, digitsOf, Nat.ofDigitChars_ten_toDigits, places]
    omega

/-- The size of a double is written as a literal of its shortest digits. -/
theorem writes_size {value : Decimal.Dyadic} (proper : value.Proper) :
    Writes (Layout.json.size (shortest value)).toList (counted value) := by
  have positive := shortest_pos proper
  have filled := proper.positive.ne'
  unfold counted
  rw [if_neg filled]
  simp only
  generalize shortest value = digits at positive
  have lowest : Layout.json.lowest = -5 := rfl
  have limit : Layout.json.limit = 16 := rfl
  simp only [Layout.size, Bool.and_eq_true, decide_eq_true_eq, lowest, limit]
  by_cases short : digits.exponent + digitCount digits.digits ≤ 16
  · rw [if_pos short]
    split
    · exact writes_positional positive
    · next small =>
        have fraction : digits.pointed = digits := by
          rw [Scientific.pointed, if_neg]
          omega
        rw [fraction]
        exact writes_exponential digits
  · rw [if_neg short, if_neg (by omega)]
    exact writes_exponential digits

theorem isNumber_of_isFinite {x : Float} (finite : x.isFinite = true) :
    x.isNaN = false ∧ x.isInf = false := by
  unfold Float.isFinite Float.Model.isFinite at finite
  unfold Float.isNaN Float.isInf Float.Model.isNaN Float.Model.isInf
  generalize x.toModel.unpack = unpacked at finite
  cases unpacked with
  | notANumber => cases finite
  | infinity => cases finite
  | zero => exact ⟨rfl, rfl⟩
  | finite => exact ⟨rfl, rfl⟩

/-- The text of a finite double is a literal with the digits of its size. -/
theorem writes_float {x : Float} (finite : x.isFinite = true) :
    ∃ text, Writes text (counted (Decimal.Dyadic.ofFloat x)) ∧
      (Layout.json.text x).toList =
        (if (Decimal.Dyadic.ofFloat x).negative then ['-'] else []) ++ text := by
  obtain ⟨isNumber, noInfinity⟩ := isNumber_of_isFinite finite
  unfold Layout.text
  simp only [isNumber, noInfinity, Bool.false_eq_true, if_false]
  by_cases zero : (Decimal.Dyadic.ofFloat x).mantissa = 0
  · refine ⟨['0', '.', '0'], ⟨⟨false, .zero, fun _ => rfl, some .zero, none⟩, rfl, ?_, ?_,
      by simp, by simp⟩, ?_⟩
    · rw [counted, if_pos zero]
      rfl
    · rw [counted, if_pos zero]
      rfl
    · rw [if_pos zero]
      split <;> rfl
  · have proper := Decimal.Dyadic.proper_ofFloat (Nat.pos_of_ne_zero zero)
    refine ⟨_, writes_size proper, ?_⟩
    rw [if_neg zero, String.toList_append]
    split <;> rfl

/-- The text of a double is a number literal. -/
theorem exists_numeral_float {x : Float} (finite : x.isFinite = true) :
    ∃ numeral : Numeral, numeral.text = (Layout.json.text x).toList := by
  obtain ⟨text, ⟨numeral, rfl, -⟩, same⟩ := writes_float finite
  exact ⟨{ numeral with negative := (Decimal.Dyadic.ofFloat x).negative }, same.symm⟩

/-- The text of an integer is a number literal. -/
theorem exists_numeral_integer (value : Int) :
    ∃ numeral : Numeral, numeral.text = (integerText value).toList := by
  refine ⟨⟨decide (value < 0), digitsOf value.natAbs, digitsOf_plain _, none, none⟩, ?_⟩
  by_cases negative : value < 0 <;>
    simp [Numeral.text, Numeral.unsignedText, fractionText, exponentText, digitsOf, integerText,
      digitText, negative]

end Numbers

/-- A text that is read as a value wherever it stands. -/
def IsValue (depth : Nat) (text : String) : Prop :=
  ∀ rest, Value .all depth (text.toList ++ rest) rest

theorem isValue_number (value : Number) : IsValue 0 value.text := by
  intro rest
  cases value with
  | integer value =>
      obtain ⟨numeral, same⟩ := exists_numeral_integer value
      rw [Number.text, ← same]
      exact .number numeral trivial
  | float value =>
      unfold Number.text
      simp only
      split
      · next finite =>
          obtain ⟨numeral, same⟩ := exists_numeral_float finite
          rw [← same]
          exact .number numeral trivial
      · exact .null

/-- A quoted text is a string. -/
theorem characters_quote (text : String) (rest : List Char) :
    ∃ inside, (quote text).toList ++ rest = '"' :: inside ∧
      Characters Dialect.all.code inside rest := by
  refine ⟨text.toList.flatMap Quoted.escape ++ '"' :: rest, ?_, characters_escaped ..⟩
  simp [quote, Quoted.encode]

theorem isValue_string (text : String) : IsValue 0 (quote text) := by
  intro rest
  obtain ⟨inside, same, characters⟩ := characters_quote text rest
  rw [same]
  exact .string characters

/-- Texts with commas between them stand for elements. -/
theorem listed_separated {A B : Type} (element : A → Part) (close : Char) (label : B → A)
    (text : B → String) {first : B} {others : List B}
    (known : ∀ b ∈ first :: others, ∀ rest, element (label b) ((text b).toList ++ rest) rest)
    (rest : List Char) :
    Listed element close ((first :: others).map label)
      ((separated "," ((first :: others).map text)).toList ++ close :: rest) rest := by
  rw [List.map_cons, List.map_cons, toList_separated_cons, List.append_assoc]
  obtain ⟨here, later⟩ := List.forall_mem_cons.mp known
  induction others generalizing first with
  | nil => exact .last (.refl _) (here _) (.refl _)
  | cons second others ih =>
      obtain ⟨next, more⟩ := List.forall_mem_cons.mp later
      have tail := ih later next more
      have split : following ((second :: others).map text) ++ close :: rest =
          ',' :: ((text second).toList ++ (following (others.map text) ++ close :: rest)) := by
        simp [following]
      rw [split]
      exact .more (.refl _) (here _) (.refl _) tail

/-- Values with commas between them are the inside of brackets. -/
theorem enclosed_separated {element : Part} {close : Char} {texts : List String}
    (known : ∀ text ∈ texts, ∀ rest, element (text.toList ++ rest) rest) (rest : List Char) :
    Enclosed element close ((separated "," texts).toList ++ close :: rest) rest := by
  cases texts with
  | nil => exact .inl (.refl _)
  | cons first others =>
      have listed := listed_separated (fun _ => element) close id id known rest
      rw [List.map_id] at listed
      exact .inr (listed.elements element fun _ _ _ => id)

/-- A value is one of any greater depth. -/
theorem Value.deepen {dialect : Dialect} {depth deeper : Nat} (le : depth ≤ deeper)
    {text rest : List Char} (value : Value dialect depth text rest) :
    Value dialect deeper text rest := by
  induction depth generalizing deeper text rest with
  | zero => exact value_iff.mpr (.inl value)
  | succ depth ih =>
      obtain ⟨deeper, rfl⟩ := Nat.exists_eq_succ_of_ne_zero (n := deeper) (by omega)
      have inner : ∀ {text rest}, Value dialect depth text rest → Value dialect deeper text rest :=
        ih (Nat.le_of_succ_le_succ le)
      rcases value with scalar | items | members
      · exact .inl scalar
      · next items => exact .inr (.array (items.mono inner))
      · next members => exact .inr (.object (members.mono (Member.mono (fun key => key) inner)))

theorem IsValue.deepen {depth deeper : Nat} (le : depth ≤ deeper) {text : String}
    (isValue : IsValue depth text) : IsValue deeper text := fun rest => (isValue rest).deepen le

/-- What the text of an object shows of a member. -/
def Field.ofMember (member : String × Json) : Field :=
  ⟨member.1.toList.flatMap Quoted.escape, member.2.text.toList⟩

/-- A written member stands as a field. -/
theorem stands_memberText {depth : Nat} {member : String × Json}
    (isValue : IsValue depth member.2.text) (rest : List Char) :
    (Field.ofMember member).Stands depth ((memberText member).toList ++ rest) rest := by
  refine ⟨':' :: (member.2.text.toList ++ rest), member.2.text.toList ++ rest, ?_,
    characters_escaped .., .refl _, .refl _, isValue rest⟩
  simp [memberText, quote, Quoted.encode, Field.ofMember]

mutual

/-- The text of every value is JSON. -/
theorem exists_isValue : (value : Json) → ∃ depth, IsValue depth value.text
  | .null => ⟨0, fun _ => .null⟩
  | .boolean true => ⟨0, fun _ => .true⟩
  | .boolean false => ⟨0, fun _ => .false⟩
  | .number value => ⟨0, isValue_number value⟩
  | .string value => ⟨0, isValue_string value⟩
  | .array items => by
      obtain ⟨depth, known⟩ := exists_isValue_items items
      refine ⟨depth + 1, fun rest => ?_⟩
      rw [toList_array, List.cons_append, List.append_assoc]
      exact .inr (.array (enclosed_separated known rest))
  | .object members => by
      obtain ⟨depth, known⟩ := exists_isValue_members members
      refine ⟨depth + 1, fun rest => ?_⟩
      rw [toList_object, memberTexts_eq_map, List.cons_append, List.append_assoc]
      have stands : ∀ text ∈ members.map memberText, ∀ rest,
          Member Dialect.all.code (Value .all depth) (text.toList ++ rest) rest := by
        intro text among rest
        obtain ⟨member, inside, rfl⟩ := List.mem_map.mp among
        exact (stands_memberText (known member inside) rest).member
      exact .inr (.object (enclosed_separated stands rest))

/-- There is a depth for all items of an array. -/
theorem exists_isValue_items : (items : List Json) →
    ∃ depth, ∀ text ∈ itemTexts items, IsValue depth text
  | [] => ⟨0, by simp [itemTexts]⟩
  | item :: rest => by
      obtain ⟨first, here⟩ := exists_isValue item
      obtain ⟨others, later⟩ := exists_isValue_items rest
      refine ⟨max first others, ?_⟩
      rw [itemTexts, List.forall_mem_cons]
      exact ⟨here.deepen (le_max_left ..),
        fun text member => (later text member).deepen (le_max_right ..)⟩

/-- There is a depth for all members of an object. -/
theorem exists_isValue_members : (members : List (String × Json)) →
    ∃ depth, ∀ member ∈ members, IsValue depth member.2.text
  | [] => ⟨0, by simp⟩
  | (_, value) :: rest => by
      obtain ⟨first, here⟩ := exists_isValue value
      obtain ⟨others, later⟩ := exists_isValue_members rest
      refine ⟨max first others, ?_⟩
      rw [List.forall_mem_cons]
      exact ⟨here.deepen (le_max_left ..),
        fun member among => (later member among).deepen (le_max_right ..)⟩

end

end Json

end HostBridge
