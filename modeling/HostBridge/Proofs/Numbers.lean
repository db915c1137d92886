/-
This file shows which numbers are decoded.
-/
import HostBridge.Proofs.Echo
import HostBridge.Proofs.Scaling

namespace HostBridge

/-- An integer of 64 bits with a sign or without one, or a finite double. -/
def Number.Decoded : Number → Prop
  | .integer value => -0x8000000000000000 ≤ value ∧ value < 0x10000000000000000
  | .float value => value.isFinite = true

/-- All numbers in a value are such numbers. -/
inductive Json.Decoded : Json → Prop where
  | null : Json.Decoded .null
  | boolean (value : Bool) : Json.Decoded (.boolean value)
  | number {number : Number} : number.Decoded → Json.Decoded (.number number)
  | string (value : String) : Json.Decoded (.string value)
  | array {items : List Json} : (∀ item ∈ items, Json.Decoded item) → Json.Decoded (.array items)
  | object {members : Members} :
      (∀ member ∈ members, Json.Decoded member.2) → Json.Decoded (.object members)

namespace Double

/-- The double zero without a sign. -/
def zero : Float := .ofModel (.pack (.zero .positive))

theorem ofNat_zero : Float.ofNat 0 = zero := by decide +kernel

theorem zero_beq : (zero == 0.0) = true := by decide +kernel

variable {x : Float} {size : ℚ}

/-- The product of zero and a double is zero. -/
theorem zero_mul_denotes (denotes : Denotes x size) : zero * x = zero := by
  obtain ⟨mantissa, exponent, double, rfl, -⟩ := denotes
  change Float.ofModel (.pack (.mul Float.Model.Format.binary64 zero.toModel.unpack _)) = _
  rw [zero, unpack_zero, unpack_ofParts]
  rfl

/-- The quotient of zero and a double is zero. -/
theorem zero_div_denotes (denotes : Denotes x size) : zero / x = zero := by
  obtain ⟨mantissa, exponent, double, rfl, -⟩ := denotes
  change Float.ofModel (.pack (.div Float.Model.Format.binary64 zero.toModel.unpack _)) = _
  rw [zero, unpack_zero, unpack_ofParts]
  rfl

end Double

namespace Json

open Double Decimal

section Scaling

variable {x y : Float} {size : ℚ}

/-- Zero stays zero, whatever its exponent is. -/
theorem scaled_zero (steps : ℕ) (exponent : ℤ) : scaled steps zero exponent = some zero := by
  cases steps with
  | zero => rfl
  | succ steps =>
      rw [scaled]
      split
      · next near =>
          obtain ⟨_, denotes, -⟩ := near_powerOfTen near
          rw [zero_mul_denotes denotes, zero_div_denotes denotes]
          split <;> rfl
      · rw [if_pos zero_beq]

/-- A quotient by a power of ten has a size again. -/
theorem exists_sized_quotient (sized : Sized x size) {power : ℕ} (positive : 0 < power)
    (small : power ≤ 308) : ∃ size, Sized (x / powerOfTen power) size := by
  obtain ⟨divisor, other, near⟩ := near_powerOfTen small
  rcases sized with denotes | ⟨rfl, -⟩
  · have ten : (10 : ℚ) ^ 1 ≤ 10 ^ power := pow_le_pow_right₀ (by norm_num) positive
    have least : 1 ≤ divisor := by
      have half := ((near.mono (by norm_num)).lt (by linarith)).1
      linarith
    have less : size / divisor ≤ size := div_le_self denotes.pos.le least
    have below := denotes.isRounded.lt_limit denotes.isInf
    obtain ⟨size, sized, -⟩ :=
      (denotes.div other).exists_sized (div_pos denotes.pos other.pos).le (by linarith)
    exact ⟨size, sized⟩
  · exact ⟨0, .inr ⟨zero_div_denotes other, rfl⟩⟩

/-- Scaling down gives a size. -/
theorem exists_sized_scaled (steps : ℕ) {exponent : ℤ} (negative : exponent < 0)
    (sized : Sized x size) (known : scaled steps x exponent = some y) : ∃ size, Sized y size := by
  induction steps generalizing x size exponent with
  | zero => exact ⟨size, Option.some.inj known ▸ sized⟩
  | succ steps ih =>
      rw [scaled] at known
      split at known
      · next near =>
          rw [if_neg (by omega)] at known
          obtain rfl := Option.some.inj known
          exact exists_sized_quotient sized (by omega) near
      · split at known
        · exact ⟨size, Option.some.inj known ▸ sized⟩
        · rw [if_neg (by omega)] at known
          obtain ⟨_, quotient⟩ := exists_sized_quotient sized (by decide) (le_refl 308)
          exact ih (by omega) quotient known

/-- Digits are scaled to a finite double or to none. -/
theorem exists_sized {digits : ℕ} (small : digits < 0x10000000000000000) {steps : ℕ} {exponent : ℤ}
    (known : scaled steps (Float.ofNat digits) exponent = some y) : ∃ size, Sized y size := by
  rcases Nat.eq_zero_or_pos digits with rfl | positive
  · rw [ofNat_zero, scaled_zero] at known
    obtain rfl := Option.some.inj known
    exact ⟨0, .inr ⟨rfl, rfl⟩⟩
  have below : (digits : ℚ) < limit := lt_limit_of_lt (small.trans (by decide))
  obtain ⟨size, denotes, near⟩ := near_ofNat positive below
  rcases lt_or_ge exponent 0 with negative | natural
  · exact exists_sized_scaled steps negative (.inl denotes) known
  cases steps with
  | zero => exact ⟨size, Option.some.inj known ▸ .inl denotes⟩
  | succ steps =>
      obtain ⟨power, rfl⟩ := Int.eq_ofNat_of_zero_le natural
      rw [scaled, if_pos natural, if_pos natural, Int.natAbs_natCast] at known
      split at known
      · next inside =>
          obtain ⟨factor, other, -⟩ := near_powerOfTen inside
          simp only at known
          split at known
          · cases known
          · next finite =>
              obtain rfl := Option.some.inj known
              have least : (1 : ℚ) ≤ digits := by exact_mod_cast positive
              have half := ((near.mono (by norm_num)).lt (by linarith)).1
              have rounded := denotes.mul other (by linarith [least_le_half])
              obtain ⟨size, sized, -⟩ := rounded.exists_sized (mul_pos denotes.pos other.pos).le
                (rounded.lt_limit (Bool.eq_false_iff.mpr finite))
              exact ⟨size, sized⟩
      · rw [denotes.beq_zero, if_neg Bool.false_ne_true] at known
        cases known

end Scaling

section Scanning

/-- What a scan gives has a property. -/
def Gives {A : Type} (scan : Scan A) (property : A → Prop) : Prop :=
  ∀ value rest, scan = .ok (value, rest) → property value

theorem gives_any {A : Type} (scan : Scan A) : Gives scan fun _ => True := fun _ _ _ => trivial

theorem gives_error {A : Type} {property : A → Prop} (stop : Stop) :
    Gives (.error stop : Scan A) property := nofun

theorem gives_ok {A : Type} {property : A → Prop} {value : A} (known : property value)
    (rest : List Char) : Gives (.ok (value, rest)) property := by
  rintro _ _ ⟨⟩
  exact known

/-- Scans one after the other give what the last one does. -/
theorem Gives.bind {A B : Type} {scan : Scan A} {first : A → Prop} {second : B → Prop}
    (gives : Gives scan first) {next : A × List Char → Scan B}
    (after : ∀ value rest, first value → Gives (next (value, rest)) second) :
    Gives (Except.bind scan next) second := by
  cases scan with
  | error stop => exact gives_error stop
  | ok found => exact after found.1 found.2 (gives _ _ rfl)

/-- What is made of a result has the property that it is made with. -/
theorem Gives.map {A B : Type} {scan : Scan A} {first : A → Prop} {second : B → Prop}
    (gives : Gives scan first) (make : A → B) (after : ∀ value, first value → second (make value)) :
    Gives (scan.map fun (value, rest) => (make value, rest)) second := by
  cases scan with
  | error stop => exact gives_error stop
  | ok found => exact gives_ok (after _ (gives _ _ rfl)) found.2

variable (value : Significand)

/-- Scaling gives a finite double. -/
theorem gives_toFloat (small : value.digits < 0x10000000000000000) (text : List Char) :
    Gives (value.toFloat text) Number.Decoded := by
  unfold Significand.toFloat
  split
  · next size scaled =>
      obtain ⟨_, sized⟩ := exists_sized small scaled
      refine gives_ok ?_ text
      exact (sized.withSign value.negative).1
  · exact gives_error _

/-- Digits with an exponent give a finite double. -/
theorem gives_scanExponent (small : value.digits < 0x10000000000000000) (exponent : Exponent)
    (behind : List Char) :
    Gives (scanExponent value (exponent.sign.toList ++ (exponent.digits.text ++ behind)))
      Number.Decoded := by
  have none : Sized 0.0 0 := .inr ⟨by decide +kernel, rfl⟩
  rw [scanExponent_append]
  split
  · apply gives_toFloat
    exact small
  · split
    · exact gives_error _
    · refine gives_ok ?_ _
      exact (none.withSign value.negative).1

/-- Digits with or without an exponent give a finite double. -/
theorem gives_scanScale (small : value.digits < 0x10000000000000000) {exponent : Option Exponent}
    {behind : List Char} (ends : EndsScale exponent behind) :
    Gives (scanScale value (exponentText exponent ++ behind)) Number.Decoded := by
  cases exponent with
  | none =>
      rw [exponentText, Option.elim_none, List.nil_append, scanScale_ends value ends]
      exact gives_toFloat value small behind
  | some exponent =>
      rw [exponentText, Option.elim_some, Exponent.text, List.cons_append, scanScale,
        if_pos exponent.marks, List.append_assoc]
      exact gives_scanExponent value small exponent behind

/-- The digits that are taken make a number of 64 bits. -/
theorem takeDigits_lt {significand : ℕ} (small : significand < 0x10000000000000000)
    (text : List Char) : (takeDigits significand text).1 < 0x10000000000000000 := by
  induction text generalizing significand with
  | nil => exact small
  | cons c text ih =>
      simp only [takeDigits]
      split
      · next taken =>
          rw [Bool.and_eq_true, decide_eq_true_eq] at taken
          exact ih taken.2
      · exact small

/-- The digits of a literal that are taken make a number of 64 bits. -/
theorem Numeral.significand_lt (numeral : Numeral) :
    numeral.significand.digits < 0x10000000000000000 := by
  have whole := takeDigits_lt (by decide : 0 < 0x10000000000000000) numeral.whole.text
  unfold Numeral.significand
  cases numeral.fraction with
  | none => exact whole
  | some fraction => exact takeDigits_lt whole fraction.text

/-- Digits alone make an integer of 64 bits or a finite double. -/
theorem decoded_wholeNumber (negative : Bool) {digits : ℕ} (small : digits < 0x10000000000000000) :
    (wholeNumber negative digits).Decoded := by
  obtain ⟨_, sized⟩ := exists_sized small (rfl : scaled 0 (Float.ofNat digits) 0 = _)
  cases negative with
  | false =>
      change _ ≤ (digits : ℤ) ∧ (digits : ℤ) < _
      omega
  | true =>
      simp only [wholeNumber, Bool.not_true, Bool.false_eq_true, if_false, Bool.and_eq_true,
        decide_eq_true_eq]
      split
      · change _ ≤ -(digits : ℤ) ∧ -(digits : ℤ) < _
        omega
      · exact (sized.withSign true).1

/-- A number that is scanned is an integer of 64 bits or a finite double. -/
theorem gives_scanNumber (text : List Char) : Gives (scanNumber text) Number.Decoded := by
  intro number rest known
  obtain ⟨numeral, rfl, ends, -⟩ := (leaves_scanNumber_iff text rest).mp ⟨number, known⟩
  rw [scanNumber_text] at known
  by_cases whole : numeral.fraction = none ∧ numeral.exponent = none ∧ numeral.whole.Short
  · rw [scanUnsigned_whole ends whole.1 whole.2.1 whole.2.2] at known
    exact gives_ok (decoded_wholeNumber _ numeral.significand_lt) rest _ _ known
  · rw [scanUnsigned_scaled ends whole] at known
    exact gives_scanScale _ numeral.significand_lt ends.scale _ _ known

end Scanning

section Reading

variable {read : List Char → Scan Json} (gives : ∀ text, Gives (read text) Json.Decoded)

include gives

theorem gives_item {bound : ℕ}
    (behind : ∀ text, Gives (readItems read bound false text) fun items =>
      ∀ item ∈ items, item.Decoded) (text : List Char) :
    Gives (do
      let (head, rest) ← read text
      let (tail, rest) ← readItems read bound false rest
      return (head :: tail, rest) : Except Stop (List Json × List Char))
        fun items => ∀ item ∈ items, item.Decoded := by
  refine (gives text).bind fun head rest decoded => ?_
  refine (behind rest).bind fun tail rest others => ?_
  exact gives_ok (List.forall_mem_cons.mpr ⟨decoded, others⟩) rest

/-- All items of an array have such numbers only. -/
theorem gives_readItems (bound : ℕ) (first : Bool) (text : List Char) :
    Gives (readItems read bound first text) fun items => ∀ item ∈ items, item.Decoded := by
  induction bound generalizing first text with
  | zero => exact gives_error _
  | succ bound ih =>
      have item := gives_item gives (ih false)
      rw [readItems]
      simp only
      split
      · exact gives_error _
      split
      · exact gives_ok (List.forall_mem_nil _) _
      split
      · exact item _
      split
      · split
        · exact gives_error _
        split
        · exact gives_error _
        · exact item _
      · exact gives_error _

theorem gives_member {bound : ℕ}
    (behind : ∀ text, Gives (readMembers read bound false text) fun members =>
      ∀ member ∈ members, member.2.Decoded) (text : List Char) :
    Gives (do
      let (key, rest) ← scanString text
      let rest ← readColon rest
      let (head, rest) ← read rest
      let (tail, rest) ← readMembers read bound false rest
      return ((key, head) :: tail, rest) : Except Stop (Members × List Char))
        fun members => ∀ member ∈ members, member.2.Decoded := by
  refine (gives_any (scanString text)).bind fun key rest _ => ?_
  cases colon : readColon rest with
  | error stop =>
      simp only [colon]
      exact gives_error stop
  | ok rest =>
      simp only [colon]
      refine (gives rest).bind fun head rest decoded => ?_
      refine (behind rest).bind fun tail rest others => ?_
      refine gives_ok ?_ rest
      exact List.forall_mem_cons.mpr ⟨decoded, others⟩

/-- All members of an object have such numbers only. -/
theorem gives_readMembers (bound : ℕ) (first : Bool) (text : List Char) :
    Gives (readMembers read bound first text) fun members =>
      ∀ member ∈ members, member.2.Decoded := by
  induction bound generalizing first text with
  | zero => exact gives_error _
  | succ bound ih =>
      have member := gives_member gives (ih false)
      rw [readMembers]
      simp only
      split
      · exact gives_error _
      split
      · exact gives_ok (List.forall_mem_nil _) _
      split
      · split
        · exact member _
        · exact gives_error _
      split
      · split
        · exact gives_error _
        split
        · exact member _
        split
        · exact gives_error _
        · exact gives_error _
      · exact gives_error _

end Reading

/-- Members that replace one another have such numbers only. -/
theorem decoded_ofPairs {pairs : List (String × Json)} (decoded : ∀ pair ∈ pairs, pair.2.Decoded) :
    ∀ member ∈ Members.ofPairs pairs, member.2.Decoded := by
  have step (members : Members) (known : ∀ member ∈ members, member.2.Decoded) :
      ∀ member ∈ pairs.foldl (fun members pair => members.insert pair.1 pair.2) members,
        member.2.Decoded := by
    induction pairs generalizing members with
    | nil => exact known
    | cons pair pairs ih =>
        obtain ⟨first, others⟩ := List.forall_mem_cons.mp decoded
        refine ih others _ fun member inside => ?_
        rcases Members.mem_of_mem_insert inside with rfl | old
        · exact first
        · exact known member old
  exact step [] (List.forall_mem_nil _)

/-- A value that is read has such numbers only, by induction on its depth. -/
theorem gives_readValue (depth : ℕ) (text : List Char) :
    Gives (readValue depth text) Json.Decoded := by
  have step (depth : ℕ) (nested : ∀ inner, depth = inner + 1 →
      ∀ text, Gives (readValue inner text) Json.Decoded) (text : List Char) :
      Gives (readValue depth text) Json.Decoded := by
    rw [readValue.eq_def]
    simp only
    split
    · exact gives_error _
    have word (word : List Char) {value : Json} (decoded : value.Decoded) (rest : List Char) :
        Gives ((scanWord word rest).map fun rest => (value, rest)) Json.Decoded := by
      cases scanWord word rest with
      | error stop => exact gives_error stop
      | ok rest => exact gives_ok decoded rest
    split
    · exact word _ .null _
    split
    · exact word _ (.boolean true) _
    split
    · exact word _ (.boolean false) _
    split
    · exact (gives_any _).map Json.string fun text _ => Decoded.string text
    split
    · exact (gives_scanNumber _).map Json.number fun _ => Decoded.number
    split
    · cases depth with
      | zero => exact gives_error _
      | succ inner =>
          exact (gives_readItems (nested inner rfl) _ _ _).map Json.array fun _ => Decoded.array
    split
    · cases depth with
      | zero => exact gives_error _
      | succ inner =>
          exact (gives_readMembers (nested inner rfl) _ _ _).map
            (fun members => Json.object (Members.ofPairs members)) fun _ decoded =>
              Decoded.object (decoded_ofPairs decoded)
    · exact gives_error _
  induction depth generalizing text with
  | zero => exact step 0 (fun inner same => absurd same (Nat.succ_ne_zero inner).symm) text
  | succ depth ih =>
      refine step (depth + 1) (fun inner same => ?_) text
      obtain rfl : depth = inner := Nat.succ.inj same
      exact ih

/-- All numbers of a decoded text are such numbers. -/
theorem decoded_ofText {text : String} {value : Json} (read : Json.ofText text = .ok value) :
    value.Decoded := by
  unfold Json.ofText readText at read
  cases found : readValue depthLimit text.toList with
  | error stop => simp [found, bind, Except.bind, Except.mapError] at read
  | ok known =>
      obtain ⟨known, rest⟩ := known
      have decoded := gives_readValue depthLimit text.toList known rest found
      simp only [found, bind, Except.bind] at read
      split at read
      · cases read
        exact decoded
      · cases read

end Json

end HostBridge
