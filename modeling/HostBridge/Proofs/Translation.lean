/-
This file shows what translation keeps of a decoded value.
-/
import HostBridge.Proofs.Closest
import HostBridge.Proofs.Numbers

namespace HostBridge

open Double

/-- The exact value of a number. -/
def Number.exact : Number → ℚ
  | .integer value => value
  | .float value => Double.exact value

section Numbers

/-- An integer has 64 bits with a sign exactly when it is one of these. -/
theorem Number.int64?_eq_some_iff {integer : Int} {value : Int64} :
    (Number.integer integer).int64? = some value ↔ integer = value.toInt := by
  have low := value.le_toInt
  have high := value.toInt_lt
  unfold Number.int64?
  simp only [Bool.and_eq_true, decide_eq_true_eq]
  split
  · next range =>
      rw [Option.some.injEq, ← Int64.toInt_inj, Int64.toInt_ofInt_of_le range.1 range.2]
  · next outside =>
      refine ⟨nofun, ?_⟩
      rintro rfl
      exact absurd ⟨low, high⟩ outside

theorem Translated.ofNumber_integer (value : Int64) :
    Translated.ofNumber (.integer value.toInt) = .integer value := by
  rw [Translated.ofNumber, Number.int64?_eq_some_iff.mpr rfl]

/-- A finite double is an integer if it is equal to one. -/
theorem Translated.ofNumber_float {x : Float} (finite : x.isFinite = true) :
    (∃ value : Int64, Double.exact x = value.toInt ∧ ofNumber (.float x) = .integer value) ∨
      (∀ value : Int64, Double.exact x ≠ value.toInt) ∧ ofNumber (.float x) = .float x := by
  unfold ofNumber
  simp only [Number.int64?, Number.toFloat]
  split
  · next value known =>
      obtain ⟨integer, found, narrowed⟩ := Option.bind_eq_some_iff.mp known
      rw [integerOfFloat?_eq_some_iff finite, Number.int64?_eq_some_iff.mp narrowed] at found
      exact .inl ⟨value, found, rfl⟩
  · next none =>
      refine .inr ⟨fun value whole => ?_, rfl⟩
      have found := (integerOfFloat?_eq_some_iff finite).mpr whole
      exact Option.eq_none_iff_forall_ne_some.mp none value
        (Option.bind_eq_some_iff.mpr ⟨_, found, Number.int64?_eq_some_iff.mpr rfl⟩)

/-- An integer in the range is translated as it is. -/
theorem Translated.ofNumber_int64 {k : ℤ} (low : -0x8000000000000000 ≤ k)
    (high : k < 0x8000000000000000) :
    ofNumber (.integer k) = .integer (Int64.ofInt k) := by
  have known := ofNumber_integer (Int64.ofInt k)
  rwa [Int64.toInt_ofInt_of_le low high] at known

/-- A double that is an integer is translated to it, if it is in the range. -/
theorem Translated.ofNumber_whole {x : Float} (finite : x.isFinite = true) {nearest : ℤ}
    (whole : Double.exact x = nearest) (low : -0x8000000000000000 ≤ nearest) :
    ofNumber (.float x) =
      if nearest < 0x8000000000000000 then .integer (Int64.ofInt nearest) else .float x := by
  obtain ⟨value, found, translated⟩ | ⟨other, translated⟩ := ofNumber_float finite
  · have same : nearest = value.toInt := by exact_mod_cast whole.symm.trans found
    have high : value.toInt < 0x8000000000000000 := value.toInt_lt
    rw [translated, same, if_pos high, Int64.ofInt_toInt]
  · rw [translated, if_neg]
    intro high
    refine other (Int64.ofInt nearest) ?_
    rw [whole, Int64.toInt_ofInt_of_le low high]

/-- Zero is translated to the integer, with any sign. -/
theorem Translated.ofNumber_zero (negative : Bool) :
    ofNumber (.float (Decimal.withSign negative Double.zero)) = .integer 0 := by
  have sized : Sized Double.zero 0 := .inr ⟨rfl, rfl⟩
  have whole : Double.exact (Decimal.withSign negative Double.zero) = (0 : ℤ) := by
    rw [exact_withSign sized]
    cases negative <;> simp
  exact ofNumber_whole (sized.withSign negative).1 whole (by decide)

variable {number : Number} (decoded : number.Decoded)

include decoded

/-- A decoded number becomes a double that is closest to it. -/
theorem Number.isClosest_toFloat : IsClosest number.toFloat number.exact := by
  cases number with
  | float value => exact isClosest_exact decoded
  | integer value =>
      obtain ⟨low, high⟩ := decoded
      exact isClosest_ofInt (Json.lt_limit_of_lt (by omega))

/-- Integers beyond 64 bits with a sign are above them, and rounding keeps them there. -/
theorem Number.exact_toFloat_ne (other : ∀ value : Int64, number.exact ≠ value.toInt)
    (value : Int64) : Double.exact number.toFloat ≠ value.toInt := by
  cases number with
  | float x => exact other value
  | integer integer =>
      have closest := Number.isClosest_toFloat decoded
      obtain ⟨low, -⟩ := decoded
      have edge : Double.exact (Float.ofInt 0x8000000000000000) = (0x8000000000000000 : ℤ) :=
        exact_ofInt (rfl : _ = 1 * 2 ^ 63) (by decide) (by decide)
      have above : 0x8000000000000000 ≤ integer := by
        by_contra below
        refine other (Int64.ofInt integer) ?_
        rw [Int64.toInt_ofInt_of_le low (not_le.mp below)]
        rfl
      have exceeds : Double.exact (Float.ofInt 0x8000000000000000) ≤ integer := by
        rw [edge]
        exact_mod_cast above
      intro same
      have kept := closest.le (by decide +kernel) exceeds
      rw [edge, same] at kept
      have bound : 0x8000000000000000 ≤ value.toInt := by exact_mod_cast kept
      exact absurd value.toInt_lt (not_lt.mpr bound)

/-- A number is translated by its exact value. One that is no integer of 64 bits with a sign is
translated as the closest double, which is none either. -/
theorem Number.translated :
    (∃ value : Int64, number.exact = value.toInt ∧ Translated.ofNumber number = .integer value) ∨
      (∀ value : Int64, number.exact ≠ value.toInt) ∧
        Translated.ofNumber number = .float number.toFloat ∧
        Translated.ofNumber (.float number.toFloat) = .float number.toFloat := by
  have finite := (Number.isClosest_toFloat decoded).finite
  by_cases whole : ∃ value : Int64, number.exact = value.toInt
  · obtain ⟨value, same⟩ := whole
    refine .inl ⟨value, same, ?_⟩
    cases number with
    | integer integer =>
        rw [Number.exact] at same
        rw [Int.cast_injective same, Translated.ofNumber_integer]
    | float x =>
        obtain ⟨known, found, translated⟩ | ⟨other, -⟩ := Translated.ofNumber_float finite
        · have equal : known.toInt = value.toInt := by exact_mod_cast found.symm.trans same
          rw [← Int64.toInt_inj.mp equal]
          exact translated
        · exact absurd same (other value)
  · have other := not_exists.mp whole
    have beyond := Number.exact_toFloat_ne decoded other
    obtain ⟨known, found, -⟩ | ⟨-, again⟩ := Translated.ofNumber_float finite
    · exact absurd found (beyond known)
    refine .inr ⟨other, ?_, again⟩
    cases number with
    | float x => exact again
    | integer integer =>
        have none : (Number.integer integer).int64? = none := by
          refine Option.eq_none_iff_forall_ne_some.mpr fun value known => other value ?_
          rw [Number.exact, Number.int64?_eq_some_iff.mp known]
        unfold Translated.ofNumber at again ⊢
        rw [none]
        exact again

end Numbers

section Items

/-- All items are of one form exactly when they are made from the values found in them. -/
theorem mapM_eq_some_iff {A : Type} {take : Json → Option A} {make : A → Json}
    (inverse : ∀ item value, take item = some value ↔ item = make value) {items : List Json}
    {values : List A} : items.mapM take = some values ↔ items = values.map make := by
  induction items generalizing values with
  | nil => cases values <;> simp
  | cons item items ih =>
      rw [List.mapM_cons]
      cases values with
      | nil => simp [Option.bind_eq_some_iff]
      | cons value values => simp [Option.bind_eq_some_iff, inverse, ih]

theorem Json.number?_eq_some_iff (item : Json) (value : Number) :
    item.number? = some value ↔ item = .number value := by
  cases item <;> simp [Json.number?]

theorem Json.boolean?_eq_some_iff (item : Json) (value : Bool) :
    item.boolean? = some value ↔ item = .boolean value := by
  cases item <;> simp [Json.boolean?]

theorem Json.string?_eq_some_iff (item : Json) (value : String) :
    item.string? = some value ↔ item = .string value := by
  cases item <;> simp [Json.string?]

/-- An array of numbers is translated to doubles. -/
theorem Translated.ofItems_numbers (numbers : List Number) :
    ofItems (numbers.map .number) = .numbers (numbers.map Number.toFloat) := by
  cases numbers with
  | nil => rfl
  | cons number numbers =>
      have typed := (mapM_eq_some_iff Json.number?_eq_some_iff).mpr
        (rfl : (number :: numbers).map Json.number = _)
      rw [List.map_cons] at typed ⊢
      simp only [ofItems, typed]
      rfl

/-- Items of one form are written as they were, and so are items of several. -/
theorem Translated.toJson_typed {A : Type} {take : Json → Option A} {make : A → Json}
    (inverse : ∀ item value, take item = some value ↔ item = make value)
    {typed : List A → Translated}
    (kept : ∀ values, (typed values).toJson = .array (values.map make))
    (items : List Json) :
    (((items.mapM take).map typed).getD (.array items)).toJson = .array items := by
  cases found : items.mapM take with
  | none => rfl
  | some values =>
      rw [Option.map_some, Option.getD_some, kept, ← (mapM_eq_some_iff inverse).mp found]

/-- Any other array is written as it was. -/
theorem Translated.toJson_ofItems {items : List Json}
    (other : ∀ numbers : List Number, items ≠ numbers.map .number) :
    (ofItems items).toJson = .array items := by
  unfold ofItems
  simp only
  split
  · exact absurd rfl (other [])
  · exact toJson_typed Json.boolean?_eq_some_iff (fun _ => rfl) _
  · next number items =>
      have none : (Json.number number :: items).mapM Json.number? = none :=
        Option.eq_none_iff_forall_ne_some.mpr fun numbers found =>
          other numbers ((mapM_eq_some_iff Json.number?_eq_some_iff).mp found)
      rw [none]
      rfl
  · exact toJson_typed Json.string?_eq_some_iff (fun _ => rfl) _
  · rfl

end Items

/-- Two values differ in how the numbers are written that stand alone or are all items of the
first value. -/
inductive Respelled : Json → Json → Prop where
  | integer {number : Number} {value : Int64} :
      number.exact = value.toInt → Respelled (.number number) (.number (.integer value.toInt))
  | float {number : Number} : (∀ value : Int64, number.exact ≠ value.toInt) →
      Respelled (.number number) (.number (.float number.toFloat))
  | floats (numbers : List Number) : Respelled (.array (numbers.map .number))
      (.array (numbers.map fun number => .number (.float number.toFloat)))
  | same {value : Json} : (∀ number, value ≠ .number number) →
      (∀ numbers : List Number, value ≠ .array (numbers.map .number)) → Respelled value value

theorem Json.ofFloat_finite {x : Float} (finite : x.isFinite = true) :
    Json.ofFloat x = .number (.float x) := by
  rw [Json.ofFloat, if_pos finite]

theorem Translated.toJson_ofItems_numbers {numbers : List Number}
    (decoded : ∀ number ∈ numbers, number.Decoded) :
    (ofItems (numbers.map .number)).toJson =
      .array (numbers.map fun number => .number (.float number.toFloat)) := by
  rw [ofItems_numbers, toJson, List.map_map]
  refine congrArg Json.array (List.map_congr_left fun number member => ?_)
  exact Json.ofFloat_finite (Number.isClosest_toFloat (decoded number member)).finite

/-- Items that are floats already are kept. -/
theorem Translated.ofItems_floats (numbers : List Number) :
    ofItems (numbers.map fun number => .number (.float number.toFloat)) =
      .numbers (numbers.map Number.toFloat) := by
  have again := ofItems_numbers (numbers.map fun number => .float number.toFloat)
  rwa [List.map_map, List.map_map] at again

/-- What has no numbers to be changed is written as it was. -/
theorem Translated.ofJson_other {value : Json} (noNumber : ∀ number, value ≠ .number number)
    (noNumbers : ∀ numbers : List Number, value ≠ .array (numbers.map .number)) :
    (ofJson value).toJson = value := by
  cases value with
  | number number => exact absurd rfl (noNumber number)
  | array items =>
      exact toJson_ofItems fun numbers same => noNumbers numbers (congrArg Json.array same)
  | _ => rfl

/-- A translated number is translated to itself, and respelled at most. -/
theorem stable_number {number : Number} (decoded : number.Decoded) :
    Translated.ofJson (Translated.ofNumber number).toJson = Translated.ofNumber number ∧
      Respelled (.number number) (Translated.ofNumber number).toJson := by
  obtain ⟨value, whole, translated⟩ | ⟨other, translated, again⟩ := Number.translated decoded
  · rw [translated]
    exact ⟨Translated.ofNumber_integer value, .integer whole⟩
  · have finite := (Number.isClosest_toFloat decoded).finite
    rw [translated, Translated.toJson, Json.ofFloat_finite finite]
    exact ⟨again, .float other⟩

/-- A translated array of numbers is translated to itself, and respelled at most. -/
theorem stable_numbers {numbers : List Number} (decoded : ∀ number ∈ numbers, number.Decoded) :
    Translated.ofJson (Translated.ofItems (numbers.map .number)).toJson =
        Translated.ofItems (numbers.map .number) ∧
      Respelled (.array (numbers.map .number))
        (Translated.ofItems (numbers.map .number)).toJson := by
  rw [Translated.toJson_ofItems_numbers decoded]
  exact ⟨(Translated.ofItems_floats numbers).trans (Translated.ofItems_numbers numbers).symm,
    .floats numbers⟩

theorem Json.Decoded.items {numbers : List Number}
    (decoded : (Json.array (numbers.map .number)).Decoded) :
    ∀ number ∈ numbers, number.Decoded := by
  intro number member
  cases decoded with
  | array items =>
      cases items _ (List.mem_map_of_mem member) with
      | number known => exact known

/-- A decoded value is translated to the same as what its translation is written as, and that is
the value itself but for how numbers are written: a number alone is an integer exactly if its value
is one of 64 bits with a sign, and the closest double otherwise, as are the items of an array of
numbers. -/
theorem translation_stable {value : Json} (decoded : value.Decoded) :
    Translated.ofJson (Translated.ofJson value).toJson = Translated.ofJson value ∧
      Respelled value (Translated.ofJson value).toJson ∧
      (∀ number, value = .number number →
        (∀ integer : Int64, Translated.ofJson value = .integer integer ↔
          number.exact = integer.toInt) ∧
        ((∀ integer : Int64, number.exact ≠ integer.toInt) →
          Translated.ofJson value = .float number.toFloat ∧
            IsClosest number.toFloat number.exact)) ∧
      ∀ numbers : List Number, value = .array (numbers.map .number) →
        Translated.ofJson value = .numbers (numbers.map Number.toFloat) ∧
          ∀ number ∈ numbers, IsClosest number.toFloat number.exact := by
  have stable : Translated.ofJson (Translated.ofJson value).toJson = Translated.ofJson value ∧
      Respelled value (Translated.ofJson value).toJson := by
    by_cases alone : ∃ number, value = .number number
    · obtain ⟨number, rfl⟩ := alone
      cases decoded with
      | number known => exact stable_number known
    by_cases all : ∃ numbers : List Number, value = .array (numbers.map .number)
    · obtain ⟨numbers, rfl⟩ := all
      exact stable_numbers decoded.items
    · have kept := Translated.ofJson_other (not_exists.mp alone) (not_exists.mp all)
      rw [kept]
      exact ⟨rfl, .same (not_exists.mp alone) (not_exists.mp all)⟩
  refine ⟨stable.1, stable.2, ?_, ?_⟩
  · rintro number rfl
    cases decoded with
    | number known =>
        obtain ⟨value, whole, translated⟩ | ⟨other, translated, -⟩ := Number.translated known
        · have translated : Translated.ofJson (.number number) = .integer value := translated
          refine ⟨fun integer => ?_, fun other => absurd whole (other value)⟩
          rw [translated, whole, Translated.integer.injEq, Int.cast_inj, Int64.toInt_inj]
        · have translated : Translated.ofJson (.number number) = .float number.toFloat := translated
          refine ⟨fun integer => ?_, fun _ => ⟨translated, Number.isClosest_toFloat known⟩⟩
          rw [translated]
          exact ⟨nofun, fun whole => absurd whole (other integer)⟩
  · rintro numbers rfl
    exact ⟨Translated.ofItems_numbers numbers,
      fun number member => Number.isClosest_toFloat (decoded.items number member)⟩

/-- The least integer of 64 bits with a sign is one even if it is written as a double, and the
greatest one without a sign is the double above it, also among the items of an array. -/
theorem translation_stable_edges :
    let least : Number := .float (Float.ofBits 0xC3E0000000000000)
    let greatest : Number := .integer 0xFFFFFFFFFFFFFFFF
    (Json.number least).Decoded ∧
      Translated.ofJson (.number least) = .integer (-0x8000000000000000) ∧
      Translated.ofJson (Translated.ofJson (.number least)).toJson =
        .integer (-0x8000000000000000) ∧
      (Json.array [.number greatest, .number least]).Decoded ∧
      Translated.ofJson (.array [.number greatest, .number least]) =
        .numbers [Float.ofBits 0x43F0000000000000, Float.ofBits 0xC3E0000000000000] ∧
      IsClosest (Float.ofBits 0x43F0000000000000) greatest.exact := by
  intro least greatest
  have decodedLeast : least.Decoded := by
    change (Float.ofBits 0xC3E0000000000000).isFinite = true
    decide +kernel
  have decodedGreatest : greatest.Decoded := by
    change _ ∧ _
    decide
  have decoded : (Json.array [.number greatest, .number least]).Decoded :=
    .array (List.forall_mem_cons.mpr ⟨.number decodedGreatest,
      List.forall_mem_cons.mpr ⟨.number decodedLeast, List.forall_mem_nil _⟩⟩)
  have whole : least.exact = (-0x8000000000000000 : Int64).toInt :=
    (integerOfFloat?_eq_some_iff decodedLeast).mp (by decide +kernel)
  have rounded : greatest.toFloat = Float.ofBits 0x43F0000000000000 := by decide +kernel
  obtain ⟨again, -, alone, -⟩ := translation_stable (.number decodedLeast)
  obtain ⟨-, -, -, items⟩ := translation_stable decoded
  have translated := ((alone least rfl).1 _).mpr whole
  obtain ⟨typed, closest⟩ := items [greatest, least] rfl
  have first := closest greatest (List.mem_cons_self ..)
  rw [rounded] at first
  rw [List.map_cons, rounded] at typed
  exact ⟨.number decodedLeast, translated, again.trans translated, decoded, typed, first⟩

end HostBridge
