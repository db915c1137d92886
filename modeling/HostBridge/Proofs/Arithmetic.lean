/-
This file shows that the sums, differences and products of integers are exact or floats.
-/
import HostBridge.Proofs.Builtin
import HostBridge.Proofs.Translation

namespace HostBridge

namespace Double

open Float.Model Float.Model.UnpackedFloat

theorem sign_mul_comm (left right : Sign) : left * right = right * left := by
  cases left <;> cases right <;> rfl

/-- Infinities and zeros are added by their signs, and other numbers by their parts in the units of
the finer one. -/
theorem unpacked_add_comm (format : Format) (left right : UnpackedFloat) :
    UnpackedFloat.add format left right = UnpackedFloat.add format right left := by
  cases left <;> cases right <;> simp only [UnpackedFloat.add]
  case infinity.infinity left right | zero.zero left right => cases left <;> cases right <;> rfl
  case finite.finite => simp only [min_comm, add_comm]

/-- The product of two unpacked doubles does not depend on their order. -/
theorem unpacked_mul_comm (format : Format) (left right : UnpackedFloat) :
    UnpackedFloat.mul format left right = UnpackedFloat.mul format right left := by
  cases left <;> cases right <;> simp only [UnpackedFloat.mul, sign_mul_comm]
  case finite.finite => rw [Nat.mul_comm, Int.add_comm, sign_mul_comm]

/-- The sum of two doubles does not depend on their order. -/
theorem plus_comm (left right : Float) : left + right = right + left :=
  congrArg (fun value => Float.ofModel (.pack value)) (unpacked_add_comm _ _ _)

/-- The product of two doubles does not depend on their order. -/
theorem times_comm (left right : Float) : left * right = right * left :=
  congrArg (fun value => Float.ofModel (.pack value)) (unpacked_mul_comm _ _ _)

/-- An integer of 64 bits becomes a double that is closest to it. -/
theorem isClosest_ofInt64 (number : Int64) : IsClosest (Float.ofInt number.toInt) number.toInt := by
  have low := number.le_toInt
  have high := number.toInt_lt
  exact isClosest_ofInt (Json.lt_limit_of_lt (by omega))

end Double

/-- The integers of 64 bits with a sign. -/
def Fits (value : Int) : Prop := -0x8000000000000000 ≤ value ∧ value < 0x8000000000000000

instance (value : Int) : Decidable (Fits value) := inferInstanceAs (Decidable (_ ∧ _))

/-- What is accepted as a number can be read as a double. -/
theorem HostType.Takes.exists_float {value : HostValue} (takes : HostType.number.Takes value) :
    ∃ x, value.float? = some x := by
  have accepted := (HostType.accepts_iff_takes _ _).mpr takes
  cases value with
  | integer number => exact ⟨Float.ofInt number.toInt, rfl⟩
  | float number => exact ⟨number, rfl⟩
  | _ => simp [HostType.accepts, HostValue.hostType] at accepted

namespace Builtin

/-- An integer is kept exactly when it has 64 bits. -/
theorem fitting?_eq_some_iff {value : Int} {number : Int64} :
    fitting? value = some number ↔ value = number.toInt := Number.int64?_eq_some_iff

theorem fitting?_eq_none_iff {value : Int} : fitting? value = none ↔ ¬ Fits value := by
  simp only [fitting?, Number.int64?, Fits, Bool.and_eq_true, decide_eq_true_eq]
  split <;> simp_all

theorem exists_fitting {value : Int} (fits : Fits value) :
    ∃ number, fitting? value = some number :=
  Option.ne_none_iff_exists'.mp (mt fitting?_eq_none_iff.mp (not_not.mpr fits))

/-- A method that calculates with integers as long as the result fits. -/
structure Operation where
  name : String
  whole : Int → Int → Int
  real : Float → Float → Float

def operations : List Operation := [
  ⟨"add", (· + ·), (· + ·)⟩,
  ⟨"sub", (· - ·), (· - ·)⟩,
  ⟨"mul", (· * ·), (· * ·)⟩]

/-- The operations are the sum, the difference and the product. -/
theorem mem_operations_iff {operation : Operation} : operation ∈ operations ↔
    operation = ⟨"add", (· + ·), (· + ·)⟩ ∨ operation = ⟨"sub", (· - ·), (· - ·)⟩ ∨
      operation = ⟨"mul", (· * ·), (· * ·)⟩ := by
  simp only [operations, List.mem_cons, List.not_mem_nil, or_false]

def Operation.method (operation : Operation) : Method :=
  Builtin.method operation.name [.number, .number] (arithmetic operation.whole operation.real)

/-- The arguments may be exchanged. -/
structure Operation.Commutes (operation : Operation) : Prop where
  whole : ∀ a b, operation.whole a b = operation.whole b a
  real : ∀ x y, operation.real x y = operation.real y x

/-- All of the operations are methods of the builtin object. -/
theorem declared_operation {operation : Operation} (known : operation ∈ operations) :
    operation.method ∈ math.methodList := by
  rcases mem_operations_iff.mp known with rfl | rfl | rfl
  · exact List.mem_of_getElem? (i := 0) rfl
  · exact List.mem_of_getElem? (i := 1) rfl
  · exact List.mem_of_getElem? (i := 2) rfl

/-- The operations but the difference commute on integers and on doubles. -/
theorem commutes_operation {operation : Operation} (known : operation ∈ operations)
    (other : operation.name ≠ "sub") : operation.Commutes := by
  rcases mem_operations_iff.mp known with rfl | rfl | rfl
  · exact ⟨Int.add_comm, Double.plus_comm⟩
  · exact absurd rfl other
  · exact ⟨Int.mul_comm, Double.times_comm⟩

section Results

variable (whole : Int → Int → Int) (real : Float → Float → Float)

theorem arithmetic_integers (a b : Int64) : arithmetic whole real [.integer a, .integer b] =
    match fitting? (whole a.toInt b.toInt) with
    | some value => .returned (.integer value)
    | none => .returned (.float (real (Float.ofInt a.toInt) (Float.ofInt b.toInt))) := rfl

/-- A result that fits is an integer. -/
theorem arithmetic_fits {a b : Int64} (fits : Fits (whole a.toInt b.toInt)) :
    ∃ value : Int64, value.toInt = whole a.toInt b.toInt ∧
      arithmetic whole real [.integer a, .integer b] = .returned (.integer value) := by
  obtain ⟨value, found⟩ := exists_fitting fits
  exact ⟨value, (fitting?_eq_some_iff.mp found).symm, by rw [arithmetic_integers, found]⟩

/-- A result that does not fit is computed once more with doubles. -/
theorem arithmetic_exceeds {a b : Int64} (large : ¬ Fits (whole a.toInt b.toInt)) :
    arithmetic whole real [.integer a, .integer b] =
      .returned (.float (real (Float.ofInt a.toInt) (Float.ofInt b.toInt))) := by
  rw [arithmetic_integers, fitting?_eq_none_iff.mpr large]

/-- One float makes the result a float. -/
theorem arithmetic_floats {left right : HostValue} {x y : Float} (first : left.float? = some x)
    (second : right.float? = some y) (mixed : left.integer? = none ∨ right.integer? = none) :
    arithmetic whole real [left, right] = .returned (.float (real x y)) := by
  have none : (do
      let left ← left.integer?
      let right ← right.integer?
      fitting? (whole left.toInt right.toInt)) = none := by
    rcases mixed with absent | absent
    · rw [absent]
      rfl
    · cases left.integer? <;> simp [absent]
  simp only [arithmetic, withArgument, List.getElem?_cons_zero, List.getElem?_cons_succ, none,
    first, second]

/-- Two numbers make a number. -/
theorem arithmetic_returns {left right : HostValue} {x y : Float} (first : left.float? = some x)
    (second : right.float? = some y) :
    ∃ value, arithmetic whole real [left, right] = .returned value := by
  simp only [arithmetic, withArgument, List.getElem?_cons_zero, List.getElem?_cons_succ]
  split
  · exact ⟨_, rfl⟩
  · rw [first, second]
    exact ⟨_, rfl⟩

/-- The test whether an integer fits stands under another name, or the powers in it are computed. -/
theorem absolute_integer {fit : Int → Option Int64} (same : fitting? = fit) (a : Int64) :
    absolute [.integer a] =
      ((fit (Int.ofNat a.toInt.natAbs)).map fun size => .returned (.integer size)).getD
        (failed "integer overflow") := by
  rw [absolute, same, withArgument, List.getElem?_cons_zero]
  simp only
  cases fit (Int.ofNat a.toInt.natAbs) <;> rfl

theorem absolute_fits {a size : Int64} (found : fitting? (Int.ofNat a.toInt.natAbs) = some size) :
    absolute [.integer a] = .returned (.integer size) := by
  obtain ⟨fit, same⟩ : ∃ fit, fitting? = fit := ⟨_, rfl⟩
  rw [same] at found
  rw [absolute_integer same, found, Option.map_some, Option.getD_some]

/-- The size of the least integer does not fit, and the method fails. -/
theorem absolute_exceeds {a : Int64} (large : fitting? (Int.ofNat a.toInt.natAbs) = none) :
    absolute [.integer a] = failed "integer overflow" := by
  obtain ⟨fit, same⟩ : ∃ fit, fitting? = fit := ⟨_, rfl⟩
  rw [same] at large
  rw [absolute_integer same, large, Option.map_none, Option.getD_none]

/-- Only the least integer has an absolute value that does not fit. -/
theorem fits_natAbs_iff (a : Int64) : Fits (Int.ofNat a.toInt.natAbs) ↔ a ≠ Int64.minValue := by
  have low := a.le_toInt
  have high := a.toInt_lt
  have least : (Int64.minValue).toInt = -0x8000000000000000 := rfl
  rw [Fits, Int.ofNat_eq_natCast, ne_eq, ← Int64.toInt_inj, least]
  omega

end Results

section Calls

variable {host : Host} {name : String} {handle : Handle}
  (bound : Table.lookup? host.registry name = some handle) (stock : handle.object = math)

include bound stock

/-- A call of an operation on numbers ends as its function does. -/
theorem dispatch_operation {operation : Operation} (known : operation ∈ operations)
    {left right : HostValue} (first : HostType.number.Takes left)
    (second : HostType.number.Takes right) :
    (host.dispatch name operation.name [left, right]).2 =
      (arithmetic operation.whole operation.real [left, right]).result name operation.name :=
  dispatch_declared bound (.inl stock) (stock ▸ declared_operation known)
    (.cons first (.cons second .nil))

theorem dispatch_integers {operation : Operation} (known : operation ∈ operations) (a b : Int64) :
    (host.dispatch name operation.name [.integer a, .integer b]).2 =
      (arithmetic operation.whole operation.real [.integer a, .integer b]).result name
        operation.name :=
  dispatch_operation bound stock known (.integer a) (.integer b)

/-- A call on integers returns their exact result if it fits. -/
theorem dispatch_fits {operation : Operation} (known : operation ∈ operations) {a b : Int64}
    (fits : Fits (operation.whole a.toInt b.toInt)) :
    ∃ value : Int64, value.toInt = operation.whole a.toInt b.toInt ∧
      (host.dispatch name operation.name [.integer a, .integer b]).2 = .ok (.integer value) := by
  obtain ⟨value, same, made⟩ := arithmetic_fits operation.whole operation.real fits
  refine ⟨value, same, (dispatch_integers bound stock known a b).trans ?_⟩
  rw [made]
  rfl

/-- A call on integers returns the result of their doubles if the exact one does not fit. -/
theorem dispatch_exceeds {operation : Operation} (known : operation ∈ operations) {a b : Int64}
    (large : ¬ Fits (operation.whole a.toInt b.toInt)) :
    (host.dispatch name operation.name [.integer a, .integer b]).2 =
      .ok (.float (operation.real (Float.ofInt a.toInt) (Float.ofInt b.toInt))) := by
  refine (dispatch_integers bound stock known a b).trans ?_
  rw [arithmetic_exceeds operation.whole operation.real large]
  rfl

/-- Calls of operations that commute return the same for exchanged integers. -/
theorem dispatch_exchanged {operation : Operation} (known : operation ∈ operations)
    (commutes : operation.Commutes) (a b : Int64) :
    (host.dispatch name operation.name [.integer a, .integer b]).2 =
      (host.dispatch name operation.name [.integer b, .integer a]).2 := by
  rw [dispatch_integers bound stock known, dispatch_integers bound stock known,
    arithmetic_integers, arithmetic_integers, commutes.whole, commutes.real]

theorem dispatch_absolute (a : Int64) :
    (host.dispatch name "abs" [.integer a]).2 = (absolute [.integer a]).result name "abs" := by
  have declared : Builtin.method "abs" [.number] absolute ∈ math.methodList :=
    List.mem_of_getElem? (i := 4) rfl
  exact dispatch_declared bound (.inl stock) (stock ▸ declared) (.cons (.integer a) .nil)

/-- The size of an integer is exact for all integers but the least one. -/
theorem dispatch_magnitude {a : Int64} (other : a ≠ Int64.minValue) :
    ∃ size : Int64, size.toInt = |a.toInt| ∧
      (host.dispatch name "abs" [.integer a]).2 = .ok (.integer size) := by
  obtain ⟨size, found⟩ := exists_fitting ((fits_natAbs_iff a).mpr other)
  refine ⟨size, ?_, (dispatch_absolute bound stock a).trans ?_⟩
  · rw [← fitting?_eq_some_iff.mp found, Int.ofNat_eq_natCast, Int.natCast_natAbs]
  · rw [absolute_fits found]
    rfl

/-- The size of the least integer is a failure of the call. -/
theorem dispatch_magnitude_exceeds {a : Int64} (least : a = Int64.minValue) :
    (host.dispatch name "abs" [.integer a]).2 =
      .error (.dispatchFailure name "abs" (.plain "integer overflow")) := by
  have large := mt (fits_natAbs_iff a).mp (not_not.mpr least)
  refine (dispatch_absolute bound stock a).trans ?_
  rw [absolute_exceeds (fitting?_eq_none_iff.mpr large)]
  rfl

end Calls

end Builtin

/-- Wherever `math` is bound, a sum, difference or product of two integers is the exact integer if
that fits in 64 bits, and otherwise the float of the operation on the closest doubles. The arguments
of sums and products may be exchanged, one float makes the result a float, and no two numbers make a
call fail. The absolute value of an integer is exact, and the one that does not fit is a failure. -/
theorem integer_results_exact {host : Host} {name : String} {handle : Handle}
    (bound : Table.lookup? host.registry name = some handle)
    (stock : handle.object = Builtin.math) :
    let answer := fun method arguments => (host.dispatch name method arguments).2
    (∀ operation ∈ Builtin.operations, ∀ a b : Int64,
      ((∃ value, answer operation.name [.integer a, .integer b] = .ok (.integer value)) ↔
        Fits (operation.whole a.toInt b.toInt)) ∧
      (∀ value, answer operation.name [.integer a, .integer b] = .ok (.integer value) →
        value.toInt = operation.whole a.toInt b.toInt) ∧
      (¬ Fits (operation.whole a.toInt b.toInt) → ∃ x y,
        Double.IsClosest x a.toInt ∧ Double.IsClosest y b.toInt ∧
          x = Float.ofInt a.toInt ∧ y = Float.ofInt b.toInt ∧
          answer operation.name [.integer a, .integer b] = .ok (.float (operation.real x y))) ∧
      (operation.name ≠ "sub" → answer operation.name [.integer a, .integer b] =
        answer operation.name [.integer b, .integer a])) ∧
    (∀ operation ∈ Builtin.operations, ∀ left right,
      HostType.number.Takes left → HostType.number.Takes right →
        (left.integer? = none ∨ right.integer? = none →
          ∃ x, answer operation.name [left, right] = .ok (.float x)) ∧
        ∃ value, answer operation.name [left, right] = .ok value) ∧
    ∀ a : Int64,
      (a ≠ Int64.minValue → ∃ size : Int64, size.toInt = |a.toInt| ∧
        answer "abs" [.integer a] = .ok (.integer size)) ∧
      (a = Int64.minValue → answer "abs" [.integer a] =
        .error (.dispatchFailure name "abs" (.plain "integer overflow"))) := by
  intro answer
  refine ⟨fun operation known a b => ?_, fun operation known left right one two => ?_,
    fun a => ⟨Builtin.dispatch_magnitude bound stock,
      Builtin.dispatch_magnitude_exceeds bound stock⟩⟩
  · have exact := Builtin.dispatch_fits (a := a) (b := b) bound stock known
    have rounded := Builtin.dispatch_exceeds (a := a) (b := b) bound stock known
    refine ⟨⟨fun ⟨value, returned⟩ => ?_, fun fits => ?_⟩, fun value returned => ?_, fun large => ?_,
      fun other => Builtin.dispatch_exchanged bound stock known
        (Builtin.commutes_operation known other) a b⟩
    · by_contra large
      cases returned.symm.trans (rounded large)
    · obtain ⟨value, -, returned⟩ := exact fits
      exact ⟨value, returned⟩
    · by_cases fits : Fits (operation.whole a.toInt b.toInt)
      · obtain ⟨_, same, made⟩ := exact fits
        cases returned.symm.trans made
        exact same
      · cases returned.symm.trans (rounded fits)
    · exact ⟨_, _, Double.isClosest_ofInt64 a, Double.isClosest_ofInt64 b, rfl, rfl, rounded large⟩
  · have reached := Builtin.dispatch_operation bound stock known one two
    obtain ⟨x, first⟩ := one.exists_float
    obtain ⟨y, second⟩ := two.exists_float
    constructor
    · intro mixed
      rw [Builtin.arithmetic_floats operation.whole operation.real first second mixed] at reached
      exact ⟨_, reached⟩
    · obtain ⟨value, made⟩ :=
        Builtin.arithmetic_returns operation.whole operation.real first second
      rw [made] at reached
      exact ⟨value, reached⟩

/-- Two products next to 2^63, of which one fits, and the absolute value of the least integer. -/
theorem integer_results_exact_edges :
    let host := Host.empty.bind "math" ⟨0, Builtin.math⟩
    let answer := fun method arguments => (host.dispatch "math" method arguments).2
    Table.lookup? host.registry "math" = some ⟨0, Builtin.math⟩ ∧
      (∃ value : Int64, value.toInt = -0x8000000000000000 ∧
        answer "mul" [.integer 0x100000000, .integer (-0x80000000)] = .ok (.integer value)) ∧
      (∃ x y, Double.IsClosest x 0x100000000 ∧ Double.IsClosest y 0x80000000 ∧
        answer "mul" [.integer 0x100000000, .integer 0x80000000] = .ok (.float (x * y))) ∧
      answer "abs" [.integer Int64.minValue] =
        .error (.dispatchFailure "math" "abs" (.plain "integer overflow")) := by
  intro host answer
  have bound : Table.lookup? host.registry "math" = some ⟨0, Builtin.math⟩ := rfl
  obtain ⟨integers, -, absolute⟩ := integer_results_exact bound rfl
  have product : (⟨"mul", (· * ·), (· * ·)⟩ : Builtin.Operation) ∈ Builtin.operations :=
    List.mem_of_getElem? (i := 2) rfl
  obtain ⟨returned, same, -⟩ := integers _ product 0x100000000 (-0x80000000)
  obtain ⟨-, -, rounded, -⟩ := integers _ product 0x100000000 0x80000000
  refine ⟨bound, ?_, ?_, (absolute _).2 rfl⟩
  · obtain ⟨value, made⟩ := returned.mpr (by decide)
    exact ⟨value, (same value made).trans (by decide), made⟩
  · obtain ⟨x, y, first, second, -, -, made⟩ := rounded (by decide)
    exact ⟨x, y, first, second, made⟩

end HostBridge
