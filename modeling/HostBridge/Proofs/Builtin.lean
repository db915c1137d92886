/-
This file shows how the methods of the builtin objects end.
-/
import HostBridge.Builtin.Text
import HostBridge.Proofs.Dispatch

namespace HostBridge

/-- A method ends with a value or a failure and does not panic. -/
inductive Outcome.Ordinary : Outcome → Prop where
  | returned (value : HostValue) : Ordinary (.returned value)
  | failed (failure : Failure) : Ordinary (.failed failure)

/-- Only a string is accepted as a string. -/
theorem HostType.Takes.exists_string {value : HostValue} (takes : HostType.string.Takes value) :
    ∃ text, value = .string text := by
  have accepted := (HostType.accepts_iff_takes _ _).mpr takes
  cases value with
  | string text => exact ⟨text, rfl⟩
  | _ => simp [HostType.accepts, HostValue.hostType] at accepted

/-- Only an integer is accepted as an integer. -/
theorem HostType.Takes.exists_integer {value : HostValue} (takes : HostType.integer.Takes value) :
    ∃ number, value = .integer number := by
  have accepted := (HostType.accepts_iff_takes _ _).mpr takes
  cases value with
  | integer number => exact ⟨number, rfl⟩
  | _ => simp [HostType.accepts, HostValue.hostType] at accepted

/-- A handler that only looks at its arguments ends alike wherever it is called. -/
theorem Host.invoke_pure (host : Host) {method : Method} {function : List HostValue → Outcome}
    (pure : method.handler = Handler.pure function) (arguments : List HostValue) :
    (host.invoke method arguments).2 = function arguments := by
  rw [invoke, pure]
  rfl

/-- A method without effects ends as its function does on the arguments. -/
theorem Host.dispatchWithin_pure (depth : Nat) {host : Host} {object : String} {handle : Handle}
    (bound : Table.lookup? host.registry object = some handle) {method : Method}
    {arguments : List HostValue}
    (selected : handle.object.select? method.name (arguments.map HostValue.hostType) = some method)
    {function : List HostValue → Outcome} (pure : method.handler = Handler.pure function) :
    (Host.dispatchWithin (depth + 1) host object method.name arguments).2 =
      (function arguments).result object method.name := by
  rw [dispatchWithin_selected depth bound selected, pure]
  rfl

namespace Builtin

section Handlers

variable {arguments : List HostValue}

/-- An argument that is there does not make a method panic. -/
theorem ordinary_withArgument {index : Nat} (inside : index < arguments.length)
    {next : HostValue → Outcome} (ordinary : ∀ value, (next value).Ordinary) :
    (withArgument arguments index next).Ordinary := by
  rw [withArgument, List.getElem?_eq_getElem inside]
  exact ordinary _

/-- Looking for a text does not make a method panic. -/
theorem ordinary_withText {index : Nat} {next : List Char → Outcome}
    (ordinary : ∀ text, (next text).Ordinary) : (withText arguments index next).Ordinary := by
  unfold withText
  split
  · exact ordinary _
  · exact .failed _

/-- The operations on two numbers do not panic. -/
theorem ordinary_arithmetic (whole : Int → Int → Int) (real : Float → Float → Float)
    (enough : arguments.length = 2) : (arithmetic whole real arguments).Ordinary := by
  refine ordinary_withArgument (by omega) fun left => ?_
  refine ordinary_withArgument (by omega) fun right => ?_
  simp only
  split
  · exact .returned _
  · split
    · exact .returned _
    · exact .failed _

theorem ordinary_divide (enough : arguments.length = 2) : (divide arguments).Ordinary := by
  refine ordinary_withArgument (by omega) fun right => ?_
  split
  · exact .failed _
  · exact ordinary_withArgument (by omega) fun left => .returned _

/-- What becomes of integers is left open, since the test whether one fits must not be unfolded. -/
theorem ordinary_absolute_of {whole : Int64 → Outcome} (ordinary : ∀ value, (whole value).Ordinary)
    (value : HostValue) :
    Outcome.Ordinary (match value with
      | .integer value => whole value
      | other => .returned (.float (number other).abs)) := by
  split
  · exact ordinary _
  · exact .returned _

theorem ordinary_absolute (enough : arguments.length = 1) : (absolute arguments).Ordinary := by
  refine ordinary_withArgument (by omega) (ordinary_absolute_of fun value => ?_)
  cases fitting? (Int.ofNat value.toInt.natAbs) with
  | none => exact .failed _
  | some size => exact .returned _

theorem ordinary_power (enough : arguments.length = 2) : (power arguments).Ordinary :=
  ordinary_withArgument (by omega) fun _ => ordinary_withArgument (by omega) fun _ => .returned _

theorem ordinary_squareRoot (enough : arguments.length = 1) : (squareRoot arguments).Ordinary := by
  refine ordinary_withArgument (by omega) fun value => ?_
  split
  · exact .failed _
  · exact .returned _

theorem ordinary_extreme (choose : Float → Float → Float) (enough : arguments.length = 1) :
    (extreme choose arguments).Ordinary := by
  refine ordinary_withArgument (by omega) fun value => ?_
  split
  · exact .failed _
  · exact .returned _
  · exact .returned _

theorem ordinary_mapText (function : List Char → List Char) :
    (mapText function arguments).Ordinary :=
  ordinary_withText fun _ => .returned _

theorem ordinary_length : (length arguments).Ordinary := ordinary_withText fun _ => .returned _

theorem ordinary_pieces : (pieces arguments).Ordinary :=
  ordinary_withText fun _ => ordinary_withText fun _ => .returned _

end Handlers

section Repeating

variable {text : String} {count : Int64}

/-- Repeating a text looks at the sign of the count first, then at the text and then at the size. -/
theorem repeated_eq : repeated [.string text, .integer count] =
    if count.toInt < 0 then failed "repeat count must not be negative"
    else if text.toList.isEmpty then textResult []
    else if sizeLimit ≤ HostBridge.Text.byteLength text.toList * count.toInt.toNat then
      .panicked (some "capacity overflow")
    else textResult (List.replicate count.toInt.toNat text.toList).flatten := rfl

/-- The size is compared as an integer without a bound. -/
theorem sizeLimit_le_iff (natural : 0 ≤ count.toInt) (size : ℕ) :
    sizeLimit ≤ size * count.toInt.toNat ↔ 0x8000000000000000 ≤ (size : Int) * count.toInt := by
  obtain ⟨number, same⟩ := Int.eq_ofNat_of_zero_le natural
  have limit : (0x8000000000000000 : Int) = (sizeLimit : Int) := rfl
  rw [same, Int.toNat_natCast, limit]
  exact_mod_cast Iff.rfl

/-- Repeating panics when the result has 2^63 bytes or more. -/
theorem repeated_oversized
    (size : 0x8000000000000000 ≤ (HostBridge.Text.byteLength text.toList : Int) * count.toInt) :
    repeated [.string text, .integer count] = .panicked (some "capacity overflow") := by
  have natural : 0 ≤ count.toInt := by
    by_contra negative
    have below := Int.mul_le_mul_of_nonneg_left (not_le.mp negative).le
      (Int.natCast_nonneg (HostBridge.Text.byteLength text.toList))
    omega
  have filled : text.toList.isEmpty = false := by
    rw [Bool.eq_false_iff]
    intro empty
    rw [List.isEmpty_iff.mp empty] at size
    exact absurd size (by simp [HostBridge.Text.byteLength])
  rw [repeated_eq, if_neg (not_lt.mpr natural), filled, if_neg Bool.false_ne_true,
    if_pos ((sizeLimit_le_iff natural _).mpr size)]

/-- Repeating does not panic below that size. -/
theorem ordinary_repeated
    (size : (HostBridge.Text.byteLength text.toList : Int) * count.toInt < 0x8000000000000000) :
    (repeated [.string text, .integer count]).Ordinary := by
  rw [repeated_eq]
  split
  · exact .failed _
  · next natural =>
      split
      · exact .returned _
      · rw [if_neg (mt (sizeLimit_le_iff (not_lt.mp natural) _).mp (not_le.mpr size))]
        exact .returned _

end Repeating

/-- The method asks for a text of 2^63 bytes or more. -/
def Oversized (method : Method) (arguments : List HostValue) : Prop :=
  method.name = "repeat" ∧ ∃ text count, arguments = [.string text, .integer count] ∧
    0x8000000000000000 ≤ (HostBridge.Text.byteLength text.toList : Int) * count.toInt

/-- The handler only looks at its arguments, and it panics on those that are oversized, with the
text of the standard library. -/
structure Runs (method : Method) (arguments : List HostValue)
    (function : List HostValue → Outcome) : Prop where
  pure : method.handler = Handler.pure function
  ordinary : ¬ Oversized method arguments → (function arguments).Ordinary
  oversized : Oversized method arguments →
    function arguments = .panicked (some "capacity overflow")

/-- A method other than the repetition runs a function that does not panic. -/
theorem Runs.of_ordinary {name : String} {params : List HostType}
    {function : List HostValue → Outcome} {arguments : List HostValue} (other : name ≠ "repeat")
    (ordinary : (function arguments).Ordinary) :
    Runs (method name params function) arguments function :=
  ⟨rfl, fun _ => ordinary, fun oversized => absurd oversized.1 other⟩

/-- Every method of the object for numbers only looks at its arguments. -/
theorem runs_math {method : Method} (declared : method ∈ math.methodList)
    {arguments : List HostValue} (takes : List.Forall₂ HostType.Takes method.params arguments) :
    ∃ function, Runs method arguments function := by
  have member := ((HostObject.mem_methodList_iff _ _ _).mp declared).mem
  simp only [List.mem_cons, List.not_mem_nil, or_false] at member
  have size := takes.length_eq.symm
  rcases member with rfl | rfl | rfl | rfl | rfl | rfl | rfl | rfl | rfl
  · exact ⟨_, .of_ordinary (by decide) (ordinary_arithmetic _ _ size)⟩
  · exact ⟨_, .of_ordinary (by decide) (ordinary_arithmetic _ _ size)⟩
  · exact ⟨_, .of_ordinary (by decide) (ordinary_arithmetic _ _ size)⟩
  · exact ⟨_, .of_ordinary (by decide) (ordinary_divide size)⟩
  · exact ⟨_, .of_ordinary (by decide) (ordinary_absolute size)⟩
  · exact ⟨_, .of_ordinary (by decide) (ordinary_power size)⟩
  · exact ⟨_, .of_ordinary (by decide) (ordinary_squareRoot size)⟩
  · exact ⟨_, .of_ordinary (by decide) (ordinary_extreme _ size)⟩
  · exact ⟨_, .of_ordinary (by decide) (ordinary_extreme _ size)⟩

/-- The repetition only looks at its arguments, and it panics on those that are oversized. -/
theorem runs_repeat {arguments : List HostValue}
    (takes : List.Forall₂ HostType.Takes [.string, .integer] arguments) :
    Runs (method "repeat" [.string, .integer] repeated) arguments repeated := by
  obtain ⟨first, _, takesText, takesRest, rfl⟩ := List.forall₂_cons_left_iff.mp takes
  obtain ⟨second, _, takesCount, takesNone, rfl⟩ := List.forall₂_cons_left_iff.mp takesRest
  obtain rfl := List.forall₂_nil_left_iff.mp takesNone
  obtain ⟨text, rfl⟩ := takesText.exists_string
  obtain ⟨count, rfl⟩ := takesCount.exists_integer
  refine ⟨rfl, fun fits => ordinary_repeated ?_, ?_⟩
  · by_contra size
    exact fits ⟨rfl, text, count, rfl, not_lt.mp size⟩
  · rintro ⟨-, _, _, same, size⟩
    obtain ⟨rfl, rfl⟩ : text = _ ∧ count = _ := by simpa using same
    exact repeated_oversized size

/-- Every method of the object for texts only looks at its arguments. -/
theorem runs_text {method : Method} (declared : method ∈ text.methodList)
    {arguments : List HostValue} (takes : List.Forall₂ HostType.Takes method.params arguments) :
    ∃ function, Runs method arguments function := by
  have member := ((HostObject.mem_methodList_iff _ _ _).mp declared).mem
  simp only [List.mem_cons, List.not_mem_nil, or_false] at member
  rcases member with rfl | rfl | rfl | rfl | rfl | rfl
  · exact ⟨_, .of_ordinary (by decide) (ordinary_mapText _)⟩
  · exact ⟨_, .of_ordinary (by decide) (ordinary_mapText _)⟩
  · exact ⟨_, .of_ordinary (by decide) (ordinary_mapText _)⟩
  · exact ⟨_, .of_ordinary (by decide) ordinary_length⟩
  · exact ⟨_, .of_ordinary (by decide) ordinary_pieces⟩
  · exact ⟨_, runs_repeat takes⟩

/-- No builtin method has the name of a base capability. -/
theorem exposed {object : HostObject} (builtin : object = math ∨ object = text) :
    ∀ name ∈ object.methodList.map Method.name, name ∉ baseCapabilities := by
  rcases builtin with rfl | rfl <;> decide

/-- Declared methods are selected by the arguments that they take. -/
theorem select?_declared {object : HostObject} (builtin : object = math ∨ object = text)
    {method : Method} (declared : method ∈ object.methodList) {arguments : List HostValue}
    (takes : List.Forall₂ HostType.Takes method.params arguments) :
    object.select? method.name (arguments.map HostValue.hostType) = some method := by
  have shown := exposed builtin method.name (List.mem_map_of_mem declared)
  have key : method.key = ⟨method.name, arguments.length⟩ := by
    rw [Method.key, Method.arity, takes.length_eq]
  obtain ⟨typeName, methods, rfl⟩ :
      ∃ typeName methods, object = HostObject.ofMethods typeName methods := by
    rcases builtin with rfl | rfl <;> exact ⟨_, _, rfl⟩
  have last := (HostObject.mem_methodList_iff typeName methods method).mp declared
  rw [key] at last
  exact (Declared.select?_iff ⟨0, typeName, methods⟩ _ _ _).mpr ⟨shown, last, takes⟩

/-- A call of a builtin method ends as its function does. -/
theorem dispatch_declared {host : Host} {name : String} {handle : Handle}
    (bound : Table.lookup? host.registry name = some handle)
    (builtin : handle.object = math ∨ handle.object = text) {method : String}
    {params : List HostType} {function : List HostValue → Outcome}
    (declared : Builtin.method method params function ∈ handle.object.methodList)
    {arguments : List HostValue} (takes : List.Forall₂ HostType.Takes params arguments) :
    (host.dispatch name method arguments).2 = (function arguments).result name method :=
  Host.dispatchWithin_pure _ bound (select?_declared builtin declared takes) rfl

end Builtin

/-- A builtin method that accepts its arguments ends with a value or a failure, unless it is to
repeat a text to 2^63 bytes or more: then it panics. A call of a bound builtin object reaches the
method with these arguments and ends as the method does. -/
theorem builtins_panic_on_oversize_only {object : HostObject}
    (builtin : object = Builtin.math ∨ object = Builtin.text) {method : Method}
    (declared : method ∈ object.methodList) {arguments : List HostValue}
    (accepts : method.accepts (arguments.map HostValue.hostType) = true) (host : Host) :
    let outcome := (host.invoke method arguments).2
    (¬ Builtin.Oversized method arguments → outcome.Ordinary) ∧
    (Builtin.Oversized method arguments → outcome = .panicked (some "capacity overflow")) ∧
    ∀ name handle, Table.lookup? host.registry name = some handle → handle.object = object →
      (host.dispatch name method.name arguments).2 = outcome.result name method.name := by
  intro outcome
  have takes := (Method.accepts_iff method arguments).mp accepts
  obtain ⟨function, runs⟩ : ∃ function, Builtin.Runs method arguments function := by
    rcases builtin with rfl | rfl
    · exact Builtin.runs_math declared takes
    · exact Builtin.runs_text declared takes
  have ended : outcome = function arguments := host.invoke_pure runs.pure arguments
  rw [ended]
  refine ⟨runs.ordinary, runs.oversized, ?_⟩
  rintro name handle bound rfl
  exact Host.dispatchWithin_pure _ bound (Builtin.select?_declared builtin declared takes) runs.pure

/-- The least integer has no absolute value, and still the method does not panic, also in a call. -/
theorem builtins_panic_on_oversize_only_least :
    let method := Builtin.method "abs" [.number] Builtin.absolute
    let arguments := [HostValue.integer Int64.minValue]
    let host := Host.empty.bind "m" ⟨0, Builtin.math⟩
    let outcome := (host.invoke method arguments).2
    method ∈ Builtin.math.methodList ∧
      method.accepts (arguments.map HostValue.hostType) = true ∧
      ¬ Builtin.Oversized method arguments ∧ outcome.Ordinary ∧
      (host.dispatch "m" "abs" arguments).2 = outcome.result "m" "abs" := by
  intro method arguments host outcome
  have declared : method ∈ Builtin.math.methodList := List.mem_of_getElem? (i := 4) rfl
  have accepts : method.accepts (arguments.map HostValue.hostType) = true := rfl
  have fits : ¬ Builtin.Oversized method arguments := fun oversized =>
    absurd oversized.1 (by decide)
  obtain ⟨ordinary, -, reached⟩ :=
    builtins_panic_on_oversize_only (.inl rfl) declared accepts host
  exact ⟨declared, accepts, fits, ordinary fits, reached "m" ⟨0, Builtin.math⟩ rfl rfl⟩

/-- Two letters cannot be repeated 2^62 times, which the method does not check. -/
theorem repeated_text_panics :
    let method := Builtin.method "repeat" [.string, .integer] Builtin.repeated
    let arguments := [HostValue.string "ab", HostValue.integer 4611686018427387904]
    method ∈ Builtin.text.methodList ∧
      method.accepts (arguments.map HostValue.hostType) = true ∧
      (Host.empty.invoke method arguments).2 = .panicked (some "capacity overflow") ∧
      ¬ (Host.empty.invoke method arguments).2.Ordinary := by
  intro method arguments
  have panics : (Host.empty.invoke method arguments).2 = .panicked (some "capacity overflow") := by
    rw [Host.invoke_pure Host.empty rfl]
    exact Builtin.repeated_oversized (by decide)
  refine ⟨List.mem_of_getElem? (i := 5) rfl, rfl, panics, ?_⟩
  rw [panics]
  rintro ⟨⟩

end HostBridge
