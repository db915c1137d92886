/-
This file shows which native values keep their meaning when they are handed to scripts.
-/
import HostBridge.Proofs.Builtin

namespace HostBridge

/-- Integers from 2^63 on are read as negative ones. -/
def received (number : Int) : Int :=
  if number < 0x8000000000000000 then number else number - 0x10000000000000000

/-- A number is received as it is when it is below 2^63. -/
theorem received_eq_self_iff {number : Int} :
    received number = number ↔ number < 0x8000000000000000 := by
  unfold received
  split <;> omega

/-- A count is received as the integer of the same bits. -/
theorem toInt_toInt64_count (count : UInt64) : count.toInt64.toInt = received count.toNat := by
  have bound : count.toNat < 2 ^ 64 := count.toNat_lt
  rw [UInt64.toInt64, Int64.toInt, Int64.toBitVec, BitVec.toInt_eq_toNat_cond, received]
  change (if 2 * count.toNat < 2 ^ 64 then _ else _) = _
  split <;> split <;> first | rfl | omega

mutual

/-- The integers inside a value, from left to right. -/
def HostValue.integers : HostValue → List Int
  | .integer number => [number.toInt]
  | .array items => HostValue.itemIntegers items
  | .object fields => HostValue.fieldIntegers fields
  | _ => []

def HostValue.itemIntegers : List HostValue → List Int
  | [] => []
  | item :: rest => item.integers ++ HostValue.itemIntegers rest

def HostValue.fieldIntegers : List (String × HostValue) → List Int
  | [] => []
  | (_, value) :: rest => value.integers ++ HostValue.fieldIntegers rest

end

/-- The integers of items in their order. -/
theorem HostValue.itemIntegers_eq_flatMap (items : List HostValue) :
    HostValue.itemIntegers items = items.flatMap HostValue.integers := by
  induction items with
  | nil => rfl
  | cons item rest ih => rw [HostValue.itemIntegers, ih, List.flatMap_cons]

/-- The native types that can be handed to scripts. -/
inductive NativeType where
  | boolean
  | int32
  | int64
  | count
  | float
  | text
  | list (item : NativeType)
  | optional (item : NativeType)

namespace NativeType

@[reducible]
def Carrier : NativeType → Type
  | .boolean => Bool
  | .int32 => Int32
  | .int64 => Int64
  | .count => UInt64
  | .float => Float
  | .text => String
  | .list item => List item.Carrier
  | .optional item => Option item.Carrier

@[reducible]
def conversion : (kind : NativeType) → ToHost kind.Carrier
  | .boolean => inferInstanceAs (ToHost Bool)
  | .int32 => inferInstanceAs (ToHost Int32)
  | .int64 => inferInstanceAs (ToHost Int64)
  | .count => inferInstanceAs (ToHost UInt64)
  | .float => inferInstanceAs (ToHost Float)
  | .text => inferInstanceAs (ToHost String)
  | .list item =>
      have := item.conversion
      inferInstanceAs (ToHost (List item.Carrier))
  | .optional item =>
      have := item.conversion
      inferInstanceAs (ToHost (Option item.Carrier))

instance (kind : NativeType) : ToHost kind.Carrier := kind.conversion

/-- The integers inside a native value, from left to right. -/
def integers : (kind : NativeType) → kind.Carrier → List Int
  | .int32, number => [number.toInt]
  | .int64, number => [number.toInt]
  | .count, number => [number.toNat]
  | .list item, values => values.flatMap item.integers
  | .optional item, value => value.elim [] item.integers
  | .boolean, _ | .float, _ | .text, _ => []

/-- A script gets what the native value says: the same integers, lists item by item and null for an
absent value. -/
def Says : (kind : NativeType) → kind.Carrier → HostValue → Prop
  | .boolean, flag, value => value = .boolean flag
  | .int32, number, value => ∃ same : Int64, same.toInt = number.toInt ∧ value = .integer same
  | .int64, number, value => ∃ same : Int64, same.toInt = number.toInt ∧ value = .integer same
  | .count, number, value => ∃ same : Int64, same.toInt = number.toNat ∧ value = .integer same
  | .float, number, value => value = .float number
  | .text, string, value => value = .string string
  | .list item, natives, value => ∃ items, List.Forall₂ item.Says natives items ∧ value = .array items
  | .optional _, none, value => value = .null
  | .optional item, some native, value => item.Says native value

/-- Every integer inside is below 2^63, which only a count can miss. -/
def Small (kind : NativeType) (native : kind.Carrier) : Prop :=
  ∀ number ∈ kind.integers native, number < 0x8000000000000000

/-- An integer of 32 bits is received as it is. -/
theorem received_int32 (number : Int32) : received number.toInt = number.toInt :=
  received_eq_self_iff.mpr (number.toInt_lt.trans (by decide))

/-- An integer of 64 bits with a sign is received as it is. -/
theorem received_int64 (number : Int64) : received number.toInt = number.toInt :=
  received_eq_self_iff.mpr number.toInt_lt

section Containers

variable {item : NativeType}

theorem toHost_list (natives : item.list.Carrier) :
    toHost natives = .array (natives.map toHost) := rfl

/-- A list is small when all of its items are. -/
theorem small_list_iff (natives : item.list.Carrier) :
    item.list.Small natives ↔ ∀ native ∈ natives, item.Small native := by
  simp only [Small, integers, List.mem_flatMap]
  exact ⟨fun small native inside number found => small number ⟨native, inside, found⟩,
    fun small number ⟨native, inside, found⟩ => small native inside number found⟩

/-- A list keeps its meaning when all of its items do. -/
theorem says_list_iff (natives : item.list.Carrier) :
    item.list.Says natives (toHost natives) ↔
      ∀ native ∈ natives, item.Says native (toHost native) := by
  rw [Says, toHost_list]
  constructor
  · rintro ⟨items, said, made⟩
    cases made
    exact List.forall₂_same.mp (List.forall₂_map_right_iff.mp said)
  · exact fun said => ⟨_, List.forall₂_map_right_iff.mpr (List.forall₂_same.mpr said), rfl⟩

end Containers

theorem says_integer_iff {number : Int} {arrived : Int64} :
    (∃ same : Int64, same.toInt = number ∧ HostValue.integer arrived = .integer same) ↔
      arrived.toInt = number :=
  ⟨fun ⟨_, same, made⟩ => by cases made; exact same, fun same => ⟨arrived, same, rfl⟩⟩

/-- The integers of a native value arrive in their order, each as it is read from 64 bits. -/
theorem integers_toHost (kind : NativeType) (native : kind.Carrier) :
    (toHost native).integers = (kind.integers native).map received := by
  induction kind with
  | boolean | float | text => rfl
  | int32 =>
      have same := (Int32.toInt_toInt64 native).trans (received_int32 native).symm
      exact congrArg (fun number => [number]) same
  | int64 => exact congrArg (fun number => [number]) (received_int64 native).symm
  | count => exact congrArg (fun number => [number]) (toInt_toInt64_count native)
  | list item ih =>
      rw [toHost_list, HostValue.integers, HostValue.itemIntegers_eq_flatMap, List.flatMap_map,
        integers, List.map_flatMap]
      exact List.flatMap_congr fun native _ => ih native
  | optional item ih =>
      cases native with
      | none => rfl
      | some native => exact ih native

/-- The integers of a native value are below 2^64. -/
theorem integers_lt (kind : NativeType) (native : kind.Carrier) :
    ∀ number ∈ kind.integers native, number < 0x10000000000000000 := by
  induction kind with
  | boolean | float | text => exact fun _ inside => absurd inside List.not_mem_nil
  | int32 => exact List.forall_mem_singleton.mpr (native.toInt_lt.trans (by decide))
  | int64 => exact List.forall_mem_singleton.mpr (native.toInt_lt.trans (by decide))
  | count => exact List.forall_mem_singleton.mpr (Int.ofNat_lt.mpr native.toNat_lt)
  | list item ih =>
      intro number inside
      obtain ⟨native, -, found⟩ := List.mem_flatMap.mp inside
      exact ih native number found
  | optional item ih =>
      cases native with
      | none => exact fun _ inside => absurd inside List.not_mem_nil
      | some native => exact ih native

/-- Only integers from 2^63 on change their sign. -/
theorem small_iff_signs_kept (kind : NativeType) (native : kind.Carrier) :
    kind.Small native ↔
      List.Forall₂ (fun number arrived => 0 ≤ number → 0 ≤ arrived) (kind.integers native)
        (toHost native).integers := by
  rw [integers_toHost, List.forall₂_map_right_iff, List.forall₂_same]
  refine forall₂_congr fun number inside => ?_
  have bound := kind.integers_lt native number inside
  unfold received
  split <;> omega

/-- A native value keeps its meaning exactly when its counts are small, by induction on its type. -/
theorem says_toHost_iff (kind : NativeType) (native : kind.Carrier) :
    kind.Says native (toHost native) ↔ kind.Small native := by
  induction kind with
  | boolean | float | text => exact ⟨fun _ _ inside => absurd inside List.not_mem_nil, fun _ => rfl⟩
  | int32 =>
      have small : int32.Small native :=
        List.forall_mem_singleton.mpr (native.toInt_lt.trans (by decide))
      exact says_integer_iff.trans (iff_of_true (Int32.toInt_toInt64 native) small)
  | int64 =>
      have small : int64.Small native := List.forall_mem_singleton.mpr native.toInt_lt
      exact says_integer_iff.trans (iff_of_true rfl small)
  | count =>
      refine says_integer_iff.trans ?_
      rw [toInt_toInt64_count, received_eq_self_iff, Small, integers, List.forall_mem_singleton]
  | list item ih =>
      rw [says_list_iff, small_list_iff]
      exact forall₂_congr fun native _ => ih native
  | optional item ih =>
      cases native with
      | none => exact ⟨fun _ _ inside => absurd inside List.not_mem_nil, fun _ => rfl⟩
      | some native => exact ih native

end NativeType

namespace Builtin

section Calls

variable {host : Host} {name : String} {handle : Handle}
  (bound : Table.lookup? host.registry name = some handle) (stock : handle.object = text)

include bound stock

/-- The number of characters of a text is a count. -/
theorem dispatch_length (string : String) (small : string.toList.length < 0x8000000000000000) :
    ∃ number : Int64, number.toInt = string.toList.length ∧
      (host.dispatch name "len" [.string string]).2 = .ok (.integer number) := by
  have declared : method "len" [.string] length ∈ text.methodList :=
    List.mem_of_getElem? (i := 3) rfl
  have takes : List.Forall₂ HostType.Takes [.string] [.string string] :=
    .cons (.own (.string string)) .nil
  have reached := dispatch_declared bound (.inr stock) (stock ▸ declared) takes
  have exact : (string.toList.length.toUInt64).toNat = string.toList.length :=
    UInt64.toNat_ofNat_of_lt (small.trans (by decide))
  refine ⟨_, ?_, reached⟩
  rw [toInt_toInt64_count, exact]
  exact received_eq_self_iff.mpr (by omega)

/-- The pieces of a text arrive one by one. -/
theorem dispatch_pieces (string separator : String) :
    ∃ value, (host.dispatch name "split" [.string string, .string separator]).2 = .ok value ∧
      NativeType.text.list.Says
        ((HostBridge.Text.split separator.toList string.toList).map String.ofList) value := by
  have declared : method "split" [.string, .string] pieces ∈ text.methodList :=
    List.mem_of_getElem? (i := 4) rfl
  have takes : List.Forall₂ HostType.Takes [.string, .string] [.string string, .string separator] :=
    .cons (.own (.string string)) (.cons (.own (.string separator)) .nil)
  have reached := dispatch_declared bound (.inr stock) (stock ▸ declared) takes
  exact ⟨_, reached, (NativeType.says_list_iff _).mpr fun _ _ => rfl⟩

end Calls

end Builtin

/-- A script gets what a native value says just when every count inside is below 2^63. The integers
inside arrive in their order, a count from 2^63 on as a negative number, and nothing else that is not
negative does so. -/
theorem conversions_keep_small_integers (kind : NativeType) (native : kind.Carrier) :
    (kind.Says native (toHost native) ↔ kind.Small native) ∧
      (toHost native).integers = (kind.integers native).map received ∧
      (List.Forall₂ (fun number arrived => 0 ≤ number → 0 ≤ arrived) (kind.integers native)
        (toHost native).integers ↔ kind.Small native) :=
  ⟨kind.says_toHost_iff native, kind.integers_toHost native, (kind.small_iff_signs_kept native).symm⟩

/-- The least count that does not fit becomes the least integer. -/
theorem great_count_becomes_negative :
    let count : NativeType.count.Carrier := UInt64.ofNat 0x8000000000000000
    NativeType.count.integers count = [0x8000000000000000] ∧
      toHost count = .integer Int64.minValue ∧
      (toHost count).integers = [-0x8000000000000000] ∧
      ¬ NativeType.count.Says count (toHost count) := by
  intro count
  refine ⟨rfl, rfl, rfl, ?_⟩
  rintro ⟨same, exact, made⟩
  cases made
  exact absurd exact (by decide)

end HostBridge
