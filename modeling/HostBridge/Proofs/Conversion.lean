/-
This file shows that values are the same after they were turned into the other form and back.
-/
import HostBridge.Proofs.Double
import HostBridge.Proofs.Reading
import HostBridge.Proofs.Table
import Mathlib.Data.String.Basic

namespace HostBridge

namespace Members

/-- A member is the one that was put in, or it was there before. -/
theorem mem_of_mem_insert {members : Members} {key : String} {value : Json} {member : String × Json}
    (found : member ∈ members.insert key value) : member = (key, value) ∨ member ∈ members := by
  induction members with
  | nil => exact .inl (List.mem_singleton.mp found)
  | cons first members ih =>
      rw [insert] at found
      split at found
      · exact (List.mem_cons.mp found).imp_right (List.mem_cons_of_mem _)
      · split at found
        · exact List.mem_cons.mp found
        · rcases List.mem_cons.mp found with here | there
          · exact .inr (List.mem_cons.mpr (.inl here))
          · exact (ih there).imp_right (List.mem_cons_of_mem _)

/-- Members stay sorted when one is put in. -/
theorem Sorted.insert {members : Members} (sorted : members.Sorted) (key : String) (value : Json) :
    (members.insert key value).Sorted := by
  induction members with
  | nil => exact List.pairwise_singleton _ _
  | cons member members ih =>
      obtain ⟨first, known⟩ := member
      obtain ⟨below, rest⟩ := List.pairwise_cons.mp sorted
      rw [Members.insert]
      split
      · next same => exact List.pairwise_cons.mpr ⟨same ▸ below, rest⟩
      · next different =>
          split
          · next before =>
              refine List.pairwise_cons.mpr ⟨List.forall_mem_cons.mpr ⟨before, ?_⟩, sorted⟩
              exact fun member listed => String.lt_trans before (below member listed)
          · next after =>
              have behind : first < key := lt_of_le_of_ne (not_lt.mp after) (Ne.symm different)
              refine List.pairwise_cons.mpr ⟨fun member listed => ?_, ih rest⟩
              rcases mem_of_mem_insert listed with rfl | old
              · exact behind
              · exact below member old

/-- Members that are made of pairs are sorted. -/
theorem sorted_ofPairs (pairs : List (String × Json)) : (ofPairs pairs).Sorted := by
  have step (members : Members) (sorted : members.Sorted) :
      (pairs.foldl (fun members pair => members.insert pair.1 pair.2) members).Sorted := by
    induction pairs generalizing members with
    | nil => exact sorted
    | cons pair pairs ih => exact ih _ (sorted.insert pair.1 pair.2)
  exact step [] List.Pairwise.nil

/-- A member with a new key is added to the others. -/
theorem perm_insert {members : Members} {key : String} (value : Json)
    (fresh : ∀ member ∈ members, member.1 ≠ key) :
    (members.insert key value).Perm ((key, value) :: members) := by
  induction members with
  | nil => exact List.Perm.refl _
  | cons member members ih =>
      obtain ⟨here, others⟩ := List.forall_mem_cons.mp fresh
      rw [insert, if_neg (Ne.symm here)]
      split
      · exact List.Perm.refl _
      · exact ((ih others).cons member).trans (List.Perm.swap ..)

/-- Only the order of the pairs is lost. -/
theorem perm_ofPairs {pairs : List (String × Json)} (distinct : (pairs.map Prod.fst).Nodup) :
    (ofPairs pairs).Perm pairs := by
  induction pairs using List.reverseRecOn with
  | nil => exact List.Perm.refl _
  | append_singleton pairs last ih =>
      rw [List.map_append, List.nodup_append] at distinct
      obtain ⟨before, -, apart⟩ := distinct
      have known := ih before
      have fresh : ∀ member ∈ ofPairs pairs, member.1 ≠ last.1 := by
        intro member listed
        exact apart _ (List.mem_map_of_mem (known.mem_iff.mp listed)) _ (List.mem_singleton_self _)
      rw [ofPairs_concat]
      exact ((perm_insert last.2 fresh).trans (known.cons last)).trans
        (List.perm_append_singleton last pairs).symm

end Members

/-- A value whose integers have 64 bits with a sign. As in all values, its floats are finite and the
keys of its objects are sorted. -/
inductive Json.Signed : Json → Prop where
  | null : Signed .null
  | boolean (value : Bool) : Signed (.boolean value)
  | integer (value : Int64) : Signed (.ofInt64 value)
  | float {value : Float} : value.isFinite = true → Signed (.number (.float value))
  | string (value : String) : Signed (.string value)
  | array {items : List Json} : (∀ item ∈ items, Signed item) → Signed (.array items)
  | object {members : Members} : members.Sorted → (∀ member ∈ members, Signed member.2) →
      Signed (.object members)

/-- A plain value has no integer beyond 64 bits with a sign. -/
theorem Json.Plain.signed {depth : Nat} {value : Json} (plain : value.Plain depth) :
    value.Signed := by
  induction plain with
  | null => exact .null
  | boolean value => exact .boolean value
  | integer value => exact .integer value
  | string value => exact .string value
  | array _ ih => exact .array ih
  | object sorted _ ih => exact .object sorted ih

namespace HostValue

/-- No object has two fields of one key. -/
inductive Distinct : HostValue → Prop where
  | null : Distinct .null
  | boolean (value : Bool) : Distinct (.boolean value)
  | integer (value : Int64) : Distinct (.integer value)
  | float (value : Float) : Distinct (.float value)
  | string (value : String) : Distinct (.string value)
  | array {items : List HostValue} : (∀ item ∈ items, Distinct item) → Distinct (.array items)
  | object {fields : Table String HostValue} : (Table.keys fields).Nodup →
      (∀ field ∈ fields, Distinct field.2) → Distinct (.object fields)

mutual

/-- The value with null in place of each float that is not finite. -/
def finite : HostValue → HostValue
  | .null => .null
  | .boolean value => .boolean value
  | .integer value => .integer value
  | .float value => if value.isFinite then .float value else .null
  | .string value => .string value
  | .array items => .array (finiteItems items)
  | .object fields => .object (finiteFields fields)

def finiteItems : List HostValue → List HostValue
  | [] => []
  | item :: rest => item.finite :: finiteItems rest

def finiteFields : List (String × HostValue) → List (String × HostValue)
  | [] => []
  | (key, value) :: rest => (key, value.finite) :: finiteFields rest

end

/-- Two values without floats that are not finite differ at most in the order of fields. -/
inductive Alike : HostValue → HostValue → Prop where
  | null : Alike .null .null
  | boolean (value : Bool) : Alike (.boolean value) (.boolean value)
  | integer (value : Int64) : Alike (.integer value) (.integer value)
  | float {value : Float} : value.isFinite = true → Alike (.float value) (.float value)
  | string (value : String) : Alike (.string value) (.string value)
  | array {lefts rights : List HostValue} : lefts.length = rights.length →
      (∀ pair ∈ lefts.zip rights, Alike pair.1 pair.2) → Alike (.array lefts) (.array rights)
  | object {lefts rights : Table String HostValue} : (Table.keys lefts).Nodup →
      (Table.keys lefts).Perm (Table.keys rights) →
      (∀ key left right, Table.lookup? lefts key = some left →
        Table.lookup? rights key = some right → Alike left right) →
      Alike (.object lefts) (.object rights)

theorem itemsToJson_eq_map (items : List HostValue) : itemsToJson items = items.map toJson := by
  induction items with
  | nil => rfl
  | cons item items ih => rw [itemsToJson, ih, List.map_cons]

theorem fieldsToJson_eq_map (fields : List (String × HostValue)) :
    fieldsToJson fields = fields.map fun field => (field.1, field.2.toJson) := by
  induction fields with
  | nil => rfl
  | cons field fields ih => rw [fieldsToJson, ih, List.map_cons]

theorem ofItems_eq_map (items : List Json) : ofItems items = items.map ofJson := by
  induction items with
  | nil => rfl
  | cons item items ih => rw [ofItems, ih, List.map_cons]

theorem ofMembers_eq_map (members : List (String × Json)) :
    ofMembers members = members.map fun member => (member.1, ofJson member.2) := by
  induction members with
  | nil => rfl
  | cons member members ih => rw [ofMembers, ih, List.map_cons]

theorem ofJson_ofInt64 (value : Int64) : ofJson (.ofInt64 value) = .integer value := by
  have low : -0x8000000000000000 ≤ value.toInt := value.le_toInt
  have high : value.toInt < 0x8000000000000000 := value.toInt_lt
  simp [Json.ofInt64, ofJson, Number.int64?, low, high]

theorem finiteItems_eq_map (items : List HostValue) : finiteItems items = items.map finite := by
  induction items with
  | nil => rfl
  | cons item items ih => rw [finiteItems, ih, List.map_cons]

theorem finiteFields_eq_map (fields : List (String × HostValue)) :
    finiteFields fields = fields.map fun field => (field.1, field.2.finite) := by
  induction fields with
  | nil => rfl
  | cons field fields ih => rw [finiteFields, ih, List.map_cons]

/-- What is decoded is encoded as it was. -/
theorem toJson_ofJson {value : Json} (signed : value.Signed) : (ofJson value).toJson = value := by
  induction signed with
  | null => rfl
  | boolean value => rfl
  | integer value => rw [ofJson_ofInt64, toJson]
  | @float value finite => exact if_pos finite
  | string value => rfl
  | @array items signed ih =>
      rw [ofJson, toJson, ofItems_eq_map, itemsToJson_eq_map, List.map_map]
      have same : items.map (toJson ∘ ofJson) = items.map id := List.map_congr_left ih
      rw [same, List.map_id]
  | @object members sorted signed ih =>
      rw [ofJson, toJson, ofMembers_eq_map, fieldsToJson_eq_map, List.map_map]
      have same : members.map ((fun field => (field.1, toJson field.2)) ∘
          fun member => (member.1, ofJson member.2)) = members.map id := by
        apply List.map_congr_left
        rintro ⟨key, value⟩ listed
        exact congrArg (Prod.mk key) (ih _ listed)
      rw [same, List.map_id, Members.ofPairs_sorted sorted]

/-- The fields keep their names and their order. -/
theorem keys_fieldsToJson (fields : Table String HostValue) :
    (fieldsToJson fields).map Prod.fst = Table.keys fields := by
  rw [fieldsToJson_eq_map, List.map_map]
  rfl

/-- The members of an encoded object are its fields. -/
theorem perm_fieldsToJson {fields : Table String HostValue} (distinct : (Table.keys fields).Nodup) :
    (Members.ofPairs (fieldsToJson fields)).Perm
      (fields.map fun field => (field.1, field.2.toJson)) := by
  rw [← fieldsToJson_eq_map]
  exact Members.perm_ofPairs (keys_fieldsToJson fields ▸ distinct)

/-- A value that is encoded is decoded to what it was, but for floats that are not finite. -/
theorem Distinct.alike {value : HostValue} (distinct : value.Distinct) :
    (ofJson value.toJson).Alike value.finite := by
  induction distinct with
  | null => exact .null
  | boolean value => exact .boolean value
  | integer value =>
      rw [toJson, ofJson_ofInt64]
      exact .integer value
  | float value =>
      rw [toJson, Json.ofFloat, finite]
      split
      · next finite => exact .float finite
      · exact .null
  | string value => exact .string value
  | @array items distinct ih =>
      rw [toJson, ofJson, finite, itemsToJson_eq_map, ofItems_eq_map, finiteItems_eq_map,
        List.map_map]
      refine .array (by simp) fun pair listed => ?_
      rw [List.zip_map'] at listed
      obtain ⟨item, known, rfl⟩ := List.mem_map.mp listed
      exact ih item known
  | @object fields distinct others ih =>
      have perm := perm_fieldsToJson distinct
      have keys := perm.map Prod.fst
      rw [List.map_map] at keys
      rw [toJson, ofJson, finite, ofMembers_eq_map, finiteFields_eq_map]
      refine .object ?_ ?_ fun key left right inLefts inRights => ?_
      · rw [Table.keys, List.map_map]
        exact keys.symm.nodup distinct
      · rw [Table.keys, Table.keys, List.map_map, List.map_map]
        exact keys
      · obtain ⟨member, listed, same⟩ := List.mem_map.mp (Table.mem_of_lookup? inLefts)
        obtain ⟨other, known, same'⟩ := List.mem_map.mp (Table.mem_of_lookup? inRights)
        obtain ⟨field, origin, rfl⟩ := List.mem_map.mp (perm.mem_iff.mp listed)
        cases same
        obtain ⟨sameKey, rfl⟩ := Prod.mk.inj same'
        obtain rfl := List.inj_on_of_nodup_map distinct known origin sameKey
        exact ih other known

/-- Lists of one length whose items agree are the same. -/
theorem sameItems_of_zip {lefts rights : List HostValue} (length : lefts.length = rights.length)
    (known : ∀ pair ∈ lefts.zip rights, pair.1.same pair.2 = true) :
    sameItems lefts rights = true := by
  induction lefts generalizing rights with
  | nil =>
      obtain rfl := List.eq_nil_of_length_eq_zero length.symm
      rfl
  | cons left lefts ih =>
      cases rights with
      | nil => cases length
      | cons right rights =>
          obtain ⟨here, others⟩ := List.forall_mem_cons.mp known
          rw [sameItems, here, ih (Nat.succ.inj length) others]
          rfl

/-- A function that changes no item changes no list. -/
theorem sameItems_map {items : List HostValue} {f : HostValue → HostValue}
    (known : ∀ item ∈ items, (f item).same item = true) : sameItems (items.map f) items = true := by
  have pairs : (items.map f).zip (items.map id) = items.map fun item => (f item, item) :=
    List.zip_map'
  rw [List.map_id] at pairs
  refine sameItems_of_zip (List.length_map f) fun pair listed => ?_
  rw [pairs] at listed
  obtain ⟨item, member, rfl⟩ := List.mem_map.mp listed
  exact known item member

/-- Fields are within others when each one is found there. -/
theorem fieldsWithin_of_lookup? {lefts rights : List (String × HostValue)}
    (known : ∀ left ∈ lefts, ∃ right, Table.lookup? rights left.1 = some right ∧
      left.2.same right = true) : fieldsWithin lefts rights = true := by
  induction lefts with
  | nil => rfl
  | cons left lefts ih =>
      obtain ⟨⟨right, found, same⟩, others⟩ := List.forall_mem_cons.mp known
      rw [fieldsWithin, found, ih others]
      simpa using same

/-- Such values compare as the same. -/
theorem Alike.same {left right : HostValue} (alike : left.Alike right) :
    left.same right = true := by
  induction alike with
  | null => rfl
  | boolean value => exact beq_self_eq_true value
  | integer value => exact beq_self_eq_true value
  | float finite => exact Double.beq_self finite
  | string value => exact beq_self_eq_true value
  | array length _ ih => exact sameItems_of_zip length ih
  | @object lefts rights distinct keys _ ih =>
      have length := keys.length_eq
      rw [Table.keys, Table.keys, List.length_map, List.length_map] at length
      rw [HostValue.same, length, beq_self_eq_true, Bool.true_and]
      refine fieldsWithin_of_lookup? fun left listed => ?_
      have here := (Table.lookup?_eq_some_iff distinct left.1 left.2).mpr listed
      have there : left.1 ∈ Table.keys rights := keys.mem_iff.mp (List.mem_map_of_mem listed)
      obtain ⟨right, found⟩ := Option.ne_none_iff_exists'.mp
        (mt (Table.lookup?_eq_none_iff rights left.1).mp (not_not.mpr there))
      exact ⟨right, found, ih left.1 left.2 right here found⟩

end HostValue

/-- Host values are encoded and decoded to what they were, but for floats that are not finite, which
become null. JSON values whose integers have 64 bits with a sign are decoded and encoded to what
they were. -/
theorem conversions_faithful :
    (∀ value : HostValue, value.Distinct →
      (HostValue.ofJson value.toJson).Alike value.finite ∧
        (HostValue.ofJson value.toJson).same value.finite = true) ∧
    ∀ value : Json, value.Signed → (HostValue.ofJson value).toJson = value :=
  ⟨fun _ distinct => ⟨distinct.alike, distinct.alike.same⟩,
    fun _ signed => HostValue.toJson_ofJson signed⟩

/-- A float that is not finite is lost at any depth, an integral float and a zero with a sign stay
floats, and integers keep to the limits of 64 bits. -/
theorem conversions_faithful_edges :
    let infinite := Float.ofBits 0x7FF0000000000000
    let whole := Float.ofBits 0x4000000000000000
    let zero := Float.ofBits 0x8000000000000000
    let value : HostValue := .object [("z", .array [.float infinite, .float zero]),
      ("a", .integer Int64.minValue)]
    let json : Json := .object [("a", .number (.float whole)), ("b", .ofInt64 Int64.maxValue)]
    value.Distinct ∧
      (HostValue.ofJson value.toJson).Alike (.object [("z", .array [.null, .float zero]),
        ("a", .integer Int64.minValue)]) ∧
      json.Signed ∧ (HostValue.ofJson json).toJson = json := by
  intro infinite whole zero value json
  have distinct : value.Distinct := by
    have items : ∀ item ∈ [.float infinite, .float zero], HostValue.Distinct item :=
      List.forall_mem_cons.mpr ⟨.float _, List.forall_mem_cons.mpr ⟨.float _, List.forall_mem_nil _⟩⟩
    refine .object (by decide) (List.forall_mem_cons.mpr ⟨.array items, ?_⟩)
    exact List.forall_mem_cons.mpr ⟨.integer _, List.forall_mem_nil _⟩
  have signed : json.Signed := by
    have sorted : Members.Sorted [("a", .number (.float whole)), ("b", .ofInt64 Int64.maxValue)] :=
      List.pairwise_pair.mpr (by decide)
    refine .object sorted (List.forall_mem_cons.mpr ⟨.float ?_, ?_⟩)
    · decide +kernel
    · exact List.forall_mem_cons.mpr ⟨.integer _, List.forall_mem_nil _⟩
  obtain ⟨decoded, encoded⟩ := conversions_faithful
  have lost : infinite.isFinite = false := by decide +kernel
  have kept : zero.isFinite = true := by decide +kernel
  have finite : value.finite = .object [("z", .array [.null, .float zero]),
      ("a", .integer Int64.minValue)] := by
    simp [value, HostValue.finite, HostValue.finiteItems, HostValue.finiteFields, lost, kept]
  exact ⟨distinct, finite ▸ (decoded value distinct).1, signed, encoded json signed⟩

end HostBridge
