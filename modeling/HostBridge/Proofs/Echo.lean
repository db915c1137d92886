/-
This file shows that values pass the boundary between scripts and host objects unchanged.
-/
import HostBridge.Proofs.Conversion
import HostBridge.Proofs.Dispatch

namespace HostBridge

/-- A value without floats, whose brackets nest at most so deep. No object has two fields of one
key. -/
inductive HostValue.Plain : Nat → HostValue → Prop where
  | null {depth : Nat} : Plain depth .null
  | boolean {depth : Nat} (value : Bool) : Plain depth (.boolean value)
  | integer {depth : Nat} (value : Int64) : Plain depth (.integer value)
  | string {depth : Nat} (value : String) : Plain depth (.string value)
  | array {depth : Nat} {items : List HostValue} : (∀ item ∈ items, Plain depth item) →
      Plain (depth + 1) (.array items)
  | object {depth : Nat} {fields : Table String HostValue} : (Table.keys fields).Nodup →
      (∀ field ∈ fields, Plain depth field.2) → Plain (depth + 1) (.object fields)

namespace HostValue

/-- A plain value is encoded as plain JSON, which nests no deeper. -/
theorem Plain.toJson {depth : Nat} {value : HostValue} (plain : value.Plain depth) :
    value.toJson.Plain depth := by
  induction plain with
  | null => exact .null
  | boolean value => exact .boolean value
  | integer value => exact .integer value
  | string value => exact .string value
  | @array depth items plain ih =>
      rw [HostValue.toJson, itemsToJson_eq_map]
      exact .array (List.forall_mem_map.mpr ih)
  | @object depth fields distinct plain ih =>
      rw [HostValue.toJson]
      refine .object (Members.sorted_ofPairs _) fun member listed => ?_
      obtain ⟨field, known, rfl⟩ := List.mem_map.mp ((perm_fieldsToJson distinct).mem_iff.mp listed)
      exact ih field known

/-- A plain value has no key twice. -/
theorem Plain.distinct {depth : Nat} {value : HostValue} (plain : value.Plain depth) :
    value.Distinct := by
  induction plain with
  | null => exact .null
  | boolean value => exact .boolean value
  | integer value => exact .integer value
  | string value => exact .string value
  | array _ ih => exact .array ih
  | object distinct _ ih => exact .object distinct ih

/-- A plain value has no float to be lost. -/
theorem Plain.finite_eq {depth : Nat} {value : HostValue} (plain : value.Plain depth) :
    value.finite = value := by
  induction plain with
  | null | boolean | integer | string => rfl
  | @array depth items plain ih =>
      have same : items.map finite = items.map id := List.map_congr_left ih
      rw [finite, finiteItems_eq_map, same, List.map_id]
  | @object depth fields distinct plain ih =>
      have same : fields.map (fun field => (field.1, field.2.finite)) = fields.map id :=
        List.map_congr_left fun field listed => Prod.ext rfl (ih field listed)
      rw [finite, finiteFields_eq_map, same, List.map_id]

/-- Decoding gives back every value that was encoded, up to the order of fields. -/
theorem Plain.same_ofJson {depth : Nat} {value : HostValue} (plain : value.Plain depth) :
    (ofJson value.toJson).same value = true := by
  have same := plain.distinct.alike.same
  rwa [plain.finite_eq] at same

end HostValue

/-- The handler returns the array of its arguments, whatever the host is and whatever its calls
are answered. -/
def Handler.Echoes (handler : Handler) : Prop :=
  ∀ call host arguments, ((handler arguments).run call host).2 = .returned (.array arguments)

/-- Encoded arguments are read as the arguments. -/
theorem decodeArguments_encoded {values : List HostValue}
    (plain : ∀ value ∈ values, value.Plain 126) :
    decodeArguments (Json.array (values.map HostValue.toJson)).text =
      .ok (values.map fun value => HostValue.ofJson value.toJson) := by
  have encoded : (Json.array (values.map HostValue.toJson)).Plain Json.depthLimit :=
    .array (List.forall_mem_map.mpr fun value listed => (plain value listed).toJson)
  rw [decodeArguments, Json.ofText_text encoded]
  simp only [HostValue.ofItems_eq_map, List.map_map]
  rfl

/-- A method of parameters of any type accepts so many arguments. -/
theorem Method.accepts_any {method : Method} {types : List HostType}
    (params : method.params = List.replicate types.length .any) : method.accepts types = true := by
  rw [accepts, params, List.length_replicate, beq_self_eq_true, Bool.true_and, List.all_eq_true]
  rintro ⟨declared, actual⟩ listed
  rw [List.eq_of_mem_replicate (List.of_mem_zip listed).1]
  rfl

/-- A call selects the method that is declared for so many arguments and accepts them. -/
theorem HostObject.select?_accepts {object : HostObject} {name : String} {types : List HostType}
    {method : Method} (declared : object.method? name types.length = some method)
    (ordinary : isBaseCapability name = false) (accepts : method.accepts types = true) :
    object.select? name types = some method := by
  rw [select?, if_neg (by simp [ordinary]), declared, Option.filter_some, if_pos accepts]

theorem HostObject.select?_any {object : HostObject} {name : String} {types : List HostType}
    {method : Method} (declared : object.method? name types.length = some method)
    (ordinary : isBaseCapability name = false)
    (params : method.params = List.replicate types.length .any) :
    object.select? name types = some method :=
  select?_accepts declared ordinary (Method.accepts_any params)

/-- A call has the value that the handler of the selected method returns. -/
theorem Host.dispatchWithin_returned (depth : Nat) {host : Host} {object method : String}
    {handle : Handle} (bound : Table.lookup? host.registry object = some handle) {entry : Method}
    {arguments : List HostValue} {value : HostValue}
    (selected : handle.object.select? method (arguments.map HostValue.hostType) = some entry)
    (returned : ∀ call host, ((entry.handler arguments).run call host).2 = .returned value) :
    (Host.dispatchWithin (depth + 1) host object method arguments).2 = .ok value := by
  rw [dispatchWithin_selected depth bound selected]
  simp only [returned, Outcome.result]

/-- A call of an echoing method returns its arguments. -/
theorem Host.dispatchWithin_echo (depth : Nat) {host : Host} {object method : String}
    {handle : Handle} (bound : Table.lookup? host.registry object = some handle) {entry : Method}
    {arguments : List HostValue}
    (declared : handle.object.method? method arguments.length = some entry)
    (ordinary : isBaseCapability method = false)
    (params : entry.params = List.replicate arguments.length .any)
    (echoes : entry.handler.Echoes) :
    (Host.dispatchWithin (depth + 1) host object method arguments).2 = .ok (.array arguments) := by
  have selected : handle.object.select? method (arguments.map HostValue.hostType) = some entry :=
    HostObject.select?_any (by rwa [List.length_map]) ordinary (by rwa [List.length_map])
  exact dispatchWithin_returned depth bound selected fun call host => echoes call host arguments

/-- A reply with a value shows the text of the value. -/
theorem replyOf_ok_text (value : HostValue) :
    (replyOf (.ok value)).text = "\x7b\"value\":" ++ value.toJson.text ++ "\x7d" := by
  have key : Text.quote "value" = "\"value\"" := rfl
  rw [replyOf, Json.text, Json.memberTexts, Json.memberTexts, key, separated,
    String.intercalate_singleton]
  apply String.toList_inj.mp
  simp

/-- Values without floats that nest at most 126 deep pass through a method that returns its
arguments. They arrive as they were, and the reply holds the text in which they were written. -/
theorem echo_unchanged (host : Host) (object method : String) (handle : Handle)
    (bound : Table.lookup? host.registry object = some handle) (values : List HostValue)
    (entry : Method) (declared : handle.object.method? method values.length = some entry)
    (ordinary : isBaseCapability method = false)
    (params : entry.params = List.replicate values.length .any) (echoes : entry.handler.Echoes)
    (plain : ∀ value ∈ values, value.Plain 126) :
    let written := (Json.array (values.map HostValue.toJson)).text
    (∃ arguments, decodeArguments written = .ok arguments ∧
      HostValue.sameItems arguments values = true) ∧
    (host.dispatchText object method written).2 = "\x7b\"value\":" ++ written ++ "\x7d" := by
  intro written
  have decoded := decodeArguments_encoded plain
  have size : (values.map fun value => HostValue.ofJson value.toJson).length = values.length :=
    List.length_map ..
  refine ⟨⟨_, decoded, HostValue.sameItems_map fun value listed =>
    (plain value listed).same_ofJson⟩, ?_⟩
  have called : (host.dispatch object method
      (values.map fun value => HostValue.ofJson value.toJson)).2 = .ok (.array _) :=
    Host.dispatchWithin_echo (callDepth - 1) bound (size.symm ▸ declared) ordinary
      (size.symm ▸ params) echoes
  have again : values.map (HostValue.toJson ∘ fun value => HostValue.ofJson value.toJson) =
      values.map HostValue.toJson :=
    List.map_congr_left fun value listed => HostValue.toJson_ofJson (plain value listed).toJson.signed
  simp only [written, Host.dispatchText, decoded, called]
  rw [replyOf_ok_text, HostValue.toJson, HostValue.itemsToJson_eq_map, List.map_map, again]

/-- The handler that returns its arguments echoes. -/
theorem Handler.everyArgument_echoes : Handler.everyArgument.Echoes := fun _ _ _ => rfl

/-- The fields of the object have another order than its members. -/
theorem echo_unchanged_nested :
    let method : Method := ⟨"echo", [.any, .any, .any], "", .everyArgument⟩
    let host := Host.empty.bind "k" ⟨0, HostObject.ofMethods "Echo" [method]⟩
    let written :=
      "[-9223372036854775808,[\"a\\\"\\n\",[]],\x7b\"a\":9223372036854775807,\"z\":null\x7d]"
    (host.dispatchText "k" "echo" written).2 = "\x7b\"value\":" ++ written ++ "\x7d" := by
  intro method host written
  let values : List HostValue := [.integer Int64.minValue, .array [.string "a\"\n", .array []],
    .object [("z", .null), ("a", .integer Int64.maxValue)]]
  have plain : ∀ value ∈ values, value.Plain 126 := by
    have strings : ∀ item ∈ [.string "a\"\n", .array []], HostValue.Plain 125 item := by
      simp only [List.forall_mem_cons]
      exact ⟨.string _, .array (by simp), by simp⟩
    have fields : ∀ field ∈ [("z", .null), ("a", .integer Int64.maxValue)],
        HostValue.Plain 125 field.2 := by
      simp only [List.forall_mem_cons]
      exact ⟨.null, .integer _, by simp⟩
    simp only [values, List.forall_mem_cons]
    exact ⟨.integer _, .array strings, .object (by decide) fields, by simp⟩
  have same : (Json.array (values.map HostValue.toJson)).text = written := rfl
  rw [← same]
  exact (echo_unchanged host "k" "echo" ⟨0, HostObject.ofMethods "Echo" [method]⟩ rfl values method
    rfl rfl rfl Handler.everyArgument_echoes plain).2

end HostBridge
