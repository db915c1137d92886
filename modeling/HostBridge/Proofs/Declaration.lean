/-
This file shows which methods an object has after a sequence of declarations.
-/
import HostBridge.Capability.Object
import HostBridge.Proofs.Table
import Mathlib.Data.Finset.Card
import Mathlib.Data.Finset.Dedup
import Mathlib.Data.List.Flatten
import Mathlib.Data.List.Induction

namespace HostBridge

section Duplicates

variable {A B : Type} [DecidableEq A] [DecidableEq B]

/-- Only the first of equal items stays. -/
theorem eraseDups_concat (items : List A) (item : A) :
    (items ++ [item]).eraseDups =
      if item ∈ items then items.eraseDups else items.eraseDups ++ [item] := by
  rw [List.eraseDups_append]
  by_cases member : item ∈ items <;> simp [List.removeAll, List.eraseDups_cons, member]

theorem nodup_eraseDups (items : List A) : items.eraseDups.Nodup := by
  induction items using List.reverseRecOn with
  | nil => simp
  | append_singleton items item ih =>
      rw [eraseDups_concat]
      split
      · exact ih
      · next fresh =>
          exact List.Nodup.append ih (List.nodup_singleton item) (by simpa using fresh)

/-- Items that differ may have equal images, so duplicates are erased again. -/
theorem eraseDups_map_eraseDups (f : A → B) (items : List A) :
    (items.eraseDups.map f).eraseDups = (items.map f).eraseDups := by
  induction items using List.reverseRecOn with
  | nil => rfl
  | append_singleton items item ih =>
      rw [eraseDups_concat, List.map_append, List.map_singleton, eraseDups_concat]
      split
      · next member =>
          rw [ih, if_pos (List.mem_map_of_mem member)]
      · rw [List.map_append, List.map_singleton, eraseDups_concat, ih]
        simp only [List.mem_map, List.mem_eraseDups]

/-- So many items are left as there are different ones. -/
theorem length_eraseDups (items : List A) : items.eraseDups.length = items.toFinset.card := by
  have same : items.eraseDups.toFinset = items.toFinset := by
    ext item
    simp
  rw [← same, List.toFinset_card_of_nodup (nodup_eraseDups items)]

omit [DecidableEq A] in
/-- Items put together by their images are all of the items, each as often as before. -/
theorem perm_groups (f : A → B) {items : List A} (distinct : items.Nodup) :
    ((items.map f).eraseDups.flatMap fun image => items.filter fun item => f item = image).Perm
      items := by
  refine (List.perm_ext_iff_of_nodup ?_ distinct).mpr fun item => ?_
  · rw [List.nodup_flatMap]
    refine ⟨fun image _ => distinct.filter _, (nodup_eraseDups _).imp ?_⟩
    intro first second apart item left right
    simp only [List.mem_filter, decide_eq_true_eq] at left right
    exact apart (left.2.symm.trans right.2)
  · simp only [List.mem_flatMap, List.mem_eraseDups, List.mem_map, List.mem_filter,
      decide_eq_true_eq]
    constructor
    · rintro ⟨image, -, member, -⟩
      exact member
    · intro member
      exact ⟨f item, ⟨item, member, rfl⟩, member, rfl⟩

end Duplicates

/-- No later declaration has the same name and arity. -/
def LastDeclared (methods : List Method) (key : MethodKey) (method : Method) : Prop :=
  ∃ before after, methods = before ++ method :: after ∧ method.key = key ∧
    ∀ later ∈ after, later.key ≠ key

theorem not_lastDeclared_nil (key : MethodKey) (method : Method) :
    ¬ LastDeclared [] key method := by
  rintro ⟨before, after, split, -⟩
  simp at split

/-- A new declaration hides the earlier ones of its key and no others. -/
theorem lastDeclared_concat (methods : List Method) (new : Method) (key : MethodKey)
    (method : Method) :
    LastDeclared (methods ++ [new]) key method ↔
      if new.key = key then new = method else LastDeclared methods key method := by
  constructor
  · rintro ⟨before, after, equal, own, hidden⟩
    rcases List.eq_nil_or_concat after with rfl | ⟨later, last, rfl⟩
    · obtain ⟨-, same⟩ := List.append_inj' equal rfl
      obtain rfl : new = method := by simpa using same
      simp [own]
    · have equal' : methods ++ [new] = (before ++ method :: later) ++ [last] := by simpa using equal
      obtain ⟨earlier, same⟩ := List.append_inj' equal' rfl
      obtain rfl : new = last := by simpa using same
      rw [if_neg (hidden new (by simp))]
      exact ⟨before, later, earlier, own, fun other member => hidden other (by simp [member])⟩
  · split
    · next own =>
        rintro rfl
        exact ⟨methods, [], by simp, own, by simp⟩
    · next other =>
        rintro ⟨before, after, rfl, own, hidden⟩
        refine ⟨before, after ++ [new], by simp, own, ?_⟩
        intro later member
        rcases List.mem_append.mp member with member | member
        · exact hidden later member
        · obtain rfl : later = new := by simpa using member
          exact other

/-- A declaration is the last one of its key or is followed by it. -/
theorem exists_lastDeclared {methods : List Method} {method : Method} (member : method ∈ methods) :
    ∃ last, LastDeclared methods method.key last := by
  induction methods using List.reverseRecOn with
  | nil => simp at member
  | append_singleton methods new ih =>
      by_cases own : new.key = method.key
      · exact ⟨new, (lastDeclared_concat methods new _ new).mpr (by simp [own])⟩
      · rcases List.mem_append.mp member with member | member
        · obtain ⟨last, declared⟩ := ih member
          exact ⟨last, (lastDeclared_concat methods new _ last).mpr (by simpa [own] using declared)⟩
        · obtain rfl : method = new := by simpa using member
          exact absurd rfl own

/-- The last declaration of a key is one of the declarations. -/
theorem LastDeclared.mem {methods : List Method} {key : MethodKey} {method : Method}
    (last : LastDeclared methods key method) : method ∈ methods := by
  obtain ⟨before, after, rfl, -⟩ := last
  simp

theorem LastDeclared.key_eq {methods : List Method} {key : MethodKey} {method : Method}
    (last : LastDeclared methods key method) : method.key = key := by
  obtain ⟨before, after, -, own, -⟩ := last
  exact own

@[simp] theorem HostObject.ofMethods_nil (typeName : String) :
    HostObject.ofMethods typeName [] = HostObject.empty typeName := rfl

/-- The last declaration is added to what the others make. -/
theorem HostObject.ofMethods_concat (typeName : String) (methods : List Method) (method : Method) :
    HostObject.ofMethods typeName (methods ++ [method]) =
      (HostObject.ofMethods typeName methods).add method := by
  simp [ofMethods, addAll]

/-- The table answers with the last declaration. -/
theorem HostObject.lookup?_ofMethods_iff (typeName : String) (methods : List Method)
    (key : MethodKey) (method : Method) :
    Table.lookup? (HostObject.ofMethods typeName methods).methods key = some method ↔
      LastDeclared methods key method := by
  induction methods using List.reverseRecOn with
  | nil => simp [HostObject.empty, Table.lookup?, not_lastDeclared_nil]
  | append_singleton methods new ih =>
      rw [ofMethods_concat, lastDeclared_concat, add, Table.lookup?_put]
      by_cases own : new.key = key <;> simp [own, ih]

/-- A key keeps the place of its first declaration. -/
theorem HostObject.keys_ofMethods (typeName : String) (methods : List Method) :
    Table.keys (HostObject.ofMethods typeName methods).methods =
      (methods.map Method.key).eraseDups := by
  induction methods using List.reverseRecOn with
  | nil => rfl
  | append_singleton methods new ih =>
      rw [ofMethods_concat, add, Table.keys_put, ih, List.map_append, List.map_singleton,
        eraseDups_concat]
      simp only [List.mem_eraseDups]

/-- The arities that a name has among some keys. -/
def aritiesOf (keys : List MethodKey) (name : String) : List Nat :=
  (keys.filter fun key => key.name = name).map MethodKey.arity

/-- Under a name the parameter counts of its keys are found. -/
theorem lookup?_addArity (keys : List MethodKey) (name : String) :
    Table.lookup? (keys.foldl addArity []) name =
      if name ∈ keys.map MethodKey.name then some (aritiesOf keys name) else none := by
  induction keys using List.reverseRecOn with
  | nil => simp [Table.lookup?]
  | append_singleton keys key ih =>
      rw [List.foldl_append, List.foldl_cons, List.foldl_nil, addArity, Table.lookup?_put]
      by_cases same : key.name = name
      · subst same
        rw [ih]
        by_cases known : key.name ∈ keys.map MethodKey.name
        · simp [aritiesOf, known]
        · have none : keys.filter (fun other => other.name = key.name) = [] := by
            simpa [List.filter_eq_nil_iff] using known
          simp [aritiesOf, known, none]
      · rw [if_neg same, ih]
        simp [aritiesOf, same, Ne.symm same]

/-- The names are in the order in which they were declared first. -/
theorem keys_addArity (keys : List MethodKey) :
    Table.keys (keys.foldl addArity []) = (keys.map MethodKey.name).eraseDups := by
  induction keys using List.reverseRecOn with
  | nil => rfl
  | append_singleton keys key ih =>
      rw [List.foldl_append, List.foldl_cons, List.foldl_nil, addArity, Table.keys_put, ih,
        List.map_append, List.map_singleton, eraseDups_concat]
      simp only [List.mem_eraseDups]

/-- Every name stands once with all of its arities. -/
theorem HostObject.arities_eq (object : HostObject) :
    object.arities = (((Table.keys object.methods).map MethodKey.name).eraseDups).map
      fun name => (name, aritiesOf (Table.keys object.methods) name) := by
  have names := keys_addArity (Table.keys object.methods)
  have distinct : (Table.keys object.arities).Nodup := by
    rw [arities, names]
    exact nodup_eraseDups _
  rw [← names]
  apply Table.eq_map_keys distinct
  intro name member
  rw [arities, names, List.mem_eraseDups] at member
  rw [arities, lookup?_addArity, if_pos member]

/-- A name keeps the place of its first declaration too. -/
theorem HostObject.names_ofMethods (typeName : String) (methods : List Method) :
    ((Table.keys (HostObject.ofMethods typeName methods).methods).map MethodKey.name).eraseDups =
      (methods.map Method.name).eraseDups := by
  rw [keys_ofMethods, eraseDups_map_eraseDups, List.map_map]
  rfl

/-- An object has one method under each key. -/
theorem HostObject.nodup_ofMethods (typeName : String) (methods : List Method) :
    (Table.keys (ofMethods typeName methods).methods).Nodup := by
  rw [keys_ofMethods]
  exact nodup_eraseDups _

/-- The table holds the last declarations and nothing else. -/
theorem HostObject.mem_ofMethods_iff (typeName : String) (methods : List Method)
    (entry : MethodKey × Method) :
    entry ∈ (ofMethods typeName methods).methods ↔ LastDeclared methods entry.1 entry.2 := by
  rw [← lookup?_ofMethods_iff, Table.lookup?_eq_some_iff (nodup_ofMethods typeName methods)]

theorem HostObject.map_key_methodList (typeName : String) (methods : List Method) :
    (ofMethods typeName methods).methodList.map Method.key =
      Table.keys (ofMethods typeName methods).methods := by
  rw [methodList, List.map_map, Table.keys]
  refine List.map_congr_left fun entry member => ?_
  exact ((mem_ofMethods_iff typeName methods entry).mp member).key_eq

/-- The methods of an object are the last ones declared under their keys. -/
theorem HostObject.mem_methodList_iff (typeName : String) (methods : List Method)
    (method : Method) :
    method ∈ (ofMethods typeName methods).methodList ↔ LastDeclared methods method.key method := by
  rw [methodList, List.mem_map]
  constructor
  · rintro ⟨entry, member, rfl⟩
    have last := (mem_ofMethods_iff typeName methods entry).mp member
    rwa [last.key_eq]
  · intro last
    exact ⟨(method.key, method), (mem_ofMethods_iff typeName methods _).mpr last, rfl⟩

/-- There is no method exactly under the keys that were never declared. -/
theorem HostObject.method?_eq_none_iff (typeName : String) (methods : List Method) (name : String)
    (arity : Nat) :
    (ofMethods typeName methods).method? name arity = none ↔
      ⟨name, arity⟩ ∉ methods.map Method.key := by
  rw [method?, Table.lookup?_eq_none_iff, keys_ofMethods, List.mem_eraseDups]

/-- A name has the parameter counts with which it was declared. -/
theorem mem_aritiesOf_iff (keys : List MethodKey) (name : String) (arity : Nat) :
    arity ∈ aritiesOf keys name ↔ ⟨name, arity⟩ ∈ keys := by
  simp only [aritiesOf, List.mem_map, List.mem_filter, decide_eq_true_eq]
  constructor
  · rintro ⟨key, ⟨member, rfl⟩, rfl⟩
    exact member
  · intro member
    exact ⟨_, ⟨member, rfl⟩, rfl⟩

/-- The keys of a name are put together from the name and its arities. -/
theorem map_aritiesOf (keys : List MethodKey) (name : String) :
    (aritiesOf keys name).map (MethodKey.mk name) = keys.filter fun key => key.name = name := by
  rw [aritiesOf, List.map_map]
  refine (List.map_congr_left fun key member => ?_).trans (List.map_id _)
  obtain rfl := of_decide_eq_true (List.mem_filter.mp member).2
  rfl

/-- Different keys of one name have different parameter counts. -/
theorem nodup_aritiesOf {keys : List MethodKey} (distinct : keys.Nodup) (name : String) :
    (aritiesOf keys name).Nodup := by
  refine List.Nodup.of_map (MethodKey.mk name) ?_
  rw [map_aritiesOf]
  exact distinct.filter _

/-- Names with their arities are the keys of the table again. -/
theorem HostObject.perm_arities {object : HostObject}
    (distinct : (Table.keys object.methods).Nodup) :
    (object.arities.flatMap fun entry => entry.2.map (MethodKey.mk entry.1)).Perm
      (Table.keys object.methods) := by
  rw [arities_eq, List.flatMap_map]
  simp only [map_aritiesOf]
  exact perm_groups MethodKey.name distinct

/-- A capability table keeps the last declaration of every name and arity, in the place of the
first one, and the arities of its names are those of its keys. -/
theorem last_declarations_kept (typeName : String) (methods : List Method) :
    let object := HostObject.ofMethods typeName methods
    let declared := methods.map Method.key
    object.methods.length = declared.toFinset.card ∧
    (∀ name arity method, object.method? name arity = some method ↔
      LastDeclared methods ⟨name, arity⟩ method) ∧
    (∀ name arity, object.method? name arity = none ↔ ⟨name, arity⟩ ∉ declared) ∧
    (∀ name types method, object.method? name types.length = some method →
      method.params.length = types.length ∧
        method.accepts types = (method.params.zip types).all fun pair => pair.1.accepts pair.2) ∧
    object.methodList.map Method.key = declared.eraseDups ∧
    (∀ method, method ∈ object.methodList ↔ LastDeclared methods method.key method) ∧
    Table.keys object.arities = (methods.map Method.name).eraseDups ∧
    (∀ entry ∈ object.arities, entry.2.Nodup ∧
      ∀ arity, arity ∈ entry.2 ↔ ⟨entry.1, arity⟩ ∈ declared) ∧
    (object.arities.flatMap fun entry => entry.2.map (MethodKey.mk entry.1)).Perm
      (Table.keys object.methods) := by
  intro object declared
  have keys : Table.keys object.methods = declared.eraseDups :=
    HostObject.keys_ofMethods typeName methods
  have distinct : (Table.keys object.methods).Nodup := HostObject.nodup_ofMethods typeName methods
  refine ⟨?_, fun name arity => HostObject.lookup?_ofMethods_iff typeName methods ⟨name, arity⟩,
    HostObject.method?_eq_none_iff typeName methods, ?_,
    (HostObject.map_key_methodList typeName methods).trans keys,
    HostObject.mem_methodList_iff typeName methods, ?_, ?_, HostObject.perm_arities distinct⟩
  · rw [← length_eraseDups, ← keys, Table.keys, List.length_map]
  · intro name types method found
    have own := ((HostObject.lookup?_ofMethods_iff typeName methods _ _).mp found).key_eq
    have size : method.params.length = types.length := congrArg MethodKey.arity own
    exact ⟨size, by rw [Method.accepts, size, beq_self_eq_true, Bool.true_and]⟩
  · rw [← HostObject.names_ofMethods typeName, HostObject.arities, keys_addArity]
  · intro entry member
    rw [HostObject.arities_eq] at member
    obtain ⟨name, -, rfl⟩ := List.mem_map.mp member
    refine ⟨nodup_aritiesOf distinct name, fun arity => ?_⟩
    rw [mem_aritiesOf_iff, keys, List.mem_eraseDups]

end HostBridge
