/-
This file shows which arrays are translated to arrays of one type.
-/
import HostBridge.Proofs.Translation

namespace HostBridge

open Double

/-- The kinds of items for which there are typed arrays. -/
inductive ItemKind where
  | boolean
  | number
  | string

def ItemKind.Has : ItemKind → Json → Prop
  | .boolean, item => ∃ value, item = .boolean value
  | .number, item => ∃ value, item = .number value
  | .string, item => ∃ value, item = .string value

/-- The result is an array of values of the kind. -/
def ItemKind.Types : ItemKind → Translated → Prop
  | .boolean, result => ∃ values, result = .booleans values
  | .number, result => ∃ values, result = .numbers values
  | .string, result => ∃ values, result = .strings values

/-- An item has one kind at most. -/
theorem ItemKind.has_unique {first second : ItemKind} {item : Json} (one : first.Has item)
    (other : second.Has item) : first = second := by
  cases first <;> cases second <;> obtain ⟨_, rfl⟩ := one <;> obtain ⟨_, same⟩ := other <;>
    simp at same ⊢

theorem ItemKind.not_types_array {kind : ItemKind} {items : List Json} :
    ¬ kind.Types (.array items) := by
  cases kind <;> exact nofun

/-- An item can be typed when it has a kind. -/
theorem Json.isTypable_iff (item : Json) :
    item.isTypable = true ↔ ∃ kind : ItemKind, kind.Has item := by
  constructor
  · intro typable
    cases item with
    | boolean value => exact ⟨.boolean, value, rfl⟩
    | number value => exact ⟨.number, value, rfl⟩
    | string value => exact ⟨.string, value, rfl⟩
    | _ => cases typable
  · rintro ⟨_ | _ | _, value, rfl⟩ <;> rfl

/-- All items have one kind and are taken as values of one type, or every kind is missed by some
item and the items are kept. -/
inductive Typing : List Json → Translated → Prop where
  | empty : Typing [] (.numbers [])
  | booleans (first : Bool) (values : List Bool) :
      Typing ((first :: values).map .boolean) (.booleans (first :: values))
  | numbers (first : Number) (values : List Number) :
      Typing ((first :: values).map .number) (.numbers ((first :: values).map Number.toFloat))
  | strings (first : String) (values : List String) :
      Typing ((first :: values).map .string) (.strings (first :: values))
  | untyped {items : List Json} : (∀ kind : ItemKind, ∃ item ∈ items, ¬ kind.Has item) →
      Typing items (.array items)

section Items

variable {first : Json} {rest : List Json} {kind : ItemKind}

/-- A first item of one kind misses the other kinds. -/
theorem missed_of_leads (leads : kind.Has first) (missed : ∃ item ∈ first :: rest, ¬ kind.Has item)
    (other : ItemKind) : ∃ item ∈ first :: rest, ¬ other.Has item := by
  by_cases same : other.Has first
  · obtain rfl := ItemKind.has_unique leads same
    exact missed
  · exact ⟨first, List.mem_cons_self .., same⟩

/-- The first item decides on a kind, and any later item of another kind revokes it. -/
theorem typing_of_leads (kind : ItemKind) {A : Type} {take : Json → Option A} {make : A → Json}
    (inverse : ∀ item value, take item = some value ↔ item = make value)
    (has : ∀ item, kind.Has item ↔ ∃ value, item = make value) {typed : List A → Translated}
    (typing : ∀ value values, Typing ((value :: values).map make) (typed (value :: values)))
    (leads : kind.Has first) :
    Typing (first :: rest)
      ((((first :: rest).mapM take).map typed).getD (.array (first :: rest))) := by
  cases found : (first :: rest).mapM take with
  | some values =>
      have made := (mapM_eq_some_iff inverse).mp found
      cases values with
      | nil => cases made
      | cons value values =>
          rw [made]
          exact typing value values
  | none =>
      refine .untyped (missed_of_leads leads (by_contra fun full => ?_))
      have all : ∀ item ∈ first :: rest, item ∈ Set.range make := by
        intro item member
        obtain ⟨value, rfl⟩ := (has item).mp (by_contra fun other => full ⟨item, member, other⟩)
        exact ⟨value, rfl⟩
      obtain ⟨values, made⟩ := (Set.range_list_map make).ge all
      rw [(mapM_eq_some_iff inverse).mpr made.symm] at found
      cases found

/-- The translation of an array types it by its first item. -/
theorem typing_ofItems (items : List Json) : Typing items (Translated.ofItems items) := by
  have other (first : Json) (rest : List Json) (none : ∀ kind : ItemKind, ¬ kind.Has first) :
      Typing (first :: rest) (.array (first :: rest)) :=
    .untyped fun kind => ⟨first, List.mem_cons_self .., none kind⟩
  cases items with
  | nil => exact .empty
  | cons first rest =>
      cases first with
      | boolean value =>
          exact typing_of_leads .boolean Json.boolean?_eq_some_iff (fun _ => Iff.rfl)
            .booleans ⟨value, rfl⟩
      | number value =>
          exact typing_of_leads .number Json.number?_eq_some_iff (fun _ => Iff.rfl)
            .numbers ⟨value, rfl⟩
      | string value =>
          exact typing_of_leads .string Json.string?_eq_some_iff (fun _ => Iff.rfl)
            .strings ⟨value, rfl⟩
      | null => exact other _ _ fun kind => by cases kind <;> exact nofun
      | array items => exact other _ _ fun kind => by cases kind <;> exact nofun
      | object members => exact other _ _ fun kind => by cases kind <;> exact nofun

end Items

section Results

variable {items : List Json} {result : Translated}

/-- A list made of values of one kind is typed by this kind only. -/
theorem types_iff_of_made (own : ItemKind) {A : Type} {make : A → Json}
    (has : ∀ value, own.Has (make value)) (first : A) (values : List A)
    (types : ∀ kind : ItemKind, kind.Types result ↔ kind = own) (kind : ItemKind) :
    kind.Types result ↔ ((first :: values).map make = [] → kind = .number) ∧
      ∀ item ∈ (first :: values).map make, kind.Has item := by
  rw [types, List.forall_mem_map]
  constructor
  · rintro rfl
    exact ⟨nofun, fun value _ => has value⟩
  · rintro ⟨-, known⟩
    exact ItemKind.has_unique (known first (List.mem_cons_self ..)) (has first)

variable (typing : Typing items result)

include typing

/-- The result is typed by a kind exactly if all items are of it. -/
theorem Typing.types_iff (kind : ItemKind) :
    kind.Types result ↔ (items = [] → kind = .number) ∧ ∀ item ∈ items, kind.Has item := by
  cases typing with
  | empty => cases kind <;> simp [ItemKind.Types]
  | booleans first values =>
      refine types_iff_of_made .boolean (fun value => ⟨value, rfl⟩) first values ?_ kind
      rintro (_ | _ | _) <;> simp [ItemKind.Types]
  | numbers first values =>
      refine types_iff_of_made .number (fun value => ⟨value, rfl⟩) first values ?_ kind
      rintro (_ | _ | _) <;> simp [ItemKind.Types]
  | strings first values =>
      refine types_iff_of_made .string (fun value => ⟨value, rfl⟩) first values ?_ kind
      rintro (_ | _ | _) <;> simp [ItemKind.Types]
  | untyped missed =>
      obtain ⟨item, member, other⟩ := missed kind
      exact ⟨fun typed => absurd typed ItemKind.not_types_array,
        fun known => absurd (known.2 item member) other⟩

/-- A result without a type holds the items as they are. -/
theorem Typing.typed_or_kept : (∃ kind : ItemKind, kind.Types result) ∨ result = .array items := by
  cases typing with
  | empty => exact .inl ⟨.number, [], rfl⟩
  | booleans first values => exact .inl ⟨.boolean, _, rfl⟩
  | numbers first values => exact .inl ⟨.number, _, rfl⟩
  | strings first values => exact .inl ⟨.string, _, rfl⟩
  | untyped => exact .inr rfl

/-- An array without a kind for all of its items is kept as it is. -/
theorem Typing.kept (missed : ∀ kind : ItemKind, ∃ item ∈ items, ¬ kind.Has item) :
    result = .array items := by
  refine typing.typed_or_kept.resolve_left ?_
  rintro ⟨kind, typed⟩
  obtain ⟨item, member, other⟩ := missed kind
  exact other (((typing.types_iff kind).mp typed).2 item member)

end Results

/-- No record is made of a typed array. -/
theorem mixedEvents_typed {items : List Json} {kind : ItemKind}
    (typed : kind.Types (Translated.ofItems items)) : mixedEvents (.array items) = [] := by
  have other (kept : List Json) : Translated.ofItems items ≠ .array kept :=
    fun same => ItemKind.not_types_array (same ▸ typed)
  have none : mixedFirst? (.array items) = none := by
    unfold mixedFirst?
    split
    · next found => exact absurd found (other _)
    · rfl
  rw [mixedEvents, none]
  rfl

/-- A warning is given for an array that is kept though its first item has a kind. -/
theorem mixedEvents_kept {first : Json} {rest : List Json}
    (kept : Translated.ofItems (first :: rest) = .array (first :: rest)) :
    mixedEvents (.array (first :: rest)) =
      if first.isTypable then [.mixedArray first.text] else [] := by
  simp only [mixedEvents, mixedFirst?, Translated.ofJson, kept]
  split <;> rfl

/-- An array is typed exactly if its items have one kind, and then its values are the items in
their order, numbers as the closest doubles. All other arrays are kept, and of these the ones are
recorded that begin as if they were typed. -/
theorem arrays_typed_by_items (items : List Json) :
    let result := Translated.ofJson (.array items)
    let events := mixedEvents (.array items)
    (∀ kind : ItemKind, kind.Types result ↔
      (items = [] → kind = .number) ∧ ∀ item ∈ items, kind.Has item) ∧
    (∀ values, result = .booleans values → items = values.map .boolean) ∧
    (∀ values, result = .strings values → items = values.map .string) ∧
    (∀ values, result = .numbers values → List.Forall₂ (fun item value => ∃ number : Number,
      item = .number number ∧ value = number.toFloat ∧
        (number.Decoded → IsClosest value number.exact)) items values) ∧
    ((∃ kind : ItemKind, ∀ item ∈ items, kind.Has item) → events = []) ∧
    ((∀ kind : ItemKind, ∃ item ∈ items, ¬ kind.Has item) → result = .array items ∧
      ∀ first, items.head? = some first →
        ((∃ kind : ItemKind, kind.Has first) → events = [.mixedArray first.text]) ∧
        ((∀ kind : ItemKind, ¬ kind.Has first) → events = [])) ∧
    ∀ output sentinel, resultValue output sentinel = .ok (.array items) →
      scrape output sentinel = (events, .ok result) := by
  intro result events
  have typing : Typing items result := typing_ofItems items
  refine ⟨typing.types_iff, ?_, ?_, ?_, ?_, ?_, ?_⟩
  · intro values same
    rw [same] at typing
    cases typing
    rfl
  · intro values same
    rw [same] at typing
    cases typing
    rfl
  · intro values same
    rw [same] at typing
    cases typing with
    | empty => exact .nil
    | numbers first values =>
        rw [List.forall₂_map_left_iff, List.forall₂_map_right_iff, List.forall₂_same]
        exact fun number _ => ⟨number, rfl, rfl, Number.isClosest_toFloat⟩
  · rintro ⟨kind, all⟩
    cases items with
    | nil =>
        have typed : ItemKind.number.Types (Translated.ofItems []) := ⟨[], rfl⟩
        exact mixedEvents_typed typed
    | cons first rest => exact mixedEvents_typed ((typing.types_iff kind).mpr ⟨nofun, all⟩)
  · intro missed
    have kept := typing.kept missed
    refine ⟨kept, fun first leads => ?_⟩
    obtain ⟨rest, rfl⟩ := List.head?_eq_some_iff.mp leads
    have recorded : events = if first.isTypable then [.mixedArray first.text] else [] :=
      mixedEvents_kept kept
    refine ⟨fun typable => ?_, fun other => ?_⟩
    · rw [recorded, if_pos ((Json.isTypable_iff first).mpr typable)]
    · have untypable := (Json.isTypable_iff first).not.mpr (not_exists.mpr other)
      rw [recorded, if_neg untypable]
  · intro output sentinel found
    rw [scrape, found]

/-- A last item of another kind keeps all items as they are and is told of, and an integer beyond
64 bits with a sign is a number like any other. -/
theorem arrays_typed_by_items_late :
    let items : List Json := [.ofInt64 1, .string "a"]
    let greatest : Number := .integer 0xFFFFFFFFFFFFFFFF
    scrape ("" ++ resultMarker ++ (Json.array items).text ++ "\n" ++ "log") resultMarker =
        ([.mixedArray "1"], .ok (.array items)) ∧
      Translated.ofJson (.array [.number greatest]) = .numbers [greatest.toFloat] ∧
      IsClosest greatest.toFloat greatest.exact := by
  intro items greatest
  have plain : (Json.array items).Plain Json.depthLimit :=
    .array (List.forall_mem_cons.mpr ⟨.integer 1,
      List.forall_mem_cons.mpr ⟨.string "a", List.forall_mem_nil _⟩⟩)
  have carries :=
    carries_text (by decide) solid_resultMarker.not_beginsLine_empty (.array items) "log"
  have found : resultValue ("" ++ resultMarker ++ (Json.array items).text ++ "\n" ++ "log")
      resultMarker = .ok (.array items) := by
    have read := Json.ofText_text plain
    have filled : (Json.array items).text ≠ "" := by
      intro empty
      rw [empty] at read
      cases read
    rw [resultValue_carries solid_resultMarker carries, if_neg filled, read]
    rfl
  obtain ⟨-, -, -, -, -, kept, scraped⟩ := arrays_typed_by_items items
  have missed : ∀ kind : ItemKind, ∃ item ∈ items, ¬ kind.Has item := by
    rintro (_ | _ | _)
    · exact ⟨.string "a", by simp [items], nofun⟩
    · exact ⟨.string "a", by simp [items], nofun⟩
    · exact ⟨.ofInt64 1, by simp [items], nofun⟩
  obtain ⟨untyped, told⟩ := kept missed
  obtain ⟨types, -, -, numbers, -⟩ := arrays_typed_by_items [.number greatest]
  obtain ⟨values, typed⟩ := (types .number).mpr ⟨nofun, by simp [ItemKind.Has]⟩
  have decoded : greatest.Decoded := by
    change _ ∧ _
    decide
  have one : Json.text (.ofInt64 1) = "1" := rfl
  cases numbers values typed with
  | cons known none =>
      obtain ⟨number, same, rfl, closest⟩ := known
      cases none
      cases same
      refine ⟨?_, typed, closest decoded⟩
      rw [scraped _ _ found, untyped, (told (.ofInt64 1) rfl).1 ⟨.number, _, rfl⟩, one]

end HostBridge
