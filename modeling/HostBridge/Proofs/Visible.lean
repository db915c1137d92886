/-
This file shows that the text of a JSON value has no control characters and stays on one line.
-/
import HostBridge.Json.Writer
import HostBridge.Proofs.Composition

namespace HostBridge

/-- A text without control characters. -/
def Text.Visible (text : String) : Prop := ∀ c ∈ text.toList, 0x20 ≤ c.toNat

namespace Text

instance (text : String) : Decidable (Visible text) :=
  List.decidableBAll _ text.toList

theorem visible_ite {condition : Prop} [Decidable condition] {first second : String}
    (one : Visible first) (two : Visible second) :
    Visible (if condition then first else second) := by
  split
  · exact one
  · exact two

/-- Visible texts make a visible text. -/
theorem Visible.append {first second : String} (one : Visible first) (two : Visible second) :
    Visible (first ++ second) := by
  intro c member
  rw [String.toList_append] at member
  rcases List.mem_append.mp member with here | there
  · exact one c here
  · exact two c there

/-- Visible texts with visible separators make a visible text. -/
theorem visible_separated {separator : String} {texts : List String} (between : Visible separator)
    (shown : ∀ text ∈ texts, Visible text) : Visible (separated separator texts) := by
  intro c member
  rw [separated, String.toList_intercalate] at member
  rcases mem_intercalate member with inside | ⟨list, known, inside⟩
  · exact between c inside
  · obtain ⟨text, among, rfl⟩ := List.mem_map.mp known
    exact shown text among c inside

theorem visible_digits {digits : List Char} (known : ∀ c ∈ digits, c.isDigit = true) :
    Visible (String.ofList digits) := by
  intro c member
  rw [String.toList_ofList] at member
  have range := known c member
  simp only [Char.isDigit, Bool.and_eq_true, decide_eq_true_eq] at range
  have low : '0'.toNat ≤ c.toNat := range.1
  exact Nat.le_trans (by decide) low

/-- Some of the digits of a number are visible. -/
theorem visible_of_subset_toDigits (value : Nat) {digits : List Char}
    (known : digits ⊆ Nat.toDigits 10 value) : Visible (String.ofList digits) :=
  visible_digits fun _ member => Nat.isDigit_of_mem_toDigits (by decide) le_rfl (known member)

theorem hexDigit_visible (value : Nat) : 0x20 ≤ (hexDigit value).toNat := by
  have checked : ∀ digit < 16, 0x20 ≤ (hexDigit digit).toNat := by decide
  have same : hexDigit value = hexDigit (value % 16) := by simp [hexDigit]
  rw [same]
  exact checked _ (Nat.mod_lt value (by decide))

theorem Quoted.Written.visible {c d : Char} {written : List Char}
    (form : Quoted.Written c written) (member : d ∈ written) : 0x20 ≤ d.toNat := by
  cases form with
  | plain noQuote noBackslash high =>
      obtain rfl := List.mem_singleton.mp member
      exact high
  | mark mark known =>
      simp only [Quoted.marks, List.mem_cons, Prod.mk.injEq, List.not_mem_nil, or_false] at known
      simp only [List.mem_cons, List.not_mem_nil, or_false] at member
      rcases known with ⟨rfl, rfl⟩ | ⟨rfl, rfl⟩ | ⟨rfl, rfl⟩ | ⟨rfl, rfl⟩ | ⟨rfl, rfl⟩ |
        ⟨rfl, rfl⟩ | ⟨rfl, rfl⟩ <;> rcases member with rfl | rfl <;> decide
  | code low =>
      simp only [hexFixed, List.nil_append, List.cons_append, List.mem_cons, List.not_mem_nil,
        or_false] at member
      rcases member with rfl | rfl | rfl | rfl | rfl | rfl
      · decide
      · decide
      all_goals exact hexDigit_visible _

/-- A quoted text is visible, because control characters are escaped. -/
theorem visible_quote (text : String) : Visible (quote text) := by
  intro c member
  rw [quote, String.toList_ofList, Quoted.encode, List.cons_append, List.mem_cons, List.mem_append,
    List.mem_singleton, List.mem_flatMap] at member
  rcases member with rfl | ⟨d, -, inside⟩ | rfl
  · decide
  · exact (Quoted.written_escape d).visible inside
  · decide

end Text

open Text

namespace Decimal

theorem visible_digitText (value : Nat) : Visible (digitText value) :=
  visible_of_subset_toDigits value (List.Subset.refl _)

theorem visible_zeros (count : Nat) : Visible (zeros count) := by
  apply visible_digits
  intro c member
  rw [List.eq_of_mem_replicate member]
  rfl

/-- The text of digits with an exponent is visible. -/
theorem visible_exponential (value : Scientific) : Visible (exponential value) := by
  have first := visible_of_subset_toDigits value.digits (List.take_subset 1 _)
  have others := visible_of_subset_toDigits value.digits (List.drop_subset 1 _)
  have fraction : Visible (if ((Nat.toDigits 10 value.digits).drop 1).isEmpty then "" else
      "." ++ String.ofList ((Nat.toDigits 10 value.digits).drop 1)) :=
    visible_ite (by decide) (Visible.append (by decide) others)
  exact ((first.append fraction).append (visible_ite (by decide) (by decide))).append
    (visible_digitText _)

/-- The text of digits with a point is visible. -/
theorem Layout.visible_positional (layout : Layout) (value : Scientific) :
    Visible (layout.positional value) := by
  have digits := visible_of_subset_toDigits value.digits (List.Subset.refl _)
  have first (count : Nat) := visible_of_subset_toDigits value.digits (List.take_subset count _)
  have others (count : Nat) := visible_of_subset_toDigits value.digits (List.drop_subset count _)
  have whole (count : Nat) : Visible (String.ofList (Nat.toDigits 10 value.digits) ++ zeros count ++
      (if layout.pointed then ".0" else "")) :=
    (digits.append (visible_zeros count)).append (visible_ite (by decide) (by decide))
  have small (count : Nat) : Visible ("0." ++ zeros count ++
      String.ofList (Nat.toDigits 10 value.digits)) :=
    (Visible.append (by decide) (visible_zeros count)).append digits
  exact visible_ite (whole _)
    (visible_ite (((first _).append (by decide)).append (others _)) (small _))

/-- The text of a double is visible. -/
theorem Layout.visible_json (x : Float) : Visible (Layout.json.text x) := by
  have size (value : Scientific) : Visible (Layout.json.size value) :=
    visible_ite (visible_positional _ value) (visible_exponential value)
  have sized : Visible ((if (Dyadic.ofFloat x).negative then "-" else "") ++
      Layout.json.size (Layout.json.digits (Dyadic.ofFloat x))) :=
    (visible_ite (by decide) (by decide)).append (size _)
  exact visible_ite (by decide) (visible_ite (visible_ite (by decide) (by decide))
    (visible_ite (visible_ite (by decide) (by decide)) sized))

end Decimal

/-- The text of an integer is visible. -/
theorem visible_integerText (value : Int) : Visible (integerText value) :=
  (visible_ite (by decide) (by decide)).append (Decimal.visible_digitText _)

theorem Number.visible_text : (value : Number) → Visible value.text
  | .integer value => visible_integerText value
  | .float value => visible_ite (Decimal.Layout.visible_json value) (by decide)

mutual

/-- The text of a value has no control characters, not even those inside its strings. -/
theorem Json.visible_text : (value : Json) → Visible value.text
  | .null => by decide
  | .boolean true => by decide
  | .boolean false => by decide
  | .number value => value.visible_text
  | .string value => visible_quote value
  | .array items =>
      ((by decide : Visible "[").append
        (visible_separated (by decide) (Json.visible_itemTexts items))).append (by decide)
  | .object members =>
      ((by decide : Visible "\x7b").append
        (visible_separated (by decide) (Json.visible_memberTexts members))).append (by decide)

/-- The texts of items are visible. -/
theorem Json.visible_itemTexts : (items : List Json) → ∀ text ∈ Json.itemTexts items, Visible text
  | [] => by simp [Json.itemTexts]
  | item :: rest => by
      rw [Json.itemTexts, List.forall_mem_cons]
      exact ⟨item.visible_text, Json.visible_itemTexts rest⟩

/-- The texts of members are visible. -/
theorem Json.visible_memberTexts :
    (members : List (String × Json)) → ∀ text ∈ Json.memberTexts members, Visible text
  | [] => by simp [Json.memberTexts]
  | (key, value) :: rest => by
      rw [Json.memberTexts, List.forall_mem_cons]
      exact ⟨((visible_quote key).append (by decide)).append value.visible_text,
        Json.visible_memberTexts rest⟩

end

/-- The text of a value has no control character. -/
theorem Json.not_mem_text (value : Json) {c : Char} (control : c.toNat < 0x20) :
    c ∉ value.text.toList := fun member =>
  Nat.not_le.mpr control (value.visible_text c member)

end HostBridge
