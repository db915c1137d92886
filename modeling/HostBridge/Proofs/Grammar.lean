/-
This file defines which texts are JSON, without regard to what a reader makes of them.
-/
import HostBridge.Json.Scanner
import Mathlib.Data.List.TakeWhile

namespace HostBridge.Json

/-- What stands at the beginning of a text, and what is left of the text behind it. -/
abbrev Part := List Char → List Char → Prop

def Blanks : Part := fun text rest =>
  ∃ blanks, (∀ c ∈ blanks, isBlank c = true) ∧ text = blanks ++ rest

/-- One digit or more. -/
structure Digits where
  text : List Char
  filled : text ≠ []
  known : ∀ c ∈ text, Decimal.isDigit c = true

def Digits.zero : Digits := ⟨['0'], by simp, List.all_eq_true.mp rfl⟩

@[simp] theorem Digits.text_zero : Digits.zero.text = ['0'] := rfl

structure Exponent where
  mark : Char
  marks : isExponentMark mark = true
  sign : Option Char
  signs : ∀ c ∈ sign, c = '+' ∨ c = '-'
  digits : Digits

/-- A number literal. Only zero has an integer part that begins with a zero. -/
structure Numeral where
  negative : Bool
  whole : Digits
  plain : whole.text.head? = some '0' → whole.text = ['0']
  fraction : Option Digits
  exponent : Option Exponent

def Exponent.text (exponent : Exponent) : List Char :=
  exponent.mark :: (exponent.sign.toList ++ exponent.digits.text)

def exponentText (exponent : Option Exponent) : List Char := exponent.elim [] Exponent.text

def fractionText (fraction : Option Digits) : List Char :=
  fraction.elim [] fun digits => '.' :: digits.text

def Numeral.unsignedText (numeral : Numeral) : List Char :=
  numeral.whole.text ++ (fractionText numeral.fraction ++ exponentText numeral.exponent)

def Numeral.text (numeral : Numeral) : List Char :=
  (if numeral.negative then ['-'] else []) ++ numeral.unsignedText

/-- The value of four hexadecimal digits. -/
def Hex (value : Nat) : Part := fun text rest =>
  ∃ a b c d, Text.hexFour? [a, b, c, d] = some value ∧ text = a :: b :: c :: d :: rest

/-- The characters of a string up to the quote that closes it. The code is what may follow the
letter of a numeric escape. -/
inductive Characters (code : Part) : Part where
  | close {rest : List Char} : Characters code ('"' :: rest) rest
  | plain {c : Char} {text rest : List Char} : c ≠ '"' → c ≠ '\\' → 0x20 ≤ c.toNat →
      Characters code text rest → Characters code (c :: text) rest
  | escape {c : Char} {text rest : List Char} : (plainEscape? c).isSome →
      Characters code text rest → Characters code ('\\' :: c :: text) rest
  | numeric {text behind rest : List Char} : code text behind →
      Characters code behind rest → Characters code ('\\' :: 'u' :: text) rest

/-- One element or more, with commas between them, up to the bracket that closes them. -/
inductive Elements (element : Part) (close : Char) : Part where
  | last {text start behind rest : List Char} : Blanks text start → element start behind →
      Blanks behind (close :: rest) → Elements element close text rest
  | more {text start behind others rest : List Char} : Blanks text start → element start behind →
      Blanks behind (',' :: others) → Elements element close others rest →
      Elements element close text rest

/-- Elements that each say what they are, with commas between them, up to the bracket that closes
them. -/
inductive Listed {A : Type} (element : A → Part) (close : Char) : List A → Part where
  | last {a : A} {text start behind rest : List Char} : Blanks text start →
      element a start behind → Blanks behind (close :: rest) → Listed element close [a] text rest
  | more {a : A} {others : List A} {text start behind next rest : List Char} :
      Blanks text start → element a start behind → Blanks behind (',' :: next) →
      Listed element close others next rest → Listed element close (a :: others) text rest

def Enclosed (element : Part) (close : Char) : Part := fun text rest =>
  Blanks text (close :: rest) ∨ Elements element close text rest

/-- Which numeric escapes and which numbers may occur. -/
structure Dialect where
  code : Part
  numeral : Numeral → Prop

/-- The whole language: every code unit may be escaped, and numbers have any size. -/
def Dialect.all : Dialect where
  code := fun text rest => ∃ value, Hex value text rest
  numeral := fun _ => True

inductive Scalar (dialect : Dialect) : Part where
  | null {rest : List Char} : Scalar dialect ("null".toList ++ rest) rest
  | true {rest : List Char} : Scalar dialect ("true".toList ++ rest) rest
  | false {rest : List Char} : Scalar dialect ("false".toList ++ rest) rest
  | string {text rest : List Char} : Characters dialect.code text rest →
      Scalar dialect ('"' :: text) rest
  | number {rest : List Char} (numeral : Numeral) : dialect.numeral numeral →
      Scalar dialect (numeral.text ++ rest) rest

inductive Member (code value : Part) : Part where
  | intro {key behind colon start rest : List Char} : Characters code key behind →
      Blanks behind (':' :: colon) → Blanks colon start → value start rest →
      Member code value ('"' :: key) rest

inductive Nest (dialect : Dialect) (value : Part) : Part where
  | array {text rest : List Char} : Enclosed value ']' text rest →
      Nest dialect value ('[' :: text) rest
  | object {text rest : List Char} : Enclosed (Member dialect.code value) '\x7d' text rest →
      Nest dialect value ('\x7b' :: text) rest

/-- A value whose brackets nest at most so deep. -/
def Value (dialect : Dialect) : Nat → Part
  | 0 => Scalar dialect
  | depth + 1 => fun text rest =>
      Scalar dialect text rest ∨ Nest dialect (Value dialect depth) text rest

/-- A value is a scalar or a nest of values with one bracket less around them. -/
theorem value_iff {dialect : Dialect} {depth : Nat} {text rest : List Char} :
    Value dialect depth text rest ↔ Scalar dialect text rest ∨
      ∃ inner, depth = inner + 1 ∧ Nest dialect (Value dialect inner) text rest := by
  cases depth <;> simp [Value]

/-- The text of one value, with blanks around it at most. -/
def IsText (dialect : Dialect) (depth : Nat) (text : List Char) : Prop :=
  ∃ start behind, Blanks text start ∧ Value dialect depth start behind ∧ Blanks behind []

/-- A text of the language, however deep its brackets nest. -/
def IsJson (text : String) : Prop := ∃ depth, IsText .all depth text.toList

/-- A member of an object as a text has it, with the escapes in its key. -/
structure Field where
  key : List Char
  value : List Char

def Field.Stands (depth : Nat) (field : Field) : Part := fun text rest =>
  ∃ behind colon, text = '"' :: (field.key ++ '"' :: behind) ∧
    Characters Dialect.all.code (field.key ++ '"' :: behind) behind ∧
    Blanks behind (':' :: colon) ∧ Blanks colon (field.value ++ rest) ∧
    Value .all depth (field.value ++ rest) rest

/-- The text of one object with these members. -/
def IsObject (text : String) (fields : List Field) : Prop :=
  ∃ depth inside behind, Blanks text.toList ('\x7b' :: inside) ∧
    (fields = [] ∧ Blanks inside ('\x7d' :: behind) ∨
      Listed (Field.Stands depth) '\x7d' fields inside behind) ∧
    Blanks behind []

section Blanks

theorem Blanks.refl (text : List Char) : Blanks text text := ⟨[], by simp, rfl⟩

/-- What is skipped is blank. -/
theorem blanks_skipBlanks (text : List Char) : Blanks text (skipBlanks text) :=
  ⟨text.takeWhile isBlank, fun _ member => List.mem_takeWhile_imp member,
    List.takeWhile_append_dropWhile.symm⟩

/-- Skipping stops at a character that is no blank. -/
theorem isBlank_of_skipBlanks {text rest : List Char} {c : Char}
    (skipped : skipBlanks text = c :: rest) : isBlank c = false := by
  have stopped := List.head?_dropWhile_not isBlank text
  rw [← skipBlanks, skipped] at stopped
  exact stopped

/-- There is nothing left to be skipped. -/
theorem skipBlanks_skipBlanks (text : List Char) :
    skipBlanks (skipBlanks text) = skipBlanks text :=
  List.dropWhile_eq_self_iff.mpr fun filled => List.dropWhile_get_zero_not isBlank text filled

/-- Blanks in front of a text that begins with none are skipped up to it. -/
theorem Blanks.skipped {text rest : List Char} (blanks : Blanks text rest)
    (filled : skipBlanks rest = rest) : skipBlanks text = rest := by
  obtain ⟨before, known, rfl⟩ := blanks
  exact (List.dropWhile_append_of_pos known).trans filled

theorem Blanks.length_le {text rest : List Char} (blanks : Blanks text rest) :
    rest.length ≤ text.length := by
  obtain ⟨before, -, rfl⟩ := blanks
  exact (List.suffix_append before rest).length_le

end Blanks

section Lists

/-- Elements between brackets can be listed. -/
theorem Elements.listed {element : Part} {close : Char} {text rest : List Char}
    (elements : Elements element close text rest) :
    ∃ units, Listed (fun _ : Unit => element) close units text rest := by
  induction elements with
  | last blanks stands ends => exact ⟨[()], .last blanks stands ends⟩
  | more blanks stands comma _ ih =>
      obtain ⟨units, listed⟩ := ih
      exact ⟨() :: units, .more blanks stands comma listed⟩

/-- Listed elements are elements between brackets. -/
theorem Listed.elements {A : Type} {element : A → Part} {close : Char} {all : List A}
    {text rest : List Char} (listed : Listed element close all text rest) (part : Part)
    (forget : ∀ a text rest, element a text rest → part text rest) :
    Elements part close text rest := by
  induction listed with
  | last blanks stands ends => exact .last blanks (forget _ _ _ stands) ends
  | more blanks stands comma _ ih => exact .more blanks (forget _ _ _ stands) comma ih

/-- A field stands as a member of an object. -/
theorem Field.Stands.member {depth : Nat} {field : Field} {text rest : List Char}
    (stands : field.Stands depth text rest) :
    Member Dialect.all.code (Value .all depth) text rest := by
  obtain ⟨behind, colon, rfl, key, mark, blanks, value⟩ := stands
  exact .intro key mark blanks value

theorem Listed.members {depth : Nat} {fields : List Field} {text rest : List Char}
    (listed : Listed (Field.Stands depth) '\x7d' fields text rest) :
    Elements (Member Dialect.all.code (Value .all depth)) '\x7d' text rest :=
  listed.elements _ fun _ _ _ => Field.Stands.member

end Lists

section Wider

/-- Elements of a language are elements of a wider one. -/
theorem Elements.mono {small large : Part} {close : Char}
    (wider : ∀ {text rest}, small text rest → large text rest) {text rest : List Char}
    (elements : Elements small close text rest) : Elements large close text rest := by
  induction elements with
  | last blanks stands ends => exact .last blanks (wider stands) ends
  | more blanks stands comma _ ih => exact .more blanks (wider stands) comma ih

theorem Enclosed.mono {small large : Part} {close : Char}
    (wider : ∀ {text rest}, small text rest → large text rest) {text rest : List Char}
    (enclosed : Enclosed small close text rest) : Enclosed large close text rest :=
  enclosed.imp_right (Elements.mono wider)

/-- Members of a language are members of a wider one. -/
theorem Member.mono {codes moreCodes values moreValues : Part}
    (strings : ∀ {text rest}, Characters codes text rest → Characters moreCodes text rest)
    (wider : ∀ {text rest}, values text rest → moreValues text rest) {text rest : List Char}
    (member : Member codes values text rest) : Member moreCodes moreValues text rest := by
  cases member with
  | intro key colon blanks stands => exact .intro (strings key) colon blanks (wider stands)

variable {small large : Dialect}
  (strings : ∀ {text rest}, Characters small.code text rest → Characters large.code text rest)
  (numbers : ∀ numeral, small.numeral numeral → large.numeral numeral)

include strings numbers

/-- Scalars of a language are scalars of a wider one. -/
theorem Scalar.mono {text rest : List Char} (scalar : Scalar small text rest) :
    Scalar large text rest := by
  cases scalar with
  | null => exact .null
  | true => exact .true
  | false => exact .false
  | string characters => exact .string (strings characters)
  | number numeral known => exact .number numeral (numbers numeral known)

/-- A dialect with more strings and numbers has more values. -/
theorem Value.mono {depth : Nat} {text rest : List Char} (value : Value small depth text rest) :
    Value large depth text rest := by
  induction depth generalizing text rest with
  | zero => exact Scalar.mono strings numbers value
  | succ depth ih =>
      rcases value with scalar | items | members
      · exact .inl (Scalar.mono strings numbers scalar)
      · next items => exact .inr (.array (items.mono ih))
      · next members => exact .inr (.object (members.mono (Member.mono strings ih)))

end Wider

end HostBridge.Json
