/-
This file brings texts into the normal forms of Unicode, in which characters are taken apart or put
together. Texts are sequences of code points.
-/
import HostBridge.Text.Hex
import HostBridge.Text.Mark
import HostBridge.Text.PartTable
import Std.Data.HashMap

namespace HostBridge.Text

structure NormalForm where
  /-- Parts that do not keep the look of a character count too. -/
  isLossy : Bool
  /-- Characters are put together after they are taken apart. -/
  isComposed : Bool
deriving DecidableEq

/-- The name of a normal form. -/
def NormalForm.name (form : NormalForm) : String :=
  "NF" ++ (if form.isLossy then "K" else "") ++ if form.isComposed then "C" else "D"

def NormalForm.all : List NormalForm := [⟨false, true⟩, ⟨false, false⟩, ⟨true, true⟩, ⟨true, false⟩]

def NormalForm.ofName? (name : String) : Option NormalForm :=
  NormalForm.all.find? fun form => form.name = name

def codeOfHex (digits : String) : Nat :=
  digits.toList.foldl (fun value c => value * 16 + (hexValue? c).getD 0) 0

abbrev PartMap := Std.HashMap Nat (List Nat)

/-- Adds the characters of a row, whose code points go on from the one that is given. -/
def PartMap.addFrom (parts : PartMap) (code : Nat) : List String → PartMap
  | [] => parts
  | "-" :: rest => parts.addFrom (code + 1) rest
  | entry :: rest =>
      PartMap.addFrom (parts.insert code ((entry.splitOn ".").map codeOfHex)) (code + 1) rest

def PartMap.addRow (parts : PartMap) (row : String) : PartMap :=
  match row.splitOn " " with
  | first :: entries => parts.addFrom (codeOfHex first) entries
  | [] => parts

def sameMap : PartMap := sameParts.foldl PartMap.addRow ∅

def similarMap : PartMap := similarParts.foldl PartMap.addRow ∅

/-- The characters that pairs of characters make. -/
def pairMap : Std.HashMap (Nat × Nat) Nat :=
  sameMap.fold (fun pairs code parts =>
    match parts with
    | [first, second] => if staysParted code then pairs else pairs.insert (first, second) code
    | _ => pairs) ∅

/-- The Korean syllables. -/
def firstSyllable : Nat := 0xAC00

/-- The leading consonants, the vowels and the trailing consonants of Korean syllables. There is one
more way to end a syllable, which is no consonant at all. -/
def leadCount : Nat := 19

def vowelCount : Nat := 21

def tailCount : Nat := 28

def firstLead : Nat := 0x1100

def firstVowel : Nat := 0x1161

/-- The code point before the first trailing consonant. -/
def beforeTails : Nat := 0x11A7

/-- The letters of a Korean syllable. -/
def syllableParts? (code : Nat) : Option (List Nat) :=
  let index := code - firstSyllable
  if code < firstSyllable || leadCount * vowelCount * tailCount ≤ index then none
  else
    let letters := [firstLead + index / (vowelCount * tailCount),
      firstVowel + index / tailCount % vowelCount]
    if index % tailCount = 0 then some letters
    else some (letters ++ [beforeTails + index % tailCount])

/-- The parts of a character, which may have parts themselves. -/
def partsOf? (isLossy : Bool) (code : Nat) : Option (List Nat) :=
  if code < 0xA0 then none
  else
    match syllableParts? code with
    | some letters => some letters
    | none => (sameMap[code]?).or (if isLossy then similarMap[code]? else none)

/-- Takes a character apart. The first argument bounds how often parts have parts. -/
def takeApart (isLossy : Bool) : Nat → Nat → List Nat
  | 0, code => [code]
  | bound + 1, code =>
      match partsOf? isLossy code with
      | some parts => parts.flatMap (takeApart isLossy bound)
      | none => [code]

/-- No character has parts in more steps. -/
def deepestParts : Nat := 8

/-- Puts a mark behind others, the last of which comes first. Marks of higher classes follow it. -/
def putMark (code : Nat) : List Nat → List Nat
  | [] => [code]
  | last :: before =>
      if markClass code < markClass last then last :: putMark code before
      else code :: last :: before

/-- Brings the marks of every character into the order of their classes. -/
def orderMarks (codes : List Nat) : List Nat :=
  (codes.foldl (fun before code =>
    if markClass code = 0 then code :: before else putMark code before) []).reverse

/-- The Korean syllable that a pair makes. -/
def syllable? (first second : Nat) : Option Nat :=
  let isVowel := firstVowel ≤ second && second < firstVowel + vowelCount
  let isTail := beforeTails < second && second < beforeTails + tailCount
  let index := first - firstSyllable
  if firstLead ≤ first && first < firstLead + leadCount && isVowel then
    some (firstSyllable +
      ((first - firstLead) * vowelCount + (second - firstVowel)) * tailCount)
  else if firstSyllable ≤ first && index < leadCount * vowelCount * tailCount &&
      index % tailCount = 0 && isTail then some (first + (second - beforeTails))
  else none

/-- The character that a pair makes. -/
def pairCode? (first second : Nat) : Option Nat :=
  (syllable? first second).or pairMap[(first, second)]?

/-- A text that is put together: what is finished, the character that later ones may join, and the
marks behind it. The last one comes first in both lists. -/
structure Joining where
  finished : List Nat
  base : Option Nat
  marks : List Nat

def Joining.codes (joining : Joining) : List Nat :=
  joining.marks ++ joining.base.toList ++ joining.finished

/-- A character joins the base before it, unless a mark of its own class or a higher one stands
between them. -/
def Joining.joined? (joining : Joining) (code : Nat) : Option Nat := do
  let base ← joining.base
  let isFree :=
    match joining.marks with
    | [] => true
    | last :: _ => markClass last < markClass code
  if isFree then pairCode? base code else none

def Joining.add (joining : Joining) (code : Nat) : Joining :=
  match joining.joined? code with
  | some base => { joining with base := some base }
  | none =>
      if markClass code = 0 then ⟨joining.codes, some code, []⟩
      else { joining with marks := code :: joining.marks }

def putTogether (codes : List Nat) : List Nat :=
  (codes.foldl Joining.add ⟨[], none, []⟩).codes.reverse

/-- A text in a normal form. -/
def NormalForm.apply (form : NormalForm) (codes : List Nat) : List Nat :=
  let parted := orderMarks (codes.flatMap (takeApart form.isLossy deepestParts))
  if form.isComposed then putTogether parted else parted

end HostBridge.Text
