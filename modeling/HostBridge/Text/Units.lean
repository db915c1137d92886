/-
This file holds texts as sequences of 16-bit code units, which may hold lone surrogates.
-/

namespace HostBridge.Text

def isHighSurrogate (unit : UInt16) : Bool := 0xD800 ≤ unit && unit ≤ 0xDBFF

def isLowSurrogate (unit : UInt16) : Bool := 0xDC00 ≤ unit && unit ≤ 0xDFFF

/-- A character above U+FFFF takes a high and a low surrogate. -/
def charUnits (c : Char) : List UInt16 :=
  let code := c.toNat
  if code < 0x10000 then [code.toUInt16]
  else [(0xD800 + (code - 0x10000) / 0x400).toUInt16, (0xDC00 + (code - 0x10000) % 0x400).toUInt16]

def units (text : String) : List UInt16 := text.toList.flatMap charUnits

/-- The character of a pair of surrogates. -/
def pairedChar (high low : UInt16) : Char :=
  Char.ofNat (0x10000 + (high.toNat - 0xD800) * 0x400 + (low.toNat - 0xDC00))

/-- A stretch of code units is a character or a lone surrogate. -/
def unitSymbols : List UInt16 → List (Char ⊕ UInt16)
  | [] => []
  | [unit] =>
      if isHighSurrogate unit || isLowSurrogate unit then [.inr unit]
      else [.inl (Char.ofNat unit.toNat)]
  | unit :: next :: rest =>
      if isHighSurrogate unit && isLowSurrogate next then
        .inl (pairedChar unit next) :: unitSymbols rest
      else if isHighSurrogate unit || isLowSurrogate unit then
        .inr unit :: unitSymbols (next :: rest)
      else .inl (Char.ofNat unit.toNat) :: unitSymbols (next :: rest)

/-- The code points of the units. A lone surrogate counts as one. -/
def codePoints (units : List UInt16) : List Nat :=
  (unitSymbols units).map fun symbol =>
    match symbol with
    | .inl c => c.toNat
    | .inr unit => unit.toNat

/-- The units of a code point, which can be a lone surrogate. -/
def codeUnits (code : Nat) : List UInt16 :=
  if code < 0x10000 then [code.toUInt16] else charUnits (Char.ofNat code)

/-- The characters up to a lone surrogate, and whether there is one. -/
def leadingText : List (Char ⊕ UInt16) → List Char × Bool
  | [] => ([], false)
  | .inl c :: rest =>
      let (text, broken) := leadingText rest
      (c :: text, broken)
  | .inr _ :: _ => ([], true)

/-- The text of the units, or the characters before the first lone surrogate. -/
def textOfUnits (units : List UInt16) : Except (List Char) String :=
  match leadingText (unitSymbols units) with
  | (text, false) => .ok (String.ofList text)
  | (text, true) => .error text

end HostBridge.Text
