/-
This file writes and reads hexadecimal digits.
-/

namespace HostBridge.Text

def hexDigit (value : Nat) : Char :=
  if value % 16 < 10 then Char.ofNat (48 + value % 16) else Char.ofNat (87 + value % 16)

def hexValue? (c : Char) : Option Nat :=
  if '0' ≤ c && c ≤ '9' then some (c.toNat - 48)
  else if 'a' ≤ c && c ≤ 'f' then some (c.toNat - 87)
  else if 'A' ≤ c && c ≤ 'F' then some (c.toNat - 55)
  else none

/-- A fixed number of digits, the high ones first. -/
def hexFixed : Nat → Nat → List Char
  | 0, _ => []
  | width + 1, value => hexFixed width (value / 16) ++ [hexDigit value]

/-- As many digits as the value needs. -/
def hexText (value : Nat) : List Char :=
  let digits := (hexFixed 8 value).dropWhile (· = '0')
  if digits.isEmpty then ['0'] else digits

/-- The value of four digits at the beginning of a text. -/
def hexFour? : List Char → Option Nat
  | a :: b :: c :: d :: _ => do
      let a ← hexValue? a
      let b ← hexValue? b
      let c ← hexValue? c
      let d ← hexValue? d
      some (((a * 16 + b) * 16 + c) * 16 + d)
  | _ => none

end HostBridge.Text
