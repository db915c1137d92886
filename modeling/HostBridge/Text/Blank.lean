/-
This file defines the white space that is trimmed from texts.
-/

namespace HostBridge.Text

/-- The characters with the Unicode property `White_Space`. -/
def isBlank (c : Char) : Bool :=
  let code := c.toNat
  (0x09 ≤ code && code ≤ 0x0D) || code == 0x20 || code == 0x85 || code == 0xA0 ||
    code == 0x1680 || (0x2000 ≤ code && code ≤ 0x200A) || code == 0x2028 ||
    code == 0x2029 || code == 0x202F || code == 0x205F || code == 0x3000

/-- A suffix is dropped while its characters pass the test. -/
def dropEndWhile (test : Char → Bool) : List Char → List Char
  | [] => []
  | c :: rest =>
      match dropEndWhile test rest with
      | [] => if test c then [] else [c]
      | kept => c :: kept

def trim (text : List Char) : List Char :=
  dropEndWhile isBlank (text.dropWhile isBlank)

end HostBridge.Text
