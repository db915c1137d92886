/-
This file reads and writes texts as UTF-8 bytes.
-/

namespace HostBridge.Text

/-- Bytes are no text from an index on: a number of bytes is wrong there, or bytes are missing. -/
structure Utf8Fault where
  index : Nat
  wrong : Option Nat
deriving DecidableEq

def Utf8Fault.message (fault : Utf8Fault) : String :=
  match fault.wrong with
  | some count => s!"invalid utf-8 sequence of {count} bytes from index {fault.index}"
  | none => s!"incomplete utf-8 byte sequence from index {fault.index}"

/-- The range of the second byte narrows so that no text has two encodings, and the surrogates
and the values above the last code point have none. -/
def secondByteRange (first : UInt8) : UInt8 × UInt8 :=
  if first = 0xE0 then (0xA0, 0xBF)
  else if first = 0xED then (0x80, 0x9F)
  else if first = 0xF0 then (0x90, 0xBF)
  else if first = 0xF4 then (0x80, 0x8F)
  else (0x80, 0xBF)

/-- The number of bytes that follow a first byte. -/
def followers? (first : UInt8) : Option Nat :=
  if first < 0x80 then some 0
  else if 0xC2 ≤ first && first ≤ 0xDF then some 1
  else if 0xE0 ≤ first && first ≤ 0xEF then some 2
  else if 0xF0 ≤ first && first ≤ 0xF4 then some 3
  else none

/-- The payload bits of a first byte. -/
def firstBits (first : UInt8) : Nat :=
  if first < 0x80 then first.toNat
  else if first ≤ 0xDF then first.toNat % 32
  else if first ≤ 0xEF then first.toNat % 16
  else first.toNat % 8

/-- The state between two bytes: outside a character, or inside one that still needs bytes. -/
inductive Utf8State where
  | outside
  | inside (code read needed : Nat) (range : UInt8 × UInt8)

/-- Bytes are read one by one; the count is the index of the next byte. -/
def decodeFrom : Utf8State → Nat → List UInt8 → Except Utf8Fault (List Char)
  | .outside, _, [] => .ok []
  | .inside _ read _ _, count, [] => .error ⟨count - read, none⟩
  | .outside, count, byte :: rest =>
      match followers? byte with
      | none => .error ⟨count, some 1⟩
      | some 0 => (decodeFrom .outside (count + 1) rest).map (Char.ofNat byte.toNat :: ·)
      | some (needed + 1) =>
          decodeFrom (.inside (firstBits byte) 1 needed (secondByteRange byte)) (count + 1) rest
  | .inside code read needed range, count, byte :: rest =>
      if range.1 ≤ byte && byte ≤ range.2 then
        let code := code * 64 + byte.toNat % 64
        match needed with
        | 0 => (decodeFrom .outside (count + 1) rest).map (Char.ofNat code :: ·)
        | needed + 1 => decodeFrom (.inside code (read + 1) needed (0x80, 0xBF)) (count + 1) rest
      else .error ⟨count - read, some read⟩

def decodeUtf8 (bytes : List UInt8) : Except Utf8Fault String :=
  (decodeFrom .outside 0 bytes).map String.ofList

def encodeUtf8 (text : String) : List UInt8 :=
  text.toList.flatMap String.utf8EncodeChar

/-- The number of bytes of a text. -/
def byteLength (text : List Char) : Nat :=
  text.foldr (fun c size => c.utf8Size + size) 0

end HostBridge.Text
