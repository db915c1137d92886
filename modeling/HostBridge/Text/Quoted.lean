/-
This file writes a text as a string literal in double quotes.
-/
import HostBridge.Text.Hex

namespace HostBridge.Text

/-- Quotes, backslashes and controls are escaped and nothing else is. -/
def Quoted.escape (c : Char) : List Char :=
  if c = '"' then ['\\', '"']
  else if c = '\\' then ['\\', '\\']
  else if c = '\n' then ['\\', 'n']
  else if c = '\r' then ['\\', 'r']
  else if c = '\t' then ['\\', 't']
  else if c.toNat = 0x08 then ['\\', 'b']
  else if c.toNat = 0x0C then ['\\', 'f']
  else if c.toNat < 0x20 then '\\' :: 'u' :: hexFixed 4 c.toNat
  else [c]

def Quoted.encode (text : List Char) : List Char :=
  '"' :: text.flatMap Quoted.escape ++ ['"']

/-- The literal of a text. -/
def quote (text : String) : String := String.ofList (Quoted.encode text.toList)

end HostBridge.Text
