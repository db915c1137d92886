/-
This file shows a text in double quotes for a reader, with every invisible character escaped.
-/
import HostBridge.Text.Hex
import HostBridge.Text.Printable

namespace HostBridge.Text

/-- A character as a reader is shown it. -/
def Shown.escape (c : Char) : List Char :=
  if c = '\x00' then ['\\', '0']
  else if c = '\t' then ['\\', 't']
  else if c = '\r' then ['\\', 'r']
  else if c = '\n' then ['\\', 'n']
  else if c = '"' then ['\\', '"']
  else if c = '\\' then ['\\', '\\']
  else if isGraphemeExtend c || !isPrintable c then
    ['\\', 'u', '\x7b'] ++ hexText c.toNat ++ ['\x7d']
  else [c]

/-- A text or a file path in a message. -/
def shown (text : String) : String :=
  String.ofList ('"' :: text.toList.flatMap Shown.escape ++ ['"'])

end HostBridge.Text
