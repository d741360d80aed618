import Ranging.Text.Hidden

/-!
# Quoted text

A text inside a message is written between double quotes. The quote, the
backslash and the common control characters have short escapes; any other
character that does not show on its own is written by its code point. An
apostrophe stands for itself.
-/

namespace Ranging

/-- The written form of one character of a quoted text. -/
def escapeChar (c : Char) : List Char :=
  if c = '\x00' then ['\\', '0']
  else if c = '\t' then ['\\', 't']
  else if c = '\r' then ['\\', 'r']
  else if c = '\n' then ['\\', 'n']
  else if c = '"' then ['\\', '"']
  else if c = '\\' then ['\\', '\\']
  else if isHidden c then ['\\', 'u', '\x7b'] ++ Nat.toDigits 16 c.toNat ++ ['\x7d']
  else [c]

/-- A text between double quotes. -/
def quoted (text : String) : String :=
  String.ofList ('"' :: text.toList.flatMap escapeChar ++ ['"'])

end Ranging
