import Ranging.Json.Value
import Ranging.Number.Bits

/-!
# Writing JSON

A value is written on one line, without blanks. Texts are escaped where JSON
asks for it and only there. A number that is no integer is written by its bits,
as a text.
-/

namespace Ranging

namespace Json

/-- The written form of one character of a text. -/
def escapeChar (c : Char) : List Char :=
  if c = '"' then ['\\', '"']
  else if c = '\\' then ['\\', '\\']
  else if c.toNat < 0x20 then ['\\', 'u'] ++ hexDigits 4 c.toNat
  else [c]

/-- A text as it is written. -/
def writeString (text : String) : String :=
  String.ofList ('"' :: text.toList.flatMap escapeChar ++ ['"'])

mutual

/-- A value as it is written. -/
def Value.write : Value → String
  | .null => "null"
  | .bool true => "true"
  | .bool false => "false"
  | .int n => toString n
  | .float x => writeString (bitsText x)
  | .string text => writeString text
  | .array items => "[" ++ String.intercalate "," (writeItems items) ++ "]"
  | .object members => "\x7b" ++ String.intercalate "," (writeMembers members) ++ "\x7d"

/-- The values of an array as they are written. -/
def writeItems : List Value → List String
  | [] => []
  | item :: rest => item.write :: writeItems rest

/-- The members of an object as they are written. -/
def writeMembers : List (String × Value) → List String
  | [] => []
  | (name, value) :: rest => (writeString name ++ ":" ++ value.write) :: writeMembers rest

end

end Json

end Ranging
