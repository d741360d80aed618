import Ranging.Json.Value
import Ranging.Text.Hex

/-!
# Reading JSON

A reader takes what it reads off the head of a list of characters and returns
the rest. Values nest, so the reader of values is given fuel, one unit for each
character of the text. An array or object takes two units, as it does two
characters, and every further item or member takes one, as its comma does, so
the fuel is enough.

A number is an integer if it is written without point and exponent and fits 64
bits, with or without sign. Minus zero is no integer, since an integer does not
keep its sign. A number too large for any machine number is refused.
-/

namespace Ranging

namespace Json

/-- Whether a character may stand between the parts of a text. -/
def isBlank (c : Char) : Bool :=
  c = ' ' || c = '\t' || c = '\n' || c = '\r'

/-- A text without the blanks at its head. -/
def skipBlanks (text : List Char) : List Char :=
  text.dropWhile isBlank

/-- The rest of a text behind a word that it begins with. -/
def after? (word text : List Char) : Option (List Char) :=
  if word.isPrefixOf text then some (text.drop word.length) else none

/-- The code unit written as four digits. -/
def codeUnit? : List Char → Option (Nat × List Char)
  | a :: b :: c :: d :: rest => (hexNumber? [a, b, c, d]).map fun n => (n, rest)
  | _ => none

/-- The character written by its code unit, or by the two halves of a pair. -/
def escapedUnit? (text : List Char) : Option (Char × List Char) := do
  let (high, rest) ← codeUnit? text
  if high < 0xd800 || 0xdfff < high then some (Char.ofNat high, rest)
  else if 0xdc00 ≤ high then none
  else
    let rest ← after? ['\\', 'u'] rest
    let (low, rest) ← codeUnit? rest
    if 0xdc00 ≤ low && low ≤ 0xdfff then
      some (Char.ofNat (0x10000 + (high - 0xd800) * 0x400 + (low - 0xdc00)), rest)
    else none

/-- The character that an escape stands for, behind its backslash. -/
def escaped? : List Char → Option (Char × List Char)
  | '"' :: rest => some ('"', rest)
  | '\\' :: rest => some ('\\', rest)
  | '/' :: rest => some ('/', rest)
  | 'b' :: rest => some ('\x08', rest)
  | 'f' :: rest => some ('\x0c', rest)
  | 'n' :: rest => some ('\n', rest)
  | 'r' :: rest => some ('\r', rest)
  | 't' :: rest => some ('\t', rest)
  | 'u' :: rest => escapedUnit? rest
  | _ => none

/-- The characters of a string up to its closing quote. -/
def stringTail? : Nat → List Char → Option (List Char × List Char)
  | 0, _ => none
  | _ + 1, [] => none
  | _ + 1, '"' :: rest => some ([], rest)
  | fuel + 1, '\\' :: rest => do
      let (c, rest) ← escaped? rest
      let (tail, rest) ← stringTail? fuel rest
      return (c :: tail, rest)
  | fuel + 1, c :: rest =>
      if c.toNat < 0x20 then none
      else do
        let (tail, rest) ← stringTail? fuel rest
        return (c :: tail, rest)

/-- The number with the given decimal digits. -/
def ofDigits (digits : List Char) : Nat :=
  digits.foldl (fun n c => n * 10 + (c.toNat - '0'.toNat)) 0

/-- The digits at the head of a text, of which there has to be one at least. -/
def digits? (text : List Char) : Option (List Char × List Char) :=
  let digits := text.takeWhile Char.isDigit
  if digits.isEmpty then none else some (digits, text.dropWhile Char.isDigit)

/-- The digits before the point: a single zero or digits that begin with no
zero. -/
def wholeDigits? (text : List Char) : Option (List Char × List Char) := do
  let (digits, rest) ← digits? text
  if digits.head? = some '0' && digits.length ≠ 1 then none else some (digits, rest)

/-- The digits behind a point, if there is one. -/
def fraction? : List Char → Option (Option (List Char) × List Char)
  | '.' :: rest => (digits? rest).map fun (digits, rest) => (some digits, rest)
  | text => some (none, text)

/-- An integer with or without a sign. -/
def signedDigits? : List Char → Option (Int × List Char)
  | '-' :: rest => (digits? rest).map fun (digits, rest) => (-(ofDigits digits : Int), rest)
  | '+' :: rest => (digits? rest).map fun (digits, rest) => ((ofDigits digits : Int), rest)
  | text => (digits? text).map fun (digits, rest) => ((ofDigits digits : Int), rest)

/-- The exponent, if there is one. -/
def exponent? (text : List Char) : Option (Option Int × List Char) :=
  match text with
  | 'e' :: rest => (signedDigits? rest).map fun (exponent, rest) => (some exponent, rest)
  | 'E' :: rest => (signedDigits? rest).map fun (exponent, rest) => (some exponent, rest)
  | _ => some (none, text)

/-- The machine number nearest to a decimal number. -/
def nearestFloat (negative : Bool) (mantissa : Nat) (exponent : Int) : Float :=
  let x := Float.ofScientific mantissa (decide (exponent < 0)) exponent.natAbs
  if negative then -x else x

/-- The value of a number that is no integer, unless it is too large. -/
def floatValue? (negative : Bool) (mantissa : Nat) (exponent : Int) : Option Value :=
  let x := nearestFloat negative mantissa exponent
  if x.isFinite then some (.float x) else none

/-- The value of a number written as an integer. -/
def integerValue? (negative : Bool) (n : Nat) : Option Value :=
  if negative then
    if n = 0 || 0x8000000000000000 < n then floatValue? true n 0 else some (.int (-(n : Int)))
  else if n < UInt64.size then some (.int n)
  else floatValue? false n 0

/-- The number at the head of a text. -/
def number? (text : List Char) : Option (Value × List Char) := do
  let negative := text.head? = some '-'
  let (whole, rest) ← wholeDigits? (if negative then text.tail else text)
  let (fraction, rest) ← fraction? rest
  let (exponent, rest) ← exponent? rest
  let value ←
    if fraction.isNone && exponent.isNone then integerValue? negative (ofDigits whole)
    else
      floatValue? negative (ofDigits (whole ++ fraction.getD []))
        (exponent.getD 0 - (fraction.getD []).length)
  return (value, rest)

mutual

/-- The value at the head of a text. -/
def value? : Nat → List Char → Option (Value × List Char)
  | 0, _ => none
  | fuel + 1, text =>
      match skipBlanks text with
      | 'n' :: rest => (after? ['u', 'l', 'l'] rest).map fun rest => (.null, rest)
      | 't' :: rest => (after? ['r', 'u', 'e'] rest).map fun rest => (.bool true, rest)
      | 'f' :: rest => (after? ['a', 'l', 's', 'e'] rest).map fun rest => (.bool false, rest)
      | '"' :: rest =>
          (stringTail? (rest.length + 1) rest).map fun (chars, rest) =>
            (.string (String.ofList chars), rest)
      | '[' :: rest =>
          match skipBlanks rest with
          | ']' :: rest => some (.array [], rest)
          | rest => (items? fuel rest).map fun (items, rest) => (.array items, rest)
      | '\x7b' :: rest =>
          match skipBlanks rest with
          | '\x7d' :: rest => some (.object [], rest)
          | rest => (members? fuel [] rest).map fun (members, rest) => (.object members, rest)
      | text => number? text

/-- The values of an array up to its closing bracket. -/
def items? : Nat → List Char → Option (List Value × List Char)
  | 0, _ => none
  | fuel + 1, text => do
      let (item, rest) ← value? fuel text
      match skipBlanks rest with
      | ',' :: rest => do
          let (items, rest) ← items? fuel rest
          return (item :: items, rest)
      | ']' :: rest => return ([item], rest)
      | _ => none

/-- The members of an object up to its closing brace, after those before. -/
def members? : Nat → List (String × Value) → List Char →
    Option (List (String × Value) × List Char)
  | 0, _, _ => none
  | fuel + 1, before, text =>
      match skipBlanks text with
      | '"' :: rest => do
          let (name, rest) ← stringTail? (rest.length + 1) rest
          let rest ← after? [':'] (skipBlanks rest)
          let (value, rest) ← value? fuel rest
          let members := Value.put (String.ofList name) value before
          match skipBlanks rest with
          | ',' :: rest => members? fuel members rest
          | '\x7d' :: rest => return (members, rest)
          | _ => none
      | _ => none

end

/-- The value that a text stands for, with nothing but blanks around it. -/
def parse? (text : String) : Option Value := do
  let chars := text.toList
  let (value, rest) ← value? (chars.length + 1) chars
  if (skipBlanks rest).isEmpty then some value else none

end Json

end Ranging
