import Ranging.Text.Hex

/-!
# Machine numbers by their bits

No decimal text of a machine number is both short and the same everywhere, so
a number is written by the sixteen hexadecimal digits of its binary64 word. All
undefined numbers are written alike.
-/

namespace Ranging

/-- The text of a machine number. -/
def bitsText (x : Float) : String :=
  if x.isNaN then "nan" else "0x" ++ String.ofList (hexDigits 16 x.toBits.toNat)

/-- The machine number that a text stands for. -/
def ofBitsText? (text : String) : Option Float :=
  match text.toList with
  | ['n', 'a', 'n'] => some (Float.ofBits 0x7ff8000000000000)
  | '0' :: 'x' :: digits =>
      if digits.length = 16 then (hexNumber? digits).map fun n => Float.ofBits (UInt64.ofNat n)
      else none
  | _ => none

end Ranging
