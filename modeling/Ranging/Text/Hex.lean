/-!
# Hexadecimal text

Bytes are written as two lower-case hexadecimal digits each, without anything
between them. The digits of either case are read.
-/

namespace Ranging

/-- The digit with a value below sixteen. -/
def hexDigit (n : Nat) : Char :=
  "0123456789abcdef".toList.getD n '0'

def hexValue? (c : Char) : Option Nat :=
  if '0' ≤ c ∧ c ≤ '9' then some (c.toNat - '0'.toNat)
  else if 'a' ≤ c ∧ c ≤ 'f' then some (c.toNat - 'a'.toNat + 10)
  else if 'A' ≤ c ∧ c ≤ 'F' then some (c.toNat - 'A'.toNat + 10)
  else none

/-- The number with the given digits, the highest first. -/
def hexNumber? (digits : List Char) : Option Nat :=
  digits.foldlM (fun n c => (hexValue? c).map (n * 16 + ·)) 0

/-- The lowest digits of a number, the highest of them first. -/
def hexDigits (count n : Nat) : List Char :=
  match count with
  | 0 => []
  | count + 1 => hexDigits count (n / 16) ++ [hexDigit (n % 16)]

@[simp] theorem length_hexDigits (count n : Nat) : (hexDigits count n).length = count := by
  induction count generalizing n with
  | zero => rfl
  | succ count ih => simp [hexDigits, ih]

/-- The text of bytes. -/
def hexOfBytes (bytes : List UInt8) : String :=
  String.ofList (bytes.flatMap fun b => hexDigits 2 b.toNat)

/-- The bytes with the given digits, of which there have to be an even number. -/
def bytesOfDigits? : List Char → Option (List UInt8)
  | [] => some []
  | [_] => none
  | high :: low :: rest => do
      let n ← hexNumber? [high, low]
      let bytes ← bytesOfDigits? rest
      return UInt8.ofNat n :: bytes

/-- The bytes that a text stands for. -/
def bytesOfHex? (text : String) : Option (List UInt8) :=
  bytesOfDigits? text.toList

end Ranging
