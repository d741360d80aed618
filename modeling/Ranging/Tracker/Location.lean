import Ranging.Position.Basic

/-!
# Locations

A fix is sent downstream as a `Location`: whole millimetres in 16 bits. The
millimetres are the nearest integer, a half going away from zero, and values
that do not fit stop at the ends of the range. An undefined value becomes zero.
-/

namespace Ranging

/-- The integer nearest to a rational, a half going away from zero. -/
def roundHalfAway (q : Rat) : Int :=
  if 0 ≤ q then (q + 1 / 2).floor else -(-q + 1 / 2).floor

/-- The nearest integer of 16 bits. -/
def saturate16 (n : Int) : Int16 :=
  Int16.ofInt (max (-32768) (min n 32767))

namespace Reading

/-- The nearest integer of 16 bits. -/
def round16 : Reading → Int16
  | .negInfinity => saturate16 (-32768)
  | .finite q => saturate16 (roundHalfAway q)
  | .posInfinity => saturate16 32767
  | .undefined => 0

end Reading

/-- A length in metres as whole millimetres. -/
def millimetres {F : Type} [Scalar F] (metres : F) : Int16 :=
  (Scalar.reading (metres * Scalar.ofInt 1000)).round16

/-- A fix as it is sent downstream, in millimetres. -/
structure Location where
  x : Int16
  y : Int16
  z : Int16
  /-- The error of the fix, scaled like a coordinate. -/
  error : Int16
deriving DecidableEq

def Location.ofFix {F : Type} [Scalar F] (fix : Fix F) : Location where
  x := millimetres fix.pos.x
  y := millimetres fix.pos.y
  z := millimetres fix.pos.z
  error := millimetres fix.error

theorem toInt_saturate16 (n : Int) : (saturate16 n).toInt = max (-32768) (min n 32767) := by
  exact Int16.toInt_ofInt_of_le (by omega) (by omega)

end Ranging
