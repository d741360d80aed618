/-!
# Exact readings of numbers

A `Reading` is the value that a number of some arithmetic stands for: a
rational, one of the two infinities, or no value at all. `Reading.ofBits`
reads a binary64 word, so that a comparison or a rounding of machine numbers
can be carried out on rationals, where its laws hold without exception.

Readings are ordered by value, the infinities at the ends and the absent value
last. The order is total and transitive on all readings; the two zeros of
binary64 have one reading, so it does not tell them apart.
-/

namespace Ranging

/-- The value that a number stands for. -/
inductive Reading where
  /-- Below every rational. -/
  | negInfinity
  /-- A rational value. -/
  | finite (value : Rat)
  /-- Above every rational. -/
  | posInfinity
  /-- No value: the result of an invalid operation. -/
  | undefined
deriving DecidableEq

namespace Reading

/-- The order of readings: by value, the absent value last. -/
def le : Reading → Reading → Bool
  | .negInfinity, _ => true
  | .finite _, .negInfinity => false
  | .finite p, .finite q => decide (p ≤ q)
  | .finite _, _ => true
  | .posInfinity, .posInfinity => true
  | .posInfinity, .undefined => true
  | .posInfinity, _ => false
  | .undefined, .undefined => true
  | .undefined, _ => false

@[simp] theorem le_finite (p q : Rat) : le (.finite p) (.finite q) = decide (p ≤ q) := rfl

theorem le_total (x y : Reading) : (le x y || le y x) = true := by
  cases x <;> cases y <;> simp [le, Rat.le_total]

theorem le_trans (x y z : Reading) (hxy : le x y = true) (hyz : le y z = true) :
    le x z = true := by
  cases x <;> cases y <;> simp_all [le] <;> cases z <;> simp_all
  exact Rat.le_trans hxy hyz

theorem le_antisymm (x y : Reading) (hxy : le x y = true) (hyx : le y x = true) : x = y := by
  cases x <;> cases y <;> simp_all [le]
  exact Rat.le_antisymm hxy hyx

/-- The exponent field of a binary64 word. -/
def exponentField (bits : UInt64) : Nat :=
  bits.toNat / 0x10000000000000 % 0x800

/-- The fraction field of a binary64 word. -/
def fractionField (bits : UInt64) : Nat :=
  bits.toNat % 0x10000000000000

/-- Whether the sign of a binary64 word is minus. -/
def signField (bits : UInt64) : Bool :=
  decide (0x8000000000000000 ≤ bits.toNat)

/-- The significand of a finite binary64 word as a whole number: the fraction,
with the implicit leading bit of a normal number put back. -/
def significand (bits : UInt64) : Nat :=
  if exponentField bits = 0 then fractionField bits else 0x10000000000000 + fractionField bits

/-- The absolute value of a finite binary64 word. The least exponent is that of
the subnormal numbers, which the smallest normal numbers share. -/
def magnitude (bits : UInt64) : Rat :=
  mkRat (significand bits <<< max (exponentField bits) 1 : Nat) (1 <<< 1075)

/-- The reading of a binary64 word. -/
def ofBits (bits : UInt64) : Reading :=
  if exponentField bits = 0x7ff then
    if fractionField bits ≠ 0 then .undefined
    else if signField bits then .negInfinity
    else .posInfinity
  else if signField bits then .finite (-magnitude bits)
  else .finite (magnitude bits)

end Reading

end Ranging
