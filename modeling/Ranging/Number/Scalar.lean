import Ranging.Number.Reading

/-!
# Scalars

Every formula of ranging and positioning is written once, over a `Scalar`: the
four operations, integers, the absolute value, a test for zero, a comparison
and the reading of a number. The order in which a formula carries out its
operations is part of its definition, since it decides the last bits of the
result over machine numbers.

There are two instances. `Float` is binary64, in which the formulas are run.
`Rat` is exact arithmetic, in which they have the algebraic laws that they are
written for.
-/

namespace Ranging

/-- A number type in which the formulas of this library can be evaluated. -/
class Scalar (F : Type) extends Add F, Sub F, Mul F, Div F, Neg F where
  /-- The number nearest to an integer. -/
  ofInt : Int → F
  /-- The absolute value. -/
  abs : F → F
  /-- Whether a number equals zero. Of machine numbers both zeros do, an
  undefined number does not. -/
  isZero : F → Bool
  /-- Whether the first number is less than the second. No comparison with an
  undefined number holds. -/
  less : F → F → Bool
  /-- The value that a number stands for. -/
  reading : F → Reading

namespace Scalar

/-- The number nearest to a natural number. -/
def ofNat {F : Type} [Scalar F] (n : Nat) : F := ofInt n

instance : Scalar Float where
  ofInt := Float.ofInt
  abs := Float.abs
  isZero x := x == Float.ofInt 0
  less x y := decide (x < y)
  reading x := Reading.ofBits x.toBits

instance : Scalar Rat where
  ofInt n := n
  abs := Rat.abs
  isZero x := decide (x = 0)
  less x y := decide (x < y)
  reading := .finite

@[simp] theorem ofInt_rat (n : Int) : (ofInt n : Rat) = n := rfl

@[simp] theorem ofNat_rat (n : Nat) : (ofNat n : Rat) = n := Rat.intCast_natCast n

@[simp] theorem reading_rat (x : Rat) : reading x = .finite x := rfl

@[simp] theorem isZero_rat (x : Rat) : isZero x = decide (x = 0) := rfl

@[simp] theorem less_rat (x y : Rat) : less x y = decide (x < y) := rfl

end Scalar

end Ranging
