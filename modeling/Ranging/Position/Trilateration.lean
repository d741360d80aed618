import Ranging.Position.Basic
import Ranging.Position.Grid
import Ranging.Position.Quad

/-!
# Trilateration

A measurement of the distance `d` to a known point `a` says that the position
`p` satisfies `|p - a|² = d²`, which is `|p|² - 2 a·p = d² - |a|²`. With `|p|²`
taken as an unknown of its own, four measurements are four linear equations for
four unknowns. They have one solution unless the four known points lie in one
plane.

If the measurements fit together, the first unknown is the squared norm of the
position found. By how much it is not is the error of the fix.
-/

namespace Ranging

namespace Trilateration

/-- The coefficients of the four equations. -/
def coefficients {F : Type} [Scalar F] (measurements : Quad (Measurement F)) : Grid 4 F :=
  fun row column =>
    let anchor := (measurements.get row).anchor
    match column with
    | 0 => Scalar.ofInt 1
    | 1 => Scalar.ofInt (-2) * anchor.x
    | 2 => Scalar.ofInt (-2) * anchor.y
    | 3 => Scalar.ofInt (-2) * anchor.z

/-- The right-hand sides of the four equations. -/
def constants {F : Type} [Scalar F] (measurements : Quad (Measurement F)) : Quad F :=
  measurements.map fun measurement =>
    measurement.distance * measurement.distance - measurement.anchor.normSquared

/-- The fix that a solution of the equations stands for. -/
def fixOfSolution {F : Type} [Scalar F] (solution : Quad F) : Fix F :=
  let pos : Position F := ⟨solution.second, solution.third, solution.fourth⟩
  ⟨pos, Scalar.abs (solution.first - pos.normSquared)⟩

/-- The position that is consistent with four measurements, unless the known
points lie in one plane. -/
def locate? {F : Type} [Scalar F] (measurements : Quad (Measurement F)) : Option (Fix F) :=
  let A := coefficients measurements
  if Scalar.isZero A.luDeterminant then none
  else A.inverse?.map fun inverse => fixOfSolution (inverse.mulColumn (constants measurements))

end Trilateration

end Ranging
