import Ranging.Number.Scalar

/-!
# Positions

Points of the deployment's coordinate frame, in metres, and what is known about
them: an anchor is a node at a known point, a measurement is the distance to
such a point, and a fix is a point found from measurements.
-/

namespace Ranging

/-- A point, in metres. -/
structure Position (F : Type) where
  x : F
  y : F
  z : F
deriving DecidableEq

namespace Position

/-- The origin of the coordinate frame. -/
def origin {F : Type} [Scalar F] : Position F :=
  ⟨Scalar.ofInt 0, Scalar.ofInt 0, Scalar.ofInt 0⟩

/-- The squared distance from the origin. -/
def normSquared {F : Type} [Scalar F] (p : Position F) : F :=
  p.x * p.x + p.y * p.y + p.z * p.z

/-- The squared distance between two points. -/
def distanceSquared {F : Type} [Scalar F] (p q : Position F) : F :=
  normSquared ⟨p.x - q.x, p.y - q.y, p.z - q.z⟩

end Position

/-- A node at a known point. -/
structure Anchor (F : Type) where
  addr : UInt16
  /-- The point at which it is installed. -/
  pos : Position F
deriving DecidableEq

/-- The distance to a known point. -/
structure Measurement (F : Type) where
  /-- The known point. -/
  anchor : Position F
  /-- The distance, in metres. -/
  distance : F
deriving DecidableEq

/-- A point found from measurements. -/
structure Fix (F : Type) where
  pos : Position F
  /-- By how much the measurements disagree. It is zero if all of them fit the
  point, and is no distance. -/
  error : F
deriving DecidableEq

end Ranging
