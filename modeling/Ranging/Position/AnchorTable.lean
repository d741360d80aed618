import Ranging.Position.Basic
import Ranging.Position.Quad

/-!
# Anchor tables and the nearest anchors

An `AnchorTable` holds all anchors of a deployment. Four are needed to find a
position and a node has room for sixteen; a table has its size checked once.

The anchors to range with are the four nearest to a point. Distances are
compared by the readings of their squares, which is a total order, and anchors
at the same distance keep their order in the table.
-/

namespace Ranging

/-- Why a list of anchors is no table. -/
inductive TableError where
  /-- There are fewer than four anchors. -/
  | tooFewAnchors
  /-- There are more anchors than a node has room for. -/
  | tooManyAnchors
deriving DecidableEq

namespace TableError

/-- The name of a cause. -/
def kind : TableError → String
  | tooFewAnchors => "TooFewAnchors"
  | tooManyAnchors => "TooManyAnchors"

end TableError

/-- The number of anchors that a node has room for. -/
def maxAnchors : Nat := 16

/-- The anchors of a deployment. -/
structure AnchorTable (F : Type) where
  /-- The anchors, in the order of the table. -/
  anchors : List (Anchor F)
  /-- There are enough of them to find a position. -/
  four_le_length : 4 ≤ anchors.length
  /-- A node has room for them. -/
  length_le_max : anchors.length ≤ maxAnchors

namespace AnchorTable

/-- The table of the given anchors, if there are neither too few nor too many. -/
def ofList {F : Type} (anchors : List (Anchor F)) : Except TableError (AnchorTable F) :=
  if few : anchors.length < 4 then .error .tooFewAnchors
  else if many : maxAnchors < anchors.length then .error .tooManyAnchors
  else .ok ⟨anchors, by omega, by omega⟩

/-- The index of the first anchor with an address. -/
def indexOf? {F : Type} (table : AnchorTable F) (addr : UInt16) : Option Nat :=
  table.anchors.findIdx? fun anchor => anchor.addr == addr

/-- The first anchor with an address. -/
def get? {F : Type} (table : AnchorTable F) (addr : UInt16) : Option (Anchor F) :=
  table.anchors.find? fun anchor => anchor.addr == addr

/-- The anchor with an address is the one that stands at its index. -/
theorem get?_eq_bind_indexOf? {F : Type} (table : AnchorTable F) (addr : UInt16) :
    table.get? addr = (table.indexOf? addr).bind fun index => table.anchors[index]? :=
  List.find?_eq_bind_findIdx?_getElem?

end AnchorTable

/-- An anchor in the order of nearness to a point. -/
structure RankedAnchor (F : Type) where
  /-- The reading of the squared distance. -/
  distance : Reading
  index : Nat
  anchor : Anchor F

namespace RankedAnchor

/-- The order of nearness: by distance, then by the place in the table. -/
def le {F : Type} (a b : RankedAnchor F) : Bool :=
  if a.distance = b.distance then decide (a.index ≤ b.index)
  else a.distance.le b.distance

theorem le_total {F : Type} (a b : RankedAnchor F) : (le a b || le b a) = true := by
  unfold le
  by_cases h : a.distance = b.distance
  · simp [h, Nat.le_total]
  · simp only [h, Ne.symm h, if_false]
    exact Reading.le_total a.distance b.distance

theorem le_trans {F : Type} (a b c : RankedAnchor F) (hab : le a b = true)
    (hbc : le b c = true) : le a c = true := by
  unfold le at *
  by_cases h1 : a.distance = b.distance
  · by_cases h2 : b.distance = c.distance
    · simp_all
      omega
    · simp_all
  · by_cases h2 : b.distance = c.distance
    · simp_all
    · have hle : a.distance.le c.distance = true := by
        simp only [h1, h2, if_false] at hab hbc
        exact Reading.le_trans _ _ _ hab hbc
      by_cases h3 : a.distance = c.distance
      · simp only [h1, h2, if_false] at hab hbc
        rw [h3] at hab
        exact absurd (Reading.le_antisymm _ _ hbc hab) h2
      · simp [h3, hle]

end RankedAnchor

namespace AnchorTable

/-- The anchors of a table with their distances to a point. -/
def ranked {F : Type} [Scalar F] (table : AnchorTable F) (point : Position F) :
    List (RankedAnchor F) :=
  table.anchors.mapIdx fun index anchor =>
    ⟨Scalar.reading (anchor.pos.distanceSquared point), index, anchor⟩

@[simp] theorem length_ranked {F : Type} [Scalar F] (table : AnchorTable F) (point : Position F) :
    (table.ranked point).length = table.anchors.length := by
  simp [ranked]

/-- The anchors of a table by their distances to a point, the nearest first. -/
def byDistance {F : Type} [Scalar F] (table : AnchorTable F) (point : Position F) :
    List (RankedAnchor F) :=
  (table.ranked point).mergeSort RankedAnchor.le

@[simp] theorem length_byDistance {F : Type} [Scalar F] (table : AnchorTable F)
    (point : Position F) : (table.byDistance point).length = table.anchors.length := by
  simp [byDistance, List.length_mergeSort]

/-- The four anchors nearest to a point, the nearest first. -/
def nearest {F : Type} [Scalar F] (table : AnchorTable F) (point : Position F) :
    Quad (RankedAnchor F) :=
  Quad.ofList (table.byDistance point) (by
    rw [length_byDistance]
    exact table.four_le_length)

end AnchorTable

end Ranging
