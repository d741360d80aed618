import Ranging.Number.Scalar
import Ranging.Position.Quad

/-!
# Determinants and inverses of small grids

Whether four anchors determine a position is decided by a determinant, and the
position is found with the inverse of the same grid. Over machine numbers both
depend on the order of the operations, so it is fixed here.

`luDeterminant` eliminates column by column, each time with the row whose first
entry is the greatest in absolute value. `cofactor` expands the 3 × 3 minors of
a 4 × 4 grid, and `inverse?` scales the cofactors by the determinant that they
give along the first column.
-/

namespace Ranging

/-- A square grid of numbers, by row and column. -/
abbrev Grid (n : Nat) (F : Type) : Type := Fin n → Fin n → F

namespace Grid

/-- The row whose first entry is the greatest in absolute value, and the first
such row if there are several. -/
def pivotRow {F : Type} [Scalar F] {n : Nat} (A : Grid (n + 1) F) : Fin (n + 1) :=
  let better := fun best row =>
    if Scalar.less (Scalar.abs (A best 0)) (Scalar.abs (A row 0)) then row else best
  (List.finRange (n + 1)).foldl better 0

/-- A grid with its first row and another one exchanged. -/
def swapFirst {F : Type} {n : Nat} (A : Grid (n + 1) F) (p : Fin (n + 1)) : Grid (n + 1) F :=
  fun row => if row = 0 then A p else if row = p then A 0 else A row

/-- What is left of a grid when its first row and its first column are taken
away. -/
def tail {F : Type} {n : Nat} (A : Grid (n + 1) F) : Grid n F :=
  fun row column => A row.succ column.succ

/-- What is left of a grid when its first column has been eliminated with its
first row. -/
def eliminated {F : Type} [Scalar F] {n : Nat} (A : Grid (n + 1) F) : Grid n F :=
  let inverse := Scalar.ofInt 1 / A 0 0
  fun row column => (-A 0 column.succ) * (A row.succ 0 * inverse) + A row.succ column.succ

/-- Multiply a product by the pivots of a grid, and then by the sign of the row
exchanges. A column without a pivot is left as it is. -/
def multiplyPivots {F : Type} [Scalar F] : (n : Nat) → Grid n F → F → Int → F
  | 0, _, product, sign => product * Scalar.ofInt sign
  | n + 1, A, product, sign =>
      let p := pivotRow A
      if Scalar.isZero (A p 0) then multiplyPivots n (tail A) (product * A 0 0) sign
      else
        multiplyPivots n (eliminated (swapFirst A p)) (product * A p 0)
          (if p = 0 then sign else -sign)

/-- The determinant of a grid by elimination. -/
def luDeterminant {F : Type} [Scalar F] {n : Nat} (A : Grid n F) : F :=
  multiplyPivots n A (Scalar.ofInt 1) 1

/-- The index that comes `i`-th when one index is left out. -/
def skip (left : Fin 4) (i : Fin 3) : Fin 4 :=
  if i.castSucc < left then i.castSucc else i.succ

/-- A grid without one row and one column. -/
def minor {F : Type} (A : Grid 4 F) (row column : Fin 4) : Grid 3 F :=
  fun i j => A (skip row i) (skip column j)

/-- The product of an entry of each row, the second row before the third. -/
def straight {F : Type} [Scalar F] (B : Grid 3 F) (i j k : Fin 3) : F :=
  (B 0 i * B 1 j) * B 2 k

/-- The product of an entry of each row, the third row before the second. -/
def crossed {F : Type} [Scalar F] (B : Grid 3 F) (i j k : Fin 3) : F :=
  (B 0 i * B 2 j) * B 1 k

/-- The cofactor that stands at a row and a column of the adjugate: the minor
without that column as row and that row as column, with its sign. The products
are ordered by the column of the factor from the first row. -/
def cofactor {F : Type} [Scalar F] (A : Grid 4 F) (row column : Fin 4) : F :=
  let B := minor A column row
  if (row.val + column.val) % 2 = 0 then
    straight B 0 1 2 - crossed B 0 1 2 - straight B 1 0 2 + crossed B 1 0 2 + straight B 2 0 1 -
      crossed B 2 0 1
  else
    -straight B 0 1 2 + crossed B 0 1 2 + straight B 1 0 2 - crossed B 1 0 2 - straight B 2 0 1 +
      crossed B 2 0 1

/-- The determinant of a grid along its first column. -/
def cofactorDeterminant {F : Type} [Scalar F] (A : Grid 4 F) : F :=
  A 0 0 * cofactor A 0 0 + A 1 0 * cofactor A 0 1 + A 2 0 * cofactor A 0 2 +
    A 3 0 * cofactor A 0 3

/-- The inverse of a grid, unless its determinant is zero. -/
def inverse? {F : Type} [Scalar F] (A : Grid 4 F) : Option (Grid 4 F) :=
  if Scalar.isZero (cofactorDeterminant A) then none
  else
    let scale := Scalar.ofInt 1 / cofactorDeterminant A
    some fun row column => cofactor A row column * scale

/-- The product of a grid and a column. -/
def mulColumn {F : Type} [Scalar F] (A : Grid 4 F) (b : Quad F) : Quad F :=
  let entry := fun row =>
    A row 0 * b.first + A row 1 * b.second + A row 2 * b.third + A row 3 * b.fourth
  ⟨entry 0, entry 1, entry 2, entry 3⟩

end Grid

end Ranging
