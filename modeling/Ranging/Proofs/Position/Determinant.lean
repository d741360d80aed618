import Mathlib.LinearAlgebra.Matrix.Adjugate
import Mathlib.LinearAlgebra.Matrix.NonsingularInverse
import Ranging.Position.Grid

/-!
# Elimination computes the determinant

Over exact numbers the product of the pivots is the determinant of the grid. A
grid whose first column holds no pivot has the determinant zero. Otherwise the
exchange of two rows changes the sign, and the elimination of the first column
leaves a grid whose determinant is that of the whole divided by the pivot.
-/

namespace Ranging

theorem Scalar.abs_rat (x : Rat) : Scalar.abs x = |x| := by
  change Rat.abs x = |x|
  by_cases h : 0 ≤ x
  · rw [Rat.abs_of_nonneg h, abs_of_nonneg h]
  · have hneg : x < 0 := not_le.1 h
    rw [Rat.abs_of_nonpos hneg.le, abs_of_neg hneg]

namespace Grid

open Matrix

/-- The row with the greatest first entry is no worse than any row compared with it. -/
theorem abs_le_abs_foldl_better {n : Nat} (A : Grid (n + 1) Rat) (rows : List (Fin (n + 1)))
    (best : Fin (n + 1)) (row : Fin (n + 1)) (h : row = best ∨ row ∈ rows) :
    |A row 0| ≤ |A (rows.foldl
      (fun best row =>
        if Scalar.less (Scalar.abs (A best 0)) (Scalar.abs (A row 0)) then row else best)
      best) 0| := by
  induction rows generalizing best row with
  | nil =>
      rcases h with rfl | h
      · exact le_refl _
      · exact absurd h List.not_mem_nil
  | cons next rows ih =>
      rw [List.foldl_cons]
      simp only [Scalar.less_rat, Scalar.abs_rat, decide_eq_true_eq] at ih ⊢
      by_cases hlt : |A best 0| < |A next 0|
      · rw [if_pos hlt]
        rcases h with rfl | h
        · exact hlt.le.trans (ih next next (.inl rfl))
        · exact ih next row (List.mem_cons.1 h)
      · rw [if_neg hlt]
        rcases h with rfl | h
        · exact ih row row (.inl rfl)
        · rcases List.mem_cons.1 h with rfl | h
          · exact (not_lt.1 hlt).trans (ih best best (.inl rfl))
          · exact ih best row (.inr h)

/-- No entry of the first column is greater than that of the pivot row. -/
theorem abs_le_abs_pivotRow {n : Nat} (A : Grid (n + 1) Rat) (row : Fin (n + 1)) :
    |A row 0| ≤ |A (pivotRow A) 0| :=
  abs_le_abs_foldl_better A (List.finRange (n + 1)) 0 row (.inr (List.mem_finRange row))

/-- Without a pivot the first column is zero. -/
theorem eq_zero_of_pivot_eq_zero {n : Nat} (A : Grid (n + 1) Rat) (h : A (pivotRow A) 0 = 0)
    (row : Fin (n + 1)) : A row 0 = 0 := by
  have hle := abs_le_abs_pivotRow A row
  rw [h, abs_zero] at hle
  exact abs_nonpos_iff.1 hle

/-- Exchanging the first row with another one changes the sign. -/
theorem det_swapFirst {n : Nat} (A : Grid (n + 1) Rat) (p : Fin (n + 1)) :
    det (of (swapFirst A p)) = (if p = 0 then 1 else -1) * det (of A) := by
  have hswap : of (swapFirst A p) = (of A).submatrix (Equiv.swap 0 p) id := by
    ext row column
    rw [of_apply, submatrix_apply, of_apply, swapFirst, Equiv.swap_apply_def]
    split
    · rfl
    · split
      · rfl
      · rfl
  rw [hswap, det_permute]
  by_cases h : p = 0
  · rw [h, Equiv.swap_self, Equiv.Perm.sign_refl]
    simp
  · rw [Equiv.Perm.sign_swap (Ne.symm h), if_neg h]
    simp

/-- The elimination of the first column takes the pivot out of the determinant. -/
theorem det_eq_mul_det_eliminated {n : Nat} (A : Grid (n + 1) Rat) (h : A 0 0 ≠ 0) :
    det (of A) = A 0 0 * det (of (eliminated A)) := by
  let factor : Fin (n + 1) → Rat := fun row => if row = 0 then 0 else -(A row 0 / A 0 0)
  let B : Matrix (Fin (n + 1)) (Fin (n + 1)) Rat :=
    of fun row column => A row column + factor row * A 0 column
  have hfactor : ∀ row : Fin n, factor row.succ = -(A row.succ 0 / A 0 0) :=
    fun row => if_neg (Fin.succ_ne_zero row)
  have hdet : det B = det (of A) :=
    det_eq_of_forall_row_eq_smul_add_const factor 0 (if_pos rfl) fun _ _ => rfl
  have hfirst : B 0 0 = A 0 0 := by
    simp [B, factor]
  have hbelow : ∀ row : Fin n, B row.succ 0 = 0 := by
    intro row
    simp only [B, of_apply, hfactor]
    field_simp
    ring
  have hminor : B.submatrix Fin.succ Fin.succ = of (eliminated A) := by
    ext row column
    simp only [B, submatrix_apply, of_apply, hfactor, eliminated, Scalar.ofInt_rat, Int.cast_one]
    ring
  rw [← hdet, det_succ_column_zero, Fin.sum_univ_succ, hfirst]
  simp only [hbelow, mul_zero, zero_mul, Finset.sum_const_zero, add_zero, Fin.val_zero, pow_zero,
    one_mul, Fin.succAbove_zero, hminor]

/-- The pivots multiply up to the determinant. -/
theorem multiplyPivots_eq {n : Nat} (A : Grid n Rat) (product : Rat) (sign : Int) :
    multiplyPivots n A product sign = product * sign * det (of A) := by
  induction n generalizing product sign with
  | zero =>
      rw [multiplyPivots, det_fin_zero, mul_one, Scalar.ofInt_rat]
  | succ n ih =>
      simp only [multiplyPivots, Scalar.isZero_rat, decide_eq_true_eq]
      by_cases hpivot : A (pivotRow A) 0 = 0
      · have hzero := eq_zero_of_pivot_eq_zero A hpivot
        have hdet : det (of A) = 0 := det_eq_zero_of_column_eq_zero 0 hzero
        rw [if_pos hpivot, ih, hzero 0, hdet]
        ring
      · have hhead : swapFirst A (pivotRow A) 0 0 = A (pivotRow A) 0 := by
          rw [swapFirst, if_pos rfl]
        have hdet := det_swapFirst A (pivotRow A)
        rw [det_eq_mul_det_eliminated _ (hhead ▸ hpivot), hhead] at hdet
        rw [if_neg hpivot, ih]
        by_cases hfirst : pivotRow A = 0
        · rw [if_pos hfirst, one_mul] at hdet
          rw [if_pos hfirst, ← hdet]
          ring
        · rw [if_neg hfirst, neg_one_mul] at hdet
          rw [if_neg hfirst, ← neg_eq_iff_eq_neg.2 hdet, Int.cast_neg]
          ring

theorem luDeterminant_eq_det {n : Nat} (A : Grid n Rat) : luDeterminant A = det (of A) := by
  rw [luDeterminant, multiplyPivots_eq, Scalar.ofInt_rat]
  simp

/-! ## Cofactors and the inverse -/

/-- The cofactors are the entries of the adjugate. -/
theorem cofactor_eq_adjugate (A : Grid 4 Rat) (row column : Fin 4) :
    cofactor A row column = adjugate (of A) row column := by
  have hminor : (of A).submatrix column.succAbove row.succAbove = of (minor A column row) := rfl
  rw [adjugate_fin_succ_eq_det_submatrix, hminor, det_fin_three, cofactor]
  by_cases heven : (row.val + column.val) % 2 = 0
  · have hsign : (-1 : Rat) ^ (column.val + row.val) = 1 := by
      rw [Nat.add_comm, (Nat.even_iff.2 heven).neg_one_pow]
    rw [if_pos heven, hsign]
    simp only [straight, crossed, of_apply]
    ring
  · have hsign : (-1 : Rat) ^ (column.val + row.val) = -1 := by
      rw [Nat.add_comm, (Nat.odd_iff.2 (by omega)).neg_one_pow]
    rw [if_neg heven, hsign]
    simp only [straight, crossed, of_apply]
    ring

theorem cofactorDeterminant_eq_det (A : Grid 4 Rat) : cofactorDeterminant A = det (of A) := by
  rw [det_eq_sum_mul_adjugate_col (of A) 0, Fin.sum_univ_four, cofactorDeterminant]
  simp only [cofactor_eq_adjugate, of_apply]

/-- A grid with a determinant other than zero has an inverse. -/
theorem inverse?_eq_some (A : Grid 4 Rat) (h : det (of A) ≠ 0) :
    inverse? A = some ((of A)⁻¹ : Matrix (Fin 4) (Fin 4) Rat) := by
  have hinverse : (fun row column => cofactor A row column *
      (Scalar.ofInt 1 / cofactorDeterminant A)) = ((of A)⁻¹ : Matrix (Fin 4) (Fin 4) Rat) := by
    ext row column
    rw [cofactor_eq_adjugate, cofactorDeterminant_eq_det, inv_def, Matrix.smul_apply,
      Ring.inverse_eq_inv', smul_eq_mul, Scalar.ofInt_rat, Int.cast_one, one_div, mul_comm]
  rw [inverse?, Scalar.isZero_rat, cofactorDeterminant_eq_det, if_neg (by simpa using h),
    ← hinverse, cofactorDeterminant_eq_det]
  rfl

/-- The product of a grid and a column, entry by entry. -/
theorem get_mulColumn (A : Grid 4 Rat) (b : Quad Rat) (row : Fin 4) :
    (mulColumn A b).get row = (of A *ᵥ b.get) row := by
  rw [mulVec, dotProduct, Fin.sum_univ_four]
  match row with
  | 0 => rfl
  | 1 => rfl
  | 2 => rfl
  | 3 => rfl

end Grid

end Ranging
