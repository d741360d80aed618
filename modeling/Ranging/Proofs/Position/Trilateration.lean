import Mathlib
import Ranging.Position.Trilateration
import Ranging.Proofs.Position.Determinant

/-!
# Trilateration is exact

Over exact numbers a position is found unless the four anchors lie in one plane.
The solution of the linear equations need not fit the measurements, but it is the
one point at which the four of them are off by the same amount, and that amount is
the error of the fix. Measurements that fit a point together are off by nothing
there, so that point is found.
-/

namespace Ranging

/-- By how much the squared distance of a point from an anchor exceeds the measured one. -/
def Measurement.residual (measurement : Measurement Rat) (p : Position Rat) : Rat :=
  p.distanceSquared measurement.anchor - measurement.distance * measurement.distance

namespace Trilateration

open Matrix

/-- The vector from the first anchor to each of the others. -/
def directions (measurements : Quad (Measurement Rat)) : Fin 3 → Fin 3 → Rat :=
  fun i =>
    let origin := measurements.first.anchor
    let anchor := (measurements.get i.succ).anchor
    ![anchor.x - origin.x, anchor.y - origin.y, anchor.z - origin.z]

/-- The unknowns that stand for a point with the given squared norm. -/
def unknowns (norm : Rat) (p : Position Rat) : Quad Rat :=
  ⟨norm, p.x, p.y, p.z⟩

/-- The determinant of the equations is that of the directions, up to a factor. -/
theorem det_coefficients (measurements : Quad (Measurement Rat)) :
    det (of (coefficients measurements)) = -8 * det (of (directions measurements)) := by
  have hfirst : measurements.get 0 = measurements.first := rfl
  have heliminated : of (Grid.eliminated (coefficients measurements)) =
      (-2 : Rat) • of (directions measurements) := by
    ext i j
    rw [Matrix.smul_apply, of_apply, of_apply, Grid.eliminated]
    fin_cases j <;> simp [coefficients, directions, hfirst] <;> ring
  have hpivot : coefficients measurements 0 0 = 1 := rfl
  rw [Grid.det_eq_mul_det_eliminated _ (hpivot ▸ one_ne_zero), hpivot, heliminated, det_smul,
    Fintype.card_fin]
  norm_num

/-- The equations determine the unknowns unless the anchors lie in one plane. -/
theorem det_coefficients_ne_zero_iff (measurements : Quad (Measurement Rat)) :
    det (of (coefficients measurements)) ≠ 0 ↔ LinearIndependent Rat (directions measurements) := by
  have hrows : LinearIndependent Rat (directions measurements) ↔
      IsUnit (of (directions measurements)) := linearIndependent_rows_iff_isUnit
  rw [hrows, isUnit_iff_isUnit_det, isUnit_iff_ne_zero, det_coefficients]
  simp

/-- The left-hand side of an equation. -/
theorem mulVec_coefficients (measurements : Quad (Measurement Rat)) (norm : Rat)
    (p : Position Rat) (i : Fin 4) :
    (of (coefficients measurements) *ᵥ (unknowns norm p).get) i =
      norm - 2 * ((measurements.get i).anchor.x * p.x + (measurements.get i).anchor.y * p.y +
        (measurements.get i).anchor.z * p.z) := by
  have hcoefficients : coefficients measurements i = ![1, -2 * (measurements.get i).anchor.x,
      -2 * (measurements.get i).anchor.y, -2 * (measurements.get i).anchor.z] := by
    ext j
    fin_cases j <;> rfl
  have hunknowns : (unknowns norm p).get = ![norm, p.x, p.y, p.z] := by
    ext j
    fin_cases j <;> rfl
  rw [mulVec, dotProduct, Fin.sum_univ_four, of_apply, of_apply, of_apply, of_apply, hcoefficients,
    hunknowns]
  simp only [cons_val]
  ring

/-- A point solves the equations if it is off by the same amount in all measurements. -/
theorem mulVec_unknowns_eq_iff (measurements : Quad (Measurement Rat)) (norm : Rat)
    (p : Position Rat) :
    of (coefficients measurements) *ᵥ (unknowns norm p).get = (constants measurements).get ↔
      ∀ i, (measurements.get i).residual p = p.normSquared - norm := by
  rw [funext_iff]
  refine forall_congr' fun i => ?_
  have hrow : (measurements.get i).residual p - (p.normSquared - norm) =
      (of (coefficients measurements) *ᵥ (unknowns norm p).get) i -
        (constants measurements).get i := by
    rw [mulVec_coefficients, constants, Quad.get_map, Measurement.residual,
      Position.distanceSquared, Position.normSquared, Position.normSquared, Position.normSquared]
    ring
  rw [← sub_eq_zero, ← hrow, sub_eq_zero]

theorem locate?_eq_none (measurements : Quad (Measurement Rat))
    (h : det (of (coefficients measurements)) = 0) : locate? measurements = none := by
  rw [locate?, Scalar.isZero_rat, Grid.luDeterminant_eq_det, if_pos (by simpa using h)]

/-- What is located is a solution of the equations. -/
theorem exists_solution (measurements : Quad (Measurement Rat))
    (h : det (of (coefficients measurements)) ≠ 0) :
    ∃ norm p, locate? measurements = some (fixOfSolution (unknowns norm p)) ∧
      of (coefficients measurements) *ᵥ (unknowns norm p).get = (constants measurements).get := by
  let A := of (coefficients measurements)
  let x := Grid.mulColumn (A⁻¹ : Matrix (Fin 4) (Fin 4) Rat) (constants measurements)
  have hget : x.get = A⁻¹ *ᵥ (constants measurements).get := by
    ext row
    exact Grid.get_mulColumn _ _ row
  have hlocate : locate? measurements = some (fixOfSolution x) := by
    rw [locate?, Scalar.isZero_rat, Grid.luDeterminant_eq_det, if_neg (by simpa using h),
      Grid.inverse?_eq_some _ h]
    rfl
  refine ⟨x.first, ⟨x.second, x.third, x.fourth⟩, hlocate, ?_⟩
  change A *ᵥ x.get = (constants measurements).get
  rw [hget, mulVec_mulVec, mul_nonsing_inv A (isUnit_iff_ne_zero.2 h), one_mulVec]

/-- There is no other solution. -/
theorem unknowns_unique (measurements : Quad (Measurement Rat))
    (h : det (of (coefficients measurements)) ≠ 0) (norm norm' : Rat) (p p' : Position Rat)
    (heq : of (coefficients measurements) *ᵥ (unknowns norm p).get =
      of (coefficients measurements) *ᵥ (unknowns norm' p').get) : norm = norm' ∧ p = p' := by
  have hunit : IsUnit (of (coefficients measurements)) := by
    rw [isUnit_iff_isUnit_det, isUnit_iff_ne_zero]
    exact h
  have hget := mulVec_injective_iff_isUnit.2 hunit heq
  have hnorm : norm = norm' := congrFun hget 0
  have hx : p.x = p'.x := congrFun hget 1
  have hy : p.y = p'.y := congrFun hget 2
  have hz : p.z = p'.z := congrFun hget 3
  obtain ⟨x, y, z⟩ := p
  obtain ⟨x', y', z'⟩ := p'
  cases hx
  cases hy
  cases hz
  exact ⟨hnorm, rfl⟩

/-- The fix is the one point at which all measurements are off by the same amount. -/
theorem exists_fix (measurements : Quad (Measurement Rat))
    (h : det (of (coefficients measurements)) ≠ 0) :
    ∃ fix residual, locate? measurements = some fix ∧ fix.error = |residual| ∧
      (∀ i, (measurements.get i).residual fix.pos = residual) ∧
      ∀ p other, (∀ i, (measurements.get i).residual p = other) →
        p = fix.pos ∧ other = residual := by
  obtain ⟨norm, p, hlocate, hsolves⟩ := exists_solution measurements h
  refine ⟨fixOfSolution (unknowns norm p), p.normSquared - norm, hlocate, ?_, ?_, ?_⟩
  · change Scalar.abs (norm - p.normSquared) = |p.normSquared - norm|
    rw [Scalar.abs_rat, abs_sub_comm]
  · exact (mulVec_unknowns_eq_iff measurements norm p).1 hsolves
  · intro q other hq
    have hother : other = q.normSquared - (q.normSquared - other) := by ring
    rw [hother] at hq
    have hsame := (mulVec_unknowns_eq_iff measurements _ q).2 hq
    obtain ⟨hnorm, rfl⟩ := unknowns_unique measurements h _ _ _ _ (hsame.trans hsolves.symm)
    exact ⟨rfl, by rw [hother, hnorm]⟩

end Trilateration

/-- Trilateration is exact: it fails for anchors in one plane only, and otherwise finds
the one point at which the four measurements are off by the same amount. -/
theorem trilateration_exact (measurements : Quad (Measurement Rat)) :
    (Trilateration.locate? measurements = none ↔
      ¬LinearIndependent Rat (Trilateration.directions measurements)) ∧
    (LinearIndependent Rat (Trilateration.directions measurements) →
      ∃ fix residual, Trilateration.locate? measurements = some fix ∧
        (∀ i, (measurements.get i).residual fix.pos = residual) ∧ |residual| = fix.error ∧
        (∀ p, (∀ i j, (measurements.get i).residual p = (measurements.get j).residual p) →
          p = fix.pos) ∧
        (∀ p, (∀ i, p.distanceSquared (measurements.get i).anchor =
            (measurements.get i).distance * (measurements.get i).distance) →
          fix.pos = p ∧ fix.error = 0) ∧
        (fix.error = 0 → ∀ i, fix.pos.distanceSquared (measurements.get i).anchor =
          (measurements.get i).distance * (measurements.get i).distance)) := by
  rw [← Trilateration.det_coefficients_ne_zero_iff]
  refine ⟨⟨?_, ?_⟩, ?_⟩
  · intro hnone hdet
    obtain ⟨fix, residual, hsome, -⟩ := Trilateration.exists_fix measurements hdet
    rw [hnone] at hsome
    cases hsome
  · intro hdet
    exact Trilateration.locate?_eq_none measurements (not_not.1 hdet)
  · intro hdet
    obtain ⟨fix, residual, hsome, herror, hresidual, hunique⟩ :=
      Trilateration.exists_fix measurements hdet
    refine ⟨fix, residual, hsome, hresidual, herror.symm, ?_, ?_, ?_⟩
    · intro p hp
      exact (hunique p _ fun i => hp i 0).1
    · intro p hp
      have hzero : ∀ i, (measurements.get i).residual p = 0 := by
        intro i
        rw [Measurement.residual, hp i, sub_self]
      obtain ⟨rfl, rfl⟩ := hunique p 0 hzero
      exact ⟨rfl, by rw [herror, abs_zero]⟩
    · intro hexact i
      rw [herror, abs_eq_zero] at hexact
      have hi := hresidual i
      rw [hexact, Measurement.residual, sub_eq_zero] at hi
      exact hi

/-- A distance of one metre to the corner of a cube and to each of its neighbours. -/
def sampleMeasurements : Quad (Measurement Rat) :=
  ⟨⟨⟨0, 0, 0⟩, 1⟩, ⟨⟨1, 0, 0⟩, 1⟩, ⟨⟨0, 1, 0⟩, 1⟩, ⟨⟨0, 0, 1⟩, 1⟩⟩

/-- The centre of the cube is found, where the measurements are off by a quarter. -/
theorem sampleMeasurements_exact :
    LinearIndependent Rat (Trilateration.directions sampleMeasurements) ∧
      Trilateration.locate? sampleMeasurements = some ⟨⟨1 / 2, 1 / 2, 1 / 2⟩, 1 / 4⟩ ∧
      ∃ residual : Rat, |residual| = 1 / 4 ∧
        ∀ i, (sampleMeasurements.get i).residual ⟨1 / 2, 1 / 2, 1 / 2⟩ = residual := by
  have hlocate : Trilateration.locate? sampleMeasurements =
      some ⟨⟨1 / 2, 1 / 2, 1 / 2⟩, 1 / 4⟩ := by
    cbv
  obtain ⟨hnone, hsome⟩ := trilateration_exact sampleMeasurements
  have hindependent : LinearIndependent Rat (Trilateration.directions sampleMeasurements) := by
    by_contra hdependent
    rw [hnone.2 hdependent] at hlocate
    cases hlocate
  obtain ⟨fix, residual, hfix, hresidual, herror, -⟩ := hsome hindependent
  rw [hlocate] at hfix
  cases hfix
  exact ⟨hindependent, hlocate, residual, herror, hresidual⟩

end Ranging
