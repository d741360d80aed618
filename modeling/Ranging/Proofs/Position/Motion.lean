import Mathlib
import Ranging.Proofs.Position.Trilateration

/-!
# Fixes do not depend on the frame of reference

A deployment may list its measurements in any order and may lay its coordinate frame as it likes.
What `locate?` finds is therefore said here without either: `Fits` asks of a fix that the anchors
do not lie in one plane and that all measurements are off by the same amount at its position. It
mentions the measurements only as members of a list, which makes it blind to their order, and
anchors and points only through their distances and planes, which a motion of the frame keeps.
-/

namespace Ranging

open Matrix

/-- A matrix with an inverse on its left takes no column but zero to zero. -/
theorem mulVec_ne_zero_of_mul_eq_one {n : Nat} {A B : Matrix (Fin n) (Fin n) Rat} {c : Fin n → Rat}
    (h : B * A = 1) (hc : c ≠ 0) : A *ᵥ c ≠ 0 := by
  intro hzero
  apply hc
  rw [← one_mulVec c, ← h, ← mulVec_mulVec, hzero, mulVec_zero]

namespace Position

/-- The column of the coordinates of a point. -/
def column (p : Position Rat) : Fin 3 → Rat :=
  ![p.x, p.y, p.z]

def ofColumn (c : Fin 3 → Rat) : Position Rat :=
  ⟨vecHead c, vecHead (vecTail c), vecHead (vecTail (vecTail c))⟩

theorem ofColumn_eq (c : Fin 3 → Rat) : ofColumn c = ⟨c 0, c 1, c 2⟩ := rfl

@[simp] theorem column_ofColumn (c : Fin 3 → Rat) : (ofColumn c).column = c := by
  ext i
  fin_cases i <;> rfl

theorem distanceSquared_eq_dotProduct (p q : Position Rat) :
    p.distanceSquared q = (p.column - q.column) ⬝ᵥ (p.column - q.column) := by
  simp [distanceSquared, normSquared, column, dotProduct, Fin.sum_univ_three]

/-- Some plane holds all of the points. -/
def InPlane (points : List (Position Rat)) : Prop :=
  ∃ normal : Fin 3 → Rat, normal ≠ 0 ∧ ∃ offset, ∀ p ∈ points, normal ⬝ᵥ p.column = offset

end Position

/-- A change of the frame: its axes are turned or mirrored, then its origin is shifted. -/
structure Motion where
  turn : Matrix.orthogonalGroup (Fin 3) Rat
  shift : Fin 3 → Rat

namespace Motion

def point (motion : Motion) (p : Position Rat) : Position Rat :=
  .ofColumn (motion.turn.1 *ᵥ p.column + motion.shift)

/-- The distances measured are the same in every frame. -/
def measurement (motion : Motion) (m : Measurement Rat) : Measurement Rat :=
  ⟨motion.point m.anchor, m.distance⟩

def fix (motion : Motion) (f : Fix Rat) : Fix Rat :=
  ⟨motion.point f.pos, f.error⟩

@[simp] theorem column_point (motion : Motion) (p : Position Rat) :
    (motion.point p).column = motion.turn.1 *ᵥ p.column + motion.shift := by
  simp [point]

theorem transpose_mul_turn (motion : Motion) : motion.turn.1ᵀ * motion.turn.1 = 1 :=
  (mem_orthogonalGroup_iff' (Fin 3) Rat).1 motion.turn.2

theorem turn_mul_transpose (motion : Motion) : motion.turn.1 * motion.turn.1ᵀ = 1 :=
  (mem_orthogonalGroup_iff (Fin 3) Rat).1 motion.turn.2

theorem dotProduct_turn (motion : Motion) (c d : Fin 3 → Rat) :
    c ⬝ᵥ (motion.turn.1 *ᵥ d) = (motion.turn.1ᵀ *ᵥ c) ⬝ᵥ d := by
  rw [dotProduct_mulVec, mulVec_transpose]

theorem dotProduct_turn_turn (motion : Motion) (c d : Fin 3 → Rat) :
    (motion.turn.1 *ᵥ c) ⬝ᵥ (motion.turn.1 *ᵥ d) = c ⬝ᵥ d := by
  rw [dotProduct_turn, mulVec_mulVec, transpose_mul_turn, one_mulVec]

theorem distanceSquared_point (motion : Motion) (p q : Position Rat) :
    (motion.point p).distanceSquared (motion.point q) = p.distanceSquared q := by
  have hdifference : (motion.point p).column - (motion.point q).column =
      motion.turn.1 *ᵥ (p.column - q.column) := by
    rw [column_point, column_point, add_sub_add_right_eq_sub, mulVec_sub]
  rw [Position.distanceSquared_eq_dotProduct, Position.distanceSquared_eq_dotProduct, hdifference,
    dotProduct_turn_turn]

theorem residual_measurement (motion : Motion) (m : Measurement Rat) (p : Position Rat) :
    (motion.measurement m).residual (motion.point p) = m.residual p := by
  rw [Measurement.residual, measurement, distanceSquared_point, Measurement.residual]

theorem map_anchor_measurement (motion : Motion) (measurements : List (Measurement Rat)) :
    (measurements.map motion.measurement).map (·.anchor) =
      (measurements.map (·.anchor)).map motion.point := by
  simp [measurement]

/-- A plane is moved by turning its normal, and the offset follows the shift along it. -/
theorem inPlane_map_point_iff (motion : Motion) (points : List (Position Rat)) :
    Position.InPlane (points.map motion.point) ↔ Position.InPlane points := by
  constructor
  · rintro ⟨normal, hnormal, offset, h⟩
    refine ⟨motion.turn.1ᵀ *ᵥ normal, ?_, offset - normal ⬝ᵥ motion.shift, ?_⟩
    · exact mulVec_ne_zero_of_mul_eq_one motion.turn_mul_transpose hnormal
    · intro p hp
      have hmoved := h _ (List.mem_map_of_mem hp)
      rw [column_point, dotProduct_add, dotProduct_turn] at hmoved
      exact eq_sub_of_add_eq hmoved
  · rintro ⟨normal, hnormal, offset, h⟩
    refine ⟨motion.turn.1 *ᵥ normal, ?_, offset + motion.turn.1 *ᵥ normal ⬝ᵥ motion.shift, ?_⟩
    · exact mulVec_ne_zero_of_mul_eq_one motion.transpose_mul_turn hnormal
    · intro moved hmoved
      obtain ⟨p, hp, rfl⟩ := List.mem_map.1 hmoved
      rw [column_point, dotProduct_add, dotProduct_turn_turn, h p hp]

end Motion

namespace Trilateration

theorem mulVec_unknowns_ofColumn (measurements : Quad (Measurement Rat)) (norm : Rat)
    (c : Fin 3 → Rat) (i : Fin 4) :
    (of (coefficients measurements) *ᵥ (unknowns norm (.ofColumn c)).get) i =
      norm - 2 * (c ⬝ᵥ (measurements.get i).anchor.column) := by
  rw [mulVec_coefficients, dotProduct, Fin.sum_univ_three]
  simp only [Position.column, Position.ofColumn_eq, cons_val]
  ring

theorem unknowns_eq_zero_iff (norm : Rat) (c : Fin 3 → Rat) :
    (unknowns norm (.ofColumn c)).get = 0 ↔ norm = 0 ∧ c = 0 := by
  simp [funext_iff, Fin.forall_fin_succ, unknowns, Quad.get, Position.ofColumn_eq]

/-- The equations have no unique solution if the anchors lie in one plane. The normal of the plane
and its offset then solve them with zeros on the right-hand sides. -/
theorem det_coefficients_eq_zero_iff (measurements : Quad (Measurement Rat)) :
    det (of (coefficients measurements)) = 0 ↔
      Position.InPlane (measurements.toList.map (·.anchor)) := by
  simp only [Position.InPlane, List.forall_mem_map, Quad.forall_mem_toList_iff]
  rw [← exists_mulVec_eq_zero_iff]
  constructor
  · rintro ⟨v, hv, hzero⟩
    -- A solution is an offset, doubled, and a normal.
    let normal := ![v 1, v 2, v 3]
    have hunknowns : v = (unknowns (v 0) (.ofColumn normal)).get := by
      ext i
      fin_cases i <;> rfl
    have hplane : ∀ i, normal ⬝ᵥ (measurements.get i).anchor.column = v 0 / 2 := by
      intro i
      have hrow := congrFun hzero i
      rw [hunknowns, mulVec_unknowns_ofColumn, Pi.zero_apply] at hrow
      linarith
    refine ⟨normal, ?_, v 0 / 2, hplane⟩
    intro hnormal
    have hnorm := hplane 0
    rw [hnormal, zero_dotProduct] at hnorm
    rw [hunknowns, ne_eq, unknowns_eq_zero_iff] at hv
    exact hv ⟨by linarith, hnormal⟩
  · rintro ⟨normal, hnormal, offset, h⟩
    refine ⟨(unknowns (2 * offset) (.ofColumn normal)).get, ?_, ?_⟩
    · intro hzero
      exact hnormal ((unknowns_eq_zero_iff _ _).1 hzero).2
    · ext i
      rw [mulVec_unknowns_ofColumn, h i, sub_self]
      rfl

theorem locate?_eq_none_iff (measurements : Quad (Measurement Rat)) :
    locate? measurements = none ↔ Position.InPlane (measurements.toList.map (·.anchor)) := by
  rw [← det_coefficients_eq_zero_iff]
  constructor
  · intro hnone
    by_contra hdet
    obtain ⟨fix, -, hsome, -⟩ := exists_fix measurements hdet
    rw [hnone] at hsome
    cases hsome
  · exact locate?_eq_none measurements

/-- What makes a fix that of some measurements, whatever their order and their frame. -/
structure Fits (measurements : List (Measurement Rat)) (fix : Fix Rat) : Prop where
  not_inPlane : ¬Position.InPlane (measurements.map (·.anchor))
  off_alike : ∃ residual, fix.error = |residual| ∧
    ∀ m ∈ measurements, m.residual fix.pos = residual

theorem locate?_eq_some_iff (measurements : Quad (Measurement Rat)) (fix : Fix Rat) :
    locate? measurements = some fix ↔ Fits measurements.toList fix := by
  by_cases hdet : det (of (coefficients measurements)) = 0
  · have hplane := (det_coefficients_eq_zero_iff measurements).1 hdet
    simp only [locate?_eq_none measurements hdet, reduceCtorEq, false_iff]
    intro hfits
    exact hfits.not_inPlane hplane
  · have hspread := fun h => hdet ((det_coefficients_eq_zero_iff measurements).2 h)
    obtain ⟨found, residual, hsome, herror, hresidual, hunique⟩ := exists_fix measurements hdet
    rw [hsome, Option.some.injEq]
    constructor
    · rintro rfl
      refine ⟨hspread, residual, herror, ?_⟩
      rw [measurements.forall_mem_toList_iff fun m => m.residual found.pos = residual]
      exact hresidual
    · -- Where all measurements are off alike, there is the position that was found.
      rintro ⟨-, other, hother, hoff⟩
      rw [measurements.forall_mem_toList_iff fun m => m.residual fix.pos = other] at hoff
      obtain ⟨hpos, rfl⟩ := hunique fix.pos other hoff
      cases fix
      cases found
      cases hpos
      cases hother.trans herror.symm
      rfl

theorem Fits.of_perm {measurements reordered : List (Measurement Rat)} {fix : Fix Rat}
    (h : Fits measurements fix) (hperm : reordered.Perm measurements) : Fits reordered fix := by
  obtain ⟨hspread, residual, herror, hoff⟩ := h
  refine ⟨?_, residual, herror, fun m hm => hoff m (hperm.mem_iff.1 hm)⟩
  rintro ⟨normal, hnormal, offset, hplane⟩
  apply hspread
  refine ⟨normal, hnormal, offset, fun p hp => hplane p ?_⟩
  exact (hperm.map _).mem_iff.2 hp

theorem Fits.moved {measurements : List (Measurement Rat)} {fix : Fix Rat}
    (h : Fits measurements fix) (motion : Motion) :
    Fits (measurements.map motion.measurement) (motion.fix fix) := by
  obtain ⟨hspread, residual, herror, hoff⟩ := h
  refine ⟨?_, residual, herror, ?_⟩
  · rwa [motion.map_anchor_measurement, motion.inPlane_map_point_iff]
  · intro moved hmoved
    obtain ⟨m, hm, rfl⟩ := List.mem_map.1 hmoved
    rw [Motion.fix, motion.residual_measurement, hoff m hm]

end Trilateration

open Trilateration

/-- A fix depends neither on the order of the measurements nor on the frame: in another order the
same is found, and in another frame what is found there stands for the same point. -/
theorem fix_forgets_order_and_frame (measurements : Quad (Measurement Rat)) :
    (∀ reordered : Quad (Measurement Rat), reordered.toList.Perm measurements.toList →
      locate? reordered = locate? measurements) ∧
    ∀ motion : Motion,
      locate? (measurements.map motion.measurement) = (locate? measurements).map motion.fix := by
  constructor
  · intro reordered hperm
    ext fix
    rw [locate?_eq_some_iff, locate?_eq_some_iff]
    exact ⟨fun h => h.of_perm hperm.symm, fun h => h.of_perm hperm⟩
  · intro motion
    cases hlocate : locate? measurements with
    | none =>
        rw [locate?_eq_none_iff] at hlocate
        rwa [Option.map_none, locate?_eq_none_iff, Quad.toList_map, motion.map_anchor_measurement,
          motion.inPlane_map_point_iff]
    | some fix =>
        rw [locate?_eq_some_iff] at hlocate
        rw [Option.map_some, locate?_eq_some_iff, Quad.toList_map]
        exact hlocate.moved motion

/-- A turn about the vertical axis, by an angle of the triangle with sides three, four and five,
and a shift. -/
def sampleMotion : Motion where
  turn := ⟨!![3 / 5, -4 / 5, 0; 4 / 5, 3 / 5, 0; 0, 0, 1], by
    rw [mem_orthogonalGroup_iff]
    decide +kernel⟩
  shift := ![1, 2, 3]

/-- The measurements at the corner of a cube, the last one first. -/
def sampleReversed : Quad (Measurement Rat) :=
  let q := sampleMeasurements
  ⟨q.fourth, q.third, q.second, q.first⟩

theorem sampleMeasurements_elsewhere :
    locate? sampleReversed = some ⟨⟨1 / 2, 1 / 2, 1 / 2⟩, 1 / 4⟩ ∧
      locate? (sampleMeasurements.map sampleMotion.measurement) =
        some ⟨⟨9 / 10, 27 / 10, 7 / 2⟩, 1 / 4⟩ := by
  have hlocate : locate? sampleMeasurements = some ⟨⟨1 / 2, 1 / 2, 1 / 2⟩, 1 / 4⟩ := by
    cbv
  have hreversed : sampleReversed.toList.Perm sampleMeasurements.toList :=
    List.reverse_perm sampleMeasurements.toList
  obtain ⟨horder, hframe⟩ := fix_forgets_order_and_frame sampleMeasurements
  rw [horder sampleReversed hreversed, hframe sampleMotion, hlocate]
  refine ⟨rfl, ?_⟩
  decide +kernel

end Ranging
