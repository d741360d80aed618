import Mathlib.Algebra.Order.Round
import Mathlib.Data.Rat.Floor
import Mathlib.Tactic.Linarith
import Mathlib.Tactic.NormNum
import Ranging.Tracker.Location

/-!
# The nearest millimetre

What is sent for a coordinate is the nearest number of 16 bits, in millimetres. Between the ends of
the range it is off by half a millimetre at most, and of two numbers that are equally near the one
farther from zero is taken. Beyond an end it is that end. As zero lies half a step off the middle of
the range, the ends are reached at different distances from zero.

Coordinates keep their order, and one that is a whole number of millimetres in the range is sent as
that number.
-/

namespace Ranging

/-! ## Rounding -/

theorem roundHalfAway_of_nonneg {q : Rat} (h : 0 ≤ q) : roundHalfAway q = round q :=
  (if_pos h).trans (round_eq q).symm

theorem roundHalfAway_of_neg {q : Rat} (h : q < 0) : roundHalfAway q = -round (-q) :=
  (if_neg (not_le.2 h)).trans (congrArg Neg.neg (round_eq (-q)).symm)

/-- A whole number is as near as can be to a rational, and of two the one farther from zero. -/
def HalfAway (q : Rat) (n : Int) : Prop :=
  |(n : Rat) - q| ≤ 1 / 2 ∧ (|(n : Rat) - q| = 1 / 2 → |q| < |(n : Rat)|)

theorem HalfAway.neg {q : Rat} {n : Int} (h : HalfAway q n) : HalfAway (-q) (-n) := by
  have hdistance : |((-n : Int) : Rat) - -q| = |(n : Rat) - q| := by
    rw [Int.cast_neg, neg_sub_neg, abs_sub_comm]
  rw [HalfAway, hdistance, Int.cast_neg, abs_neg, abs_neg]
  exact h

theorem halfAway_round {q : Rat} (h : 0 ≤ q) : HalfAway q (round q) := by
  have hdistance : |(round q : Rat) - q| = |q - round q| := abs_sub_comm _ _
  rw [HalfAway, hdistance]
  refine ⟨abs_sub_round q, ?_⟩
  intro htie
  -- Rounding goes less than a half down, so a tie has gone up.
  have hdown : q < round q + 1 / 2 := by
    have := Int.lt_floor_add_one (q + 1 / 2)
    rw [← round_eq] at this
    linarith
  have hup : q - round q = -(1 / 2) := by
    obtain hdown' | hup := (abs_eq (by norm_num)).1 htie
    · linarith
    · exact hup
  rw [abs_of_nonneg h, abs_of_pos (by linarith)]
  linarith

/-- No whole number is nearer. -/
theorem HalfAway.le {q : Rat} {n : Int} (h : HalfAway q n) (k : Int) :
    |(n : Rat) - q| ≤ |(k : Rat) - q| := by
  by_cases hk : k = n
  · rw [hk]
  · have hapart : (1 : Rat) ≤ |(k : Rat) - n| := by
      exact_mod_cast Int.one_le_abs (sub_ne_zero.2 hk)
    have htriangle := abs_sub_le (k : Rat) q n
    rw [abs_sub_comm q] at htriangle
    linarith [h.1]

theorem halfAway_roundHalfAway (q : Rat) : HalfAway q (roundHalfAway q) := by
  obtain h | h := le_or_gt 0 q
  · rw [roundHalfAway_of_nonneg h]
    exact halfAway_round h
  · have hneg := (halfAway_round (neg_nonneg.2 h.le)).neg
    rw [neg_neg] at hneg
    rw [roundHalfAway_of_neg h]
    exact hneg

theorem round_mono {q q' : Rat} (h : q ≤ q') : round q ≤ round q' := by
  rw [round_eq, round_eq]
  exact Int.floor_le_floor (by linarith)

theorem round_nonneg {q : Rat} (h : 0 ≤ q) : 0 ≤ round q :=
  round_zero (α := Rat) ▸ round_mono h

theorem roundHalfAway_mono {q q' : Rat} (h : q ≤ q') : roundHalfAway q ≤ roundHalfAway q' := by
  obtain hq | hq := le_or_gt 0 q
  · rw [roundHalfAway_of_nonneg hq, roundHalfAway_of_nonneg (hq.trans h)]
    exact round_mono h
  · rw [roundHalfAway_of_neg hq]
    obtain hq' | hq' := le_or_gt 0 q'
    · rw [roundHalfAway_of_nonneg hq']
      exact (neg_nonpos.2 (round_nonneg (neg_nonneg.2 hq.le))).trans (round_nonneg hq')
    · rw [roundHalfAway_of_neg hq']
      exact neg_le_neg (round_mono (neg_le_neg h))

theorem roundHalfAway_intCast (n : Int) : roundHalfAway n = n := by
  obtain h | h := le_or_gt 0 (n : Rat)
  · rw [roundHalfAway_of_nonneg h, round_intCast]
  · rw [roundHalfAway_of_neg h, ← Int.cast_neg, round_intCast, neg_neg]

/-! ## Millimetres -/

theorem toInt_millimetres (metres : Rat) :
    (millimetres metres).toInt = max (-32768) (min (roundHalfAway (1000 * metres)) 32767) := by
  rw [mul_comm]
  exact toInt_saturate16 _

/-- The number of 16 bits that a number of millimetres is sent as. -/
structure Nearest16 (q : Rat) (n : Int16) : Prop where
  nearest : ∀ k : Int16, |(n.toInt : Rat) - q| ≤ |(k.toInt : Rat) - q|
  between : -65537 / 2 < q → q < 65535 / 2 → HalfAway q n.toInt
  above : 65535 / 2 ≤ q → n.toInt = 32767
  below : q ≤ -65537 / 2 → n.toInt = -32768

theorem nearest16_millimetres (metres : Rat) : Nearest16 (1000 * metres) (millimetres metres) := by
  have hround := halfAway_roundHalfAway (1000 * metres)
  have hsent := toInt_millimetres metres
  generalize 1000 * metres = q at hround hsent ⊢
  obtain ⟨hlow, hhigh⟩ := abs_le.1 hround.1
  have hbetween (hmin : -65537 / 2 < q) (hmax : q < 65535 / 2) :
      (millimetres metres).toInt = roundHalfAway q := by
    have hle : roundHalfAway q < 32768 := Int.cast_lt.1 (by push_cast; linarith : _ < (_ : Rat))
    have hge : -32769 < roundHalfAway q := Int.cast_lt.1 (by push_cast; linarith : _ < (_ : Rat))
    omega
  have habove (hmax : 65535 / 2 ≤ q) : (millimetres metres).toInt = 32767 := by
    have hge : 32767 ≤ roundHalfAway q := Int.cast_le.1 (by push_cast; linarith : _ ≤ (_ : Rat))
    omega
  have hbelow (hmin : q ≤ -65537 / 2) : (millimetres metres).toInt = -32768 := by
    have hle : roundHalfAway q ≤ -32768 := Int.cast_le.1 (by push_cast; linarith : _ ≤ (_ : Rat))
    omega
  refine ⟨?_, ?_, habove, hbelow⟩
  · intro k
    obtain hmin | hmin := le_or_gt q (-65537 / 2)
    · have hk : (-32768 : Rat) ≤ k.toInt := by exact_mod_cast k.le_toInt
      rw [hbelow hmin]
      push_cast
      rw [abs_of_nonneg (by linarith), abs_of_nonneg (by linarith)]
      linarith
    · obtain hmax | hmax := le_or_gt (65535 / 2) q
      · have hk : (k.toInt : Rat) ≤ 32767 := by exact_mod_cast Int.lt_add_one_iff.1 k.toInt_lt
        rw [habove hmax]
        push_cast
        rw [abs_of_nonpos (by linarith), abs_of_nonpos (by linarith)]
        linarith
      · rw [hbetween hmin hmax]
        exact hround.le k.toInt
  · intro hmin hmax
    rw [hbetween hmin hmax]
    exact hround

theorem millimetres_mono {metres metres' : Rat} (h : metres ≤ metres') :
    millimetres metres ≤ millimetres metres' := by
  have hround : roundHalfAway (1000 * metres) ≤ roundHalfAway (1000 * metres') :=
    roundHalfAway_mono (by linarith)
  rw [Int16.le_iff_toInt_le, toInt_millimetres, toInt_millimetres]
  omega

theorem millimetres_div_thousand (n : Int16) : millimetres (n.toInt / 1000 : Rat) = n := by
  have hle := n.toInt_lt
  have hge := n.le_toInt
  rw [← Int16.toInt_inj, toInt_millimetres, mul_div_cancel₀ _ (by norm_num : (1000 : Rat) ≠ 0),
    roundHalfAway_intCast]
  omega

/-- The values of a fix, each with what is sent for it. -/
def Fix.sent (fix : Fix Rat) : List (Rat × Int16) :=
  [(fix.pos.x, (Location.ofFix fix).x), (fix.pos.y, (Location.ofFix fix).y),
    (fix.pos.z, (Location.ofFix fix).z), (fix.error, (Location.ofFix fix).error)]

theorem Fix.eq_millimetres_of_mem_sent {fix : Fix Rat} {value : Rat × Int16}
    (h : value ∈ fix.sent) : value.2 = millimetres value.1 := by
  simp only [sent, List.mem_cons, List.not_mem_nil, or_false] at h
  obtain rfl | rfl | rfl | rfl := h <;> rfl

/-- Every value of a fix is sent as the nearest number of millimetres that fits. Values keep their
order, those that are whole numbers of millimetres are sent as they are, and an error does not
change its sign. -/
theorem location_nearest_in_order :
    (∀ fix : Fix Rat, ∀ value ∈ fix.sent, Nearest16 (1000 * value.1) value.2) ∧
    (∀ fix fix' : Fix Rat, ∀ value ∈ fix.sent, ∀ value' ∈ fix'.sent,
      value.1 ≤ value'.1 → value.2 ≤ value'.2) ∧
    (∀ location : Location,
      Location.ofFix
          (⟨⟨location.x.toInt / 1000, location.y.toInt / 1000, location.z.toInt / 1000⟩,
            location.error.toInt / 1000⟩ : Fix Rat) = location) ∧
    ∀ fix : Fix Rat, 0 ≤ fix.error → 0 ≤ (Location.ofFix fix).error := by
  refine ⟨?_, ?_, ?_, ?_⟩
  · intro fix value hvalue
    rw [fix.eq_millimetres_of_mem_sent hvalue]
    exact nearest16_millimetres value.1
  · intro fix fix' value hvalue value' hvalue' hle
    rw [Fix.eq_millimetres_of_mem_sent hvalue, Fix.eq_millimetres_of_mem_sent hvalue']
    exact millimetres_mono hle
  · intro location
    simp only [Location.ofFix, millimetres_div_thousand]
  · intro fix herror
    have hzero : millimetres (0 : Rat) = 0 := by simpa using millimetres_div_thousand 0
    rw [← hzero]
    exact millimetres_mono herror

/-- A fix at the ends of the range, with a height that lies between two millimetres. -/
def edgeFix : Fix Rat :=
  ⟨⟨65535 / 2000, -65537 / 2000, -1 / 2000⟩, 27 / 1250⟩

theorem edgeFix_sent :
    (Location.ofFix edgeFix).x.toInt = 32767 ∧
      (Location.ofFix edgeFix).y.toInt = -32768 ∧
      HalfAway (-1 / 2) (Location.ofFix edgeFix).z.toInt ∧
      (Location.ofFix edgeFix).z ≤ (Location.ofFix edgeFix).error ∧
      0 ≤ (Location.ofFix edgeFix).error := by
  have hx : (edgeFix.pos.x, (Location.ofFix edgeFix).x) ∈ edgeFix.sent := by simp [Fix.sent]
  have hy : (edgeFix.pos.y, (Location.ofFix edgeFix).y) ∈ edgeFix.sent := by simp [Fix.sent]
  have hz : (edgeFix.pos.z, (Location.ofFix edgeFix).z) ∈ edgeFix.sent := by simp [Fix.sent]
  have he : (edgeFix.error, (Location.ofFix edgeFix).error) ∈ edgeFix.sent := by simp [Fix.sent]
  obtain ⟨hnearest, horder, -, herror⟩ := location_nearest_in_order
  have hheight := (hnearest edgeFix _ hz).between (by norm_num [edgeFix]) (by norm_num [edgeFix])
  have heq : 1000 * edgeFix.pos.z = -1 / 2 := by norm_num [edgeFix]
  exact ⟨(hnearest edgeFix _ hx).above (by norm_num [edgeFix]),
    (hnearest edgeFix _ hy).below (by norm_num [edgeFix]), heq ▸ hheight,
    horder edgeFix edgeFix _ hz _ he (by norm_num [edgeFix]),
    herror edgeFix (by norm_num [edgeFix])⟩

end Ranging
