import Mathlib.Tactic.Ring
import Ranging.Clock.Slot

/-!
# The last slot that begins no later

A transmission can only be scheduled in an even slot. Of these, rounding a time down finds the last
one that begins no later than the time: an even slot is at most the slot of a time just when it
begins at that time or before. Rounding down and taking the beginning of a slot are adjoint in this
sense, so going to a slot and back clears the bits that a slot has no room for and changes nothing
else. In a time these are the low nine bits, in a slot it is the lowest one.
-/

namespace Ranging

/-- A mask of ones above zeros clears the bits below the ones. -/
theorem and_ones_above (n ones zeros : Nat) (h : n < 2 ^ zeros * 2 ^ ones) :
    n &&& (2 ^ ones - 1) * 2 ^ zeros = n / 2 ^ zeros * 2 ^ zeros := by
  have hhigh : (n &&& (2 ^ ones - 1) * 2 ^ zeros) / 2 ^ zeros = n / 2 ^ zeros := by
    rw [Nat.and_div_two_pow, Nat.mul_div_cancel _ (Nat.two_pow_pos zeros),
      Nat.and_two_pow_sub_one_eq_mod, Nat.mod_eq_of_lt (Nat.div_lt_of_lt_mul h)]
  have hlow : (n &&& (2 ^ ones - 1) * 2 ^ zeros) % 2 ^ zeros = 0 := by
    rw [Nat.and_mod_two_pow, Nat.mul_mod_left, Nat.and_zero]
  rw [← hhigh]
  exact (Nat.div_mul_cancel (Nat.dvd_of_mod_eq_zero hlow)).symm

/-- A time without its low nine bits is the boundary of 512 ticks before it. -/
theorem toNat_and_not_low_nine (ticks : UInt64) :
    (ticks &&& ~~~0x1ff).toNat = ticks.toNat / 512 * 512 := by
  rw [UInt64.toNat_and]
  exact and_ones_above ticks.toNat 55 9 ticks.toNat_lt

/-- A slot without its lowest bit is the even slot before it. -/
theorem toNat_and_not_lowest (slot : UInt32) :
    (slot &&& ~~~1).toNat = slot.toNat / 2 * 2 := by
  rw [UInt32.toNat_and]
  exact and_ones_above slot.toNat 31 1 slot.toNat_lt

/-- Times that the counter shows alike lie in one slot. -/
theorem slotOf_eq_of_mod_eq {ticks ticks' : UInt64}
    (h : ticks.toNat % clockTurn = ticks'.toNat % clockTurn) : slotOf ticks = slotOf ticks' := by
  rw [← UInt32.toNat_inj, toNat_slotOf, toNat_slotOf, h]

theorem slotStart_slotOf (ticks : UInt64) :
    slotStart (slotOf ticks) = ticks % 0x10000000000 &&& ~~~0x1ff := by
  rw [← UInt64.toNat_inj, toNat_slotStart_slotOf, toNat_and_not_low_nine, UInt64.toNat_mod]
  rfl

theorem slotOf_slotStart (slot : UInt32) : slotOf (slotStart slot) = slot &&& ~~~1 := by
  have hlt := slot.toNat_lt
  rw [← UInt32.toNat_inj, toNat_slotOf, toNat_slotStart, toNat_and_not_lowest, clockTurn]
  omega

/-- An even slot is at most the slot of a time just when it begins no later. -/
theorem le_slotOf_iff {ticks : UInt64} {slot : UInt32} (hticks : ticks.toNat < clockTurn)
    (heven : slot.toNat % 2 = 0) : slot ≤ slotOf ticks ↔ slotStart slot ≤ ticks := by
  rw [UInt32.le_iff_toNat_le, UInt64.le_iff_toNat_le, toNat_slotOf, toNat_slotStart,
    Nat.mod_eq_of_lt hticks]
  omega

/-- The slot of a time is even and depends on what the counter shows of the time only. It begins on
the last boundary of 512 ticks, and of all even slots that begin no later it is the last. The slot
in which a slot begins is that slot itself, made even. -/
theorem slot_is_last_not_later :
    (∀ ticks : UInt64,
      (slotOf ticks).toNat % 2 = 0 ∧
      (∀ ticks' : UInt64, ticks.toNat % clockTurn = ticks'.toNat % clockTurn →
        slotOf ticks = slotOf ticks') ∧
      slotStart (slotOf ticks) = ticks % 0x10000000000 &&& ~~~0x1ff) ∧
    (∀ (ticks : UInt64) (slot : UInt32), ticks.toNat < clockTurn → slot.toNat % 2 = 0 →
      (slot ≤ slotOf ticks ↔ slotStart slot ≤ ticks)) ∧
    ∀ slot : UInt32, slotOf (slotStart slot) = slot &&& ~~~1 := by
  refine ⟨?_, ?_, slotOf_slotStart⟩
  · intro ticks
    exact ⟨slotOf_mod_two ticks, fun _ h => slotOf_eq_of_mod_eq h, slotStart_slotOf ticks⟩
  · intro ticks slot hticks heven
    exact le_slotOf_iff hticks heven

/-- A register that is read with garbage above its 40 bits shows the last tick. The last slot of the
counter begins 511 ticks before, and the odd number behind it is not a slot. -/
theorem last_slot_of_last_tick :
    (0xabcdefffffffffff : UInt64).toNat % clockTurn = lastTick.toNat % clockTurn ∧
      slotOf 0xabcdefffffffffff = slotOf lastTick ∧
      slotOf (slotStart 0xffffffff) = 0xfffffffe ∧
      (0xfffffffe ≤ slotOf lastTick ↔ slotStart 0xfffffffe ≤ lastTick) := by
  obtain ⟨htimes, hadjoint, hslots⟩ := slot_is_last_not_later
  obtain ⟨-, halike, -⟩ := htimes 0xabcdefffffffffff
  exact ⟨by decide, halike lastTick (by decide), hslots 0xffffffff,
    hadjoint lastTick 0xfffffffe (by decide) (by decide)⟩

end Ranging
