import Ranging.Clock.Instant

/-!
# Transmission slots

A delayed transmission can only be scheduled on a boundary of 512 ticks. It is
requested by a 32-bit number, its slot: the upper 32 bits of the 40-bit start
time, of which the lowest bit is ignored and therefore kept at zero. `slotOf`
rounds a time down to its slot and `slotStart` is the time at which a slot
begins.
-/

namespace Ranging

/-- The slot in which a time lies: the low 8 bits are dropped and bit 0 of the
rest is cleared. -/
def slotOf (ticks : UInt64) : UInt32 :=
  (ticks >>> 8).toUInt32 &&& 0xfffffffe

/-- The time at which a slot begins. -/
def slotStart (slot : UInt32) : UInt64 :=
  slot.toUInt64 <<< 8

namespace Instant

/-- The last slot that begins no later than this instant. -/
def slot (i : Instant) : UInt32 :=
  slotOf i.ticks

/-- The instant at which a slot begins. -/
def ofSlot (slot : UInt32) : Instant :=
  ⟨slotStart slot⟩

@[simp] theorem ticks_ofSlot (slot : UInt32) : (ofSlot slot).ticks = slotStart slot := rfl

end Instant

/-- The start of a slot fits the counter. -/
theorem toNat_slotStart (slot : UInt32) : (slotStart slot).toNat = slot.toNat * 256 := by
  have h := slot.toNat_lt
  simp only [slotStart, UInt64.toNat_shiftLeft, UInt32.toNat_toUInt64, Nat.shiftLeft_eq]
  exact Nat.mod_eq_of_lt (by simp; omega)

/-- The lowest bit of a slot is zero. -/
theorem slotOf_mod_two (ticks : UInt64) : (slotOf ticks).toNat % 2 = 0 := by
  rw [slotOf, UInt32.toNat_and, Nat.mod_two_eq_zero_iff_testBit_zero, Nat.testBit_and]
  exact Bool.and_false _

theorem toNat_slotOf (ticks : UInt64) :
    (slotOf ticks).toNat = ticks.toNat % clockTurn / 512 * 2 := by
  have heven := slotOf_mod_two ticks
  -- Halved, the mask is one of 31 ones.
  have hhalf : (slotOf ticks).toNat / 2 = ticks.toNat % clockTurn / 512 := by
    rw [slotOf, UInt32.toNat_and, Nat.and_div_two, UInt64.toNat_toUInt32, UInt64.toNat_shiftRight]
    change ticks.toNat >>> 8 % 2 ^ 32 / 2 &&& 2 ^ 31 - 1 = _
    rw [Nat.and_two_pow_sub_one_eq_mod, Nat.shiftRight_eq_div_pow]
    simp only [clockTurn]
    omega
  omega

/-- The slot of a time begins on the last boundary of 512 ticks that is no later. -/
theorem toNat_slotStart_slotOf (ticks : UInt64) :
    (slotStart (slotOf ticks)).toNat = ticks.toNat % clockTurn / 512 * 512 := by
  rw [toNat_slotStart, toNat_slotOf]
  omega

end Ranging
