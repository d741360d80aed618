/-!
# Device time

The transceiver counts time in a free-running counter of 40 bits, one tick
being 1/(128 · 499.2 MHz) of a second. An `Instant` is a reading of that
counter and a `Duration` a number of ticks between two readings. Adding and
subtracting keep the low 40 bits of the result, so they are arithmetic modulo
`clockTurn` and a turn of the counter between two instants does no harm.

The ticks are held as a plain 64-bit word. `ofTicks?` is the checked way in and
`Instant.ofRegister` the masking one; a word taken over unchecked may lie
outside the counter, and the operations then still reduce their results.
-/

namespace Ranging

/-- The last value of the counter, which is also the mask of its 40 bits. -/
def lastTick : UInt64 := 0xffffffffff

/-- The number of ticks in a turn of the counter, `2 ^ 40`. -/
def clockTurn : Nat := 0x10000000000

theorem toNat_and_lastTick (x : UInt64) : (x &&& lastTick).toNat = x.toNat % clockTurn := by
  rw [UInt64.toNat_and]
  exact Nat.and_two_pow_sub_one_eq_mod x.toNat 40

/-- A number of ticks between two instants. -/
structure Duration where
  ticks : UInt64
deriving DecidableEq

/-- A reading of the counter. -/
structure Instant where
  /-- The ticks shown by the counter. -/
  ticks : UInt64
deriving DecidableEq

namespace Duration

/-- A duration of the given number of ticks, if the counter can show it. -/
def ofTicks? (ticks : UInt64) : Option Duration :=
  if ticks ≤ lastTick then some ⟨ticks⟩ else none

/-- The ticks of one UWB microsecond, which is 512/499.2 of a microsecond. -/
def ticksPerMicro : UInt64 := 65536

/-- A duration given in UWB microseconds. -/
def ofMicros (micros : UInt16) : Duration :=
  ⟨micros.toUInt64 * ticksPerMicro⟩

/-- An antenna delay, which is programmed as a number of ticks. -/
def ofDelay (ticks : UInt16) : Duration :=
  ⟨ticks.toUInt64⟩

/-- Every 16-bit number of UWB microseconds fits the counter. -/
theorem toNat_ofMicros (micros : UInt16) :
    (ofMicros micros).ticks.toNat = micros.toNat * 65536 := by
  have h := micros.toNat_lt
  simp only [ofMicros, ticksPerMicro, UInt64.toNat_mul, UInt16.toNat_toUInt64]
  exact Nat.mod_eq_of_lt (by simp; omega)

@[simp] theorem toNat_ofDelay (ticks : UInt16) : (ofDelay ticks).ticks.toNat = ticks.toNat := rfl

end Duration

namespace Instant

/-- The instant of the given counter value, if the counter can show it. -/
def ofTicks? (ticks : UInt64) : Option Instant :=
  if ticks ≤ lastTick then some ⟨ticks⟩ else none

/-- The instant in a timestamp register that was read into a wider word. -/
def ofRegister (register : UInt64) : Instant :=
  ⟨register &&& lastTick⟩

/-- The instant a duration later. -/
def add (i : Instant) (d : Duration) : Instant :=
  ⟨(i.ticks + d.ticks) &&& lastTick⟩

/-- The instant a duration earlier. -/
def sub (i : Instant) (d : Duration) : Instant :=
  ⟨(i.ticks - d.ticks) &&& lastTick⟩

instance : HAdd Instant Duration Instant := ⟨add⟩

instance : HSub Instant Duration Instant := ⟨sub⟩

/-- The time that passed since an earlier instant. Which of two instants is the
earlier one cannot be told from their ticks, as the counter turns over. -/
def since (i earlier : Instant) : Duration :=
  ⟨(i.ticks - earlier.ticks) &&& lastTick⟩

/-- The low 32 bits of an instant, the form in which it travels in a frame. -/
def low32 (i : Instant) : UInt32 :=
  i.ticks.toUInt32

theorem toNat_ofRegister (register : UInt64) :
    (ofRegister register).ticks.toNat = register.toNat % clockTurn :=
  toNat_and_lastTick register

theorem toNat_add (i : Instant) (d : Duration) :
    (i + d).ticks.toNat = (i.ticks.toNat + d.ticks.toNat) % clockTurn := by
  change ((i.ticks + d.ticks) &&& lastTick).toNat = _
  rw [toNat_and_lastTick, UInt64.toNat_add]
  exact Nat.mod_mod_of_dvd _ (by decide)

theorem toNat_sub (i : Instant) (d : Duration) :
    (i - d).ticks.toNat = (UInt64.size - d.ticks.toNat + i.ticks.toNat) % clockTurn := by
  change ((i.ticks - d.ticks) &&& lastTick).toNat = _
  rw [toNat_and_lastTick, UInt64.toNat_sub]
  exact Nat.mod_mod_of_dvd _ (by decide)

theorem toNat_since (i earlier : Instant) :
    (i.since earlier).ticks.toNat =
      (UInt64.size - earlier.ticks.toNat + i.ticks.toNat) % clockTurn := by
  change ((i.ticks - earlier.ticks) &&& lastTick).toNat = _
  rw [toNat_and_lastTick, UInt64.toNat_sub]
  exact Nat.mod_mod_of_dvd _ (by decide)

theorem toNat_low32 (i : Instant) : i.low32.toNat = i.ticks.toNat % UInt32.size :=
  UInt64.toNat_toUInt32 i.ticks

end Instant

end Ranging
