import Mathlib
import Ranging.Proofs.Run.Sequence

/-!
# True time and the clock

True time is a natural number of milliseconds, of which the clock of a node shows the low
32 bits. Two times that lie less than half a turn of the clock apart are told apart by
the signed difference of what the clock shows at them.

A radio `KeepsTime` if its clock shows the true time, which never goes back, and if a
pause that follows a reading of the clock at once takes as long as it should. Nothing is
said of how long requests and other pauses take.
-/

namespace Ranging

/-- What the millisecond clock shows at a true time. -/
def clockAt (time : Nat) : UInt32 := UInt32.ofNat time

/-- The clock goes on as far as time does. -/
theorem clockAt_add (time : Nat) (length : UInt32) :
    clockAt (time + length.toNat) = clockAt time + length := by
  rw [clockAt, UInt32.ofNat_add, UInt32.ofNat_toNat, clockAt]

namespace Radio

/-- The clock of a radio shows the true time of its states, and a pause that follows a
reading is exact. -/
structure KeepsTime {ε ρ : Type} (radio : Radio ε ρ) (time : ρ → Nat) : Prop where
  shows : ∀ state, (radio.clock state).1 = clockAt (time state)
  /-- Reading the clock takes no time. -/
  time_clock : ∀ state, time (radio.clock state).2 = time state
  le_answer : ∀ request state, time state ≤ time (radio.answer request state).2
  le_elapse : ∀ length state, time state ≤ time (radio.elapse length state)
  time_sleep : ∀ wait state,
    time (radio.elapse (.millis wait) (radio.clock state).2) = time state + wait.toNat

namespace KeepsTime

variable {L ε σ ρ α : Type} {radio : Radio ε ρ} {time : ρ → Nat}

end KeepsTime

end Radio

end Ranging
