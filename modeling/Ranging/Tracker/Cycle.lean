import Ranging.Tracker.Basic
import Ranging.Tracker.Cadence

/-!
# The positioning cycle

A tag finds its position once per period for as long as it lives. A cycle that
fails is followed by the next one like any other. A program is finite, so the
number of cycles is a parameter.
-/

namespace Ranging

namespace Tracker

/-- The line that a cycle logs when it has overrun its deadline. -/
def overrunLines {F : Type} : CycleEnd → List (Line F)
  | .early _ => []
  | .overran excess => [.cycleOverran excess]

/-- Sleep until the next cycle. -/
def sleep {F ε : Type} (ending : CycleEnd) : TrackerProgram F ε Unit := do
  Program.logAll (overrunLines ending)
  Program.log (.cycleDue ending.wait)
  Program.pauseMillis ending.wait

/-- Carry out a number of cycles of a cadence. -/
def cycleFrom {F ε : Type} [Scalar F] : Nat → Cadence → TrackerProgram F ε Unit
  | 0, _ => pure ()
  | cycles + 1, cadence => do
      let _ ← step.run
      let now ← Program.clock
      let (ending, cadence) := cadence.next now
      sleep ending
      cycleFrom cycles cadence

/-- Carry out a number of cycles, of which the first begins at once. -/
def cycle {F ε : Type} [Scalar F] (cycles : Nat) : TrackerProgram F ε Unit := do
  let tracker ← Program.getState
  let now ← Program.clock
  cycleFrom cycles (Cadence.start tracker.config.period now)

end Tracker

end Ranging
