import Ranging.Radio.Program
import Ranging.Tracker.FixQueue

/-!
# Publishing fixes

The two ends of the queue of fixes as programs, which log what they do: the
cycle publishes a fix at one end, and the transport is served at the other.
-/

namespace Ranging

namespace FixQueue

/-- Queue a fix, or drop it if the queue is full, and return whether it was
queued. -/
def publish {F ε : Type} (fix : Fix F) : Program (Line F) ε (FixQueue F) Bool := do
  let queue ← Program.getState
  match queue.push? fix with
  | some queue => do
      Program.setState queue
      return true
  | none => do
      Program.log .fixDropped
      return false

/-- Offer all queued fixes to the transport. -/
def serve {F ε : Type} [Scalar F] (accepts : Nat → Location → Bool) :
    Program (Line F) ε (FixQueue F) (Drained F) := do
  let queue ← Program.getState
  let (drained, rest) := queue.drain accepts
  Program.setState rest
  Program.logAll drained.log
  return drained

end FixQueue

end Ranging
