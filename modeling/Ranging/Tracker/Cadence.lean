/-!
# The cadence of the positioning cycle

Deadlines are one period apart on a millisecond clock of 32 bits that turns
over. The time left until a deadline is a difference modulo `2 ^ 32`, read as a
signed number: the deadline has passed if it is negative. A cycle that overran
its deadline starts the schedule anew, so cycles that were missed are not caught
up with.
-/

namespace Ranging

/-- A schedule of deadlines, in milliseconds. -/
structure Cadence where
  /-- The time between two deadlines. -/
  period : UInt32
  /-- The last deadline that was kept, or the start of the schedule. -/
  last : UInt32
deriving DecidableEq

/-- What a cadence says at the end of a cycle. -/
inductive CycleEnd where
  /-- The deadline is still to come, after the given milliseconds. -/
  | early (wait : UInt32)
  /-- The deadline has passed, by the given milliseconds. -/
  | overran (excess : UInt32)
deriving DecidableEq

namespace CycleEnd

/-- The time to sleep until the next cycle. -/
def wait : CycleEnd → UInt32
  | early wait => wait
  | overran _ => 0

end CycleEnd

namespace Cadence

/-- A schedule whose first deadline comes one period after its start. -/
def start (period now : UInt32) : Cadence := ⟨period, now⟩

/-- The next deadline. -/
def deadline (c : Cadence) : UInt32 := c.last + c.period

/-- The time left until the next deadline, negative if it has passed. -/
def remaining (c : Cadence) (now : UInt32) : Int :=
  (c.deadline - now).toInt32.toInt

/-- How the time at the end of a cycle stands to its deadline, and the schedule
from there on. -/
def next (c : Cadence) (now : UInt32) : CycleEnd × Cadence :=
  if 0 ≤ c.remaining now then
    (.early (UInt32.ofNat (c.remaining now).natAbs), { c with last := c.deadline })
  else (.overran (UInt32.ofNat (c.remaining now).natAbs), { c with last := now })

end Cadence

end Ranging
