import Ranging.Clock.Instant
import Ranging.Number.Scalar

/-!
# Time of flight

In single-sided ranging the initiator knows four times: when its Poll left and
the Response arrived, on its own clock, and when the Poll arrived and the
Response left, on the responder's clock. Half of what the round trip took
beyond the reply is the time of flight. The two clocks run at slightly
different rates, so the reply interval is first brought to the initiator's
rate.

Only differences of two times of one clock enter, so the low 32 bits of the
timestamps are enough.
-/

namespace Ranging

/-- The length of one tick, in seconds. -/
def tickSeconds {F : Type} [Scalar F] : F :=
  (Scalar.ofInt 1 / Scalar.ofInt 499200000) / Scalar.ofInt 128

/-- The speed of light in air, in metres per second. -/
def speedOfLight {F : Type} [Scalar F] : F :=
  Scalar.ofInt 299702547

/-- The ticks from one low timestamp to another, across a wrap at 32 bits. -/
def ticksBetween {F : Type} [Scalar F] (earlier later : UInt32) : F :=
  Scalar.ofNat (later - earlier).toNat

/-- The time of flight of one frame, in seconds. `offset` is the drift of the
responder's clock against the initiator's, relative to the initiator's rate. -/
def timeOfFlight {F : Type} [Scalar F]
    (pollSent pollReceived responseSent responseReceived : UInt32) (offset : F) : F :=
  ((ticksBetween pollSent responseReceived -
      ticksBetween pollReceived responseSent * (Scalar.ofInt 1 - offset)) / Scalar.ofInt 2) *
    tickSeconds

/-- The distance travelled in a time of flight, in metres. -/
def distanceOfFlight {F : Type} [Scalar F] (time : F) : F :=
  time * speedOfLight

end Ranging
