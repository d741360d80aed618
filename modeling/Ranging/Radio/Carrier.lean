import Ranging.Number.Scalar
import Ranging.Radio.Settings

/-!
# Carrier offset

While a frame is received the transceiver follows the carrier of its sender.
The carrier integrator tells by how much that carrier is off the own one, and
so by how much the two clocks differ.
-/

namespace Ranging

/-- How far the carrier of a received frame is off. -/
structure CarrierOffset (F : Type) where
  hertz : F
  /-- The offset in millionths of the centre frequency. It is positive when the
  clock of the receiver is the faster one. -/
  millionths : F
deriving DecidableEq

namespace CarrierOffset

/-- The samples per symbol, by which the integrator is scaled. -/
def samples : Bitrate → Int
  | .kbps110 => 8192
  | .kbps850 => 1024
  | .kbps6800 => 1024

/-- What one step of the integrator is worth for one sample per symbol: half
the sampling frequency, divided by `2 ^ 17`. -/
def hertzPerStep {F : Type} [Scalar F] : F :=
  (Scalar.ofInt 998400000 / Scalar.ofInt 2) / Scalar.ofInt 131072

/-- The offset with the given hertz at a centre frequency. -/
def ofHertz {F : Type} [Scalar F] (hertz : F) (centerHz : UInt64) : CarrierOffset F :=
  ⟨hertz, (Scalar.ofInt 1000000 * hertz) / Scalar.ofNat centerHz.toNat⟩

/-- The offset that the integrator shows after a reception. -/
def ofIntegrator {F : Type} [Scalar F] (integrator : Int32) (bitrate : Bitrate)
    (channel : Channel) : CarrierOffset F :=
  ofHertz ((Scalar.ofInt integrator.toInt * hertzPerStep) / Scalar.ofInt (samples bitrate))
    channel.centerHz

/-- The drift of the remote clock relative to the own rate, which a reply
interval is corrected by. -/
def clockRatio {F : Type} [Scalar F] (offset : CarrierOffset F) : F :=
  -offset.millionths / Scalar.ofInt 1000000

end CarrierOffset

end Ranging
