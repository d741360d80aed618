import Mathlib.Tactic.FieldSimp
import Mathlib.Tactic.NormNum
import Ranging.Proofs.Clock.Flight

/-!
# Clock drift is corrected to second order

A responder whose clock runs at `1 + drift` times the rate of the initiator's counts
`reply * (1 + drift)` ticks for a reply that takes `reply` ticks of the initiator. The initiator
sees the carrier of the Response at `-drift` times the centre frequency and reads the drift off it.
Scaled back by `1 - drift`, the reply it subtracts is `reply * (1 - drift ^ 2)`: the part of the
error that is linear in the drift is gone, and the sign of the offset is what decides whether it
goes or doubles.
-/

namespace Ranging

theorem Channel.centerHz_pos (channel : Channel) : 0 < channel.centerHz.toNat := by
  cases channel <;> decide

theorem CarrierOffset.clockRatio_ofHertz (hertz : Rat) (centerHz : UInt64) :
    (CarrierOffset.ofHertz hertz centerHz).clockRatio = -hertz / centerHz.toNat := by
  simp only [ofHertz, clockRatio, Scalar.ofInt_rat, Scalar.ofNat_rat]
  push_cast
  ring

/-- A carrier that is off by the drift of its sender shows that drift, on every channel. -/
theorem Channel.clockRatio_ofHertz_drift (channel : Channel) (drift : Rat) :
    (CarrierOffset.ofHertz (-drift * channel.centerHz.toNat) channel.centerHz).clockRatio =
      drift := by
  have hcenter : (channel.centerHz.toNat : Rat) ≠ 0 := by
    exact_mod_cast channel.centerHz_pos.ne'
  rw [CarrierOffset.clockRatio_ofHertz]
  field_simp

theorem ticksBetween_add_ofNat (earlier : UInt32) (ticks : Nat) (h : ticks < 2 ^ 32) :
    ticksBetween earlier (earlier + UInt32.ofNat ticks) = (ticks : Rat) := by
  rw [ticksBetween, Scalar.ofNat_rat, UInt32.add_comm, UInt32.add_sub_cancel,
    UInt32.toNat_ofNat_of_lt' h]

/-- What a drift of the responder's clock adds to the time of flight is of second order: half of the
reply, times the square of the drift. -/
theorem drift_cancels_to_second_order (channel : Channel) (pollSent pollReceived : UInt32)
    (drift reply flight : Rat) (replyTicks roundTicks : Nat)
    (hreply : reply * (1 + drift) = replyTicks) (hreplyTicks : replyTicks < 2 ^ 32)
    (hround : 2 * flight + reply = roundTicks) (hroundTicks : roundTicks < 2 ^ 32) :
    timeOfFlight pollSent pollReceived (pollReceived + UInt32.ofNat replyTicks)
        (pollSent + UInt32.ofNat roundTicks)
        (CarrierOffset.ofHertz (-drift * channel.centerHz.toNat) channel.centerHz).clockRatio =
      (flight + reply * drift ^ 2 / 2) * tickSeconds := by
  rw [timeOfFlight, channel.clockRatio_ofHertz_drift, ticksBetween_add_ofNat _ _ hreplyTicks,
    ticksBetween_add_ofNat _ _ hroundTicks, ← hreply, ← hround]
  simp only [Scalar.ofInt_rat]
  push_cast
  ring

/-- A reply of a million ticks by a clock that is ten millionths fast is counted ten ticks too
long. A twentieth of a thousandth of a tick is left of them, also across a wrap. -/
theorem ten_millionths_cancelled :
    timeOfFlight 0xffffff00 7 (7 + UInt32.ofNat 1000010) (0xffffff00 + UInt32.ofNat 1004000)
        (CarrierOffset.ofHertz (-(1 / 100000 : Rat) * Channel.channel5.centerHz.toNat)
          Channel.channel5.centerHz).clockRatio =
      (2000 + 1 / 20000) * tickSeconds := by
  rw [drift_cancels_to_second_order .channel5 0xffffff00 7 (1 / 100000) 1000000 2000 1000010 1004000
    (by norm_num) (by norm_num) (by norm_num) (by norm_num)]
  norm_num

end Ranging
