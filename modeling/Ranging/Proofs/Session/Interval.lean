import Ranging.Proofs.Clock.Flight
import Ranging.Proofs.Session.Reply

/-!
# The reply interval

A responder chooses the slot of its Response before it sends it. The reply delay counts from the
reception of the Poll, the slot begins on the boundary of 512 ticks before the delay is over, and
the antenna adds its own delay. The delay is a whole number of boundaries, so what the slot loses
is what the Poll was received behind a boundary.

The greatest delays make an interval of just `2 ^ 32 - 1` ticks. So the low timestamps of a Response
always tell the interval, wherever the clock of the responder wraps.
-/

namespace Ranging

namespace Responder

theorem toNat_departure_replySlot (config : Config) (received : Instant) :
    (departure config (replySlot config received)).ticks.toNat =
      ((received.ticks.toNat + config.timeouts.replyDelay.toNat * 65536) % 2 ^ 40 / 512 * 512 +
        config.antennaDelay.send.toNat) % 2 ^ 40 := by
  rw [toNat_departure, replySlot, Instant.slot, toNat_slotStart_slotOf, Instant.toNat_add,
    Duration.toNat_ofMicros, Nat.mod_mod]
  rfl

theorem toNat_departure_since (config : Config) (received : Instant)
    (hrange : received.ticks ≤ lastTick) (hdelay : 1 ≤ config.timeouts.replyDelay) :
    ((departure config (replySlot config received)).since received).ticks.toNat +
        received.ticks.toNat % 512 =
      config.timeouts.replyDelay.toNat * 65536 + config.antennaDelay.send.toNat := by
  have hrange' : received.ticks.toNat < 2 ^ 40 :=
    Nat.lt_succ_of_le (UInt64.le_iff_toNat_le.1 hrange)
  have hdelay' : 1 ≤ config.timeouts.replyDelay.toNat := UInt16.le_iff_toNat_le.1 hdelay
  have hdelay_lt := config.timeouts.replyDelay.toNat_lt
  have hsend_lt := config.antennaDelay.send.toNat_lt
  rw [Instant.toNat_since, toNat_departure_replySlot]
  -- The delay is a multiple of 512 ticks, so rounding down takes off what the reception is behind
  -- its boundary, and nothing turns over in between that does not cancel.
  simp only [clockTurn, UInt64.size]
  omega

end Responder

/-- The interval between the two times of a Response is known from the delays of the responder and
the place of the Poll behind a boundary, and the low timestamps in the Response tell all of it. -/
theorem reply_interval_exact (config : Config) (received : Instant) (peer : UInt16) (seq : UInt8)
    (hrange : received.ticks ≤ lastTick) (hdelay : 1 ≤ config.timeouts.replyDelay) :
    let sent := Responder.departure config (Responder.replySlot config received)
    let frame := (Response.ofInstants config.pan config.addr peer received sent seq).bytes
    ((sent.since received).ticks.toNat : Int) =
        config.timeouts.replyDelay.toNat * 65536 + config.antennaDelay.send.toNat -
          received.ticks.toNat % 512 ∧
      (sent.since received).ticks.toNat < 2 ^ 32 ∧
      ∃ response, readFrame Response frame 0 = (.ok response, Response.size) ∧
        (response.responseSent - response.pollReceived).toNat =
          (sent.since received).ticks.toNat := by
  intro sent frame
  have hinterval : (sent.since received).ticks.toNat + received.ticks.toNat % 512 =
      config.timeouts.replyDelay.toNat * 65536 + config.antennaDelay.send.toNat :=
    Responder.toNat_departure_since config received hrange hdelay
  have hdelay_lt := config.timeouts.replyDelay.toNat_lt
  have hsend_lt := config.antennaDelay.send.toNat_lt
  have hlt : (sent.since received).ticks.toNat < 2 ^ 32 := by omega
  refine ⟨by omega, hlt, _, readFrame_bytes_response _, ?_⟩
  rw [← Nat.mod_eq_of_lt hlt]
  exact Instant.toNat_low32_sub received sent

/-- A node with the longest delays. -/
def slowConfig : Config :=
  { Config.standard Config.defaultPan 2 with
    antennaDelay := ⟨65535, 65535⟩
    timeouts := { Timeouts.default with replyDelay := 65535 } }

/-- For a Poll received on the last boundary before the clock turns, the interval is the greatest
that low timestamps can tell. -/
theorem slowConfig_interval :
    ((Responder.departure slowConfig (Responder.replySlot slowConfig ⟨0xfffffffe00⟩)).since
      ⟨0xfffffffe00⟩).ticks.toNat = 2 ^ 32 - 1 := by
  obtain ⟨hinterval, -⟩ :=
    reply_interval_exact slowConfig ⟨0xfffffffe00⟩ 1 0 (by decide) (by decide)
  exact Int.ofNat_inj.1 hinterval

end Ranging
