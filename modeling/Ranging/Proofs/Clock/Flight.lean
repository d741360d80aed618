import Mathlib.Tactic.NormNum
import Mathlib.Tactic.Ring
import Mathlib.Algebra.Field.Rat
import Ranging.Clock.Flight
import Ranging.Radio.Carrier

/-!
# Times of flight from low timestamps

The time between two instants is found from their low 32 bits as long as it is
less than a turn of 32 bits, wherever the instants lie. Over exact numbers and
without drift, the time of flight is then half of what the round trip took
beyond the reply.
-/

namespace Ranging

namespace Instant

/-- The low bits of two instants tell the low bits of the time between them. -/
theorem toNat_low32_sub (i j : Instant) :
    (j.low32 - i.low32).toNat = (j.since i).ticks.toNat % 2 ^ 32 := by
  have hi := i.ticks.toNat_lt
  rw [UInt32.toNat_sub, toNat_low32, toNat_low32, toNat_since]
  simp only [UInt32.size, UInt64.size, clockTurn]
  omega

/-- The time that passed after an instant, from the low bits. -/
theorem toNat_low32_sub_of_eq (i j : Instant) (n : Nat)
    (h : j.ticks.toNat = (i.ticks.toNat + n) % 2 ^ 40) (hn : n < 2 ^ 32) :
    (j.low32 - i.low32).toNat = n := by
  rw [UInt32.toNat_sub, toNat_low32, toNat_low32, h]
  simp only [UInt32.size]
  omega

end Instant

/-! ## Times of flight from whole durations -/

/-- The time of flight that follows from how long the round trip and the reply took. -/
def flightOfDurations {F : Type} [Scalar F] (roundTrip reply : Duration) (offset : F) : F :=
  ((Scalar.ofNat roundTrip.ticks.toNat -
      Scalar.ofNat reply.ticks.toNat * (Scalar.ofInt 1 - offset)) / Scalar.ofInt 2) * tickSeconds

theorem ticksBetween_low32 {F : Type} [Scalar F] (i j : Instant)
    (h : (j.since i).ticks.toNat < 2 ^ 32) :
    (ticksBetween i.low32 j.low32 : F) = Scalar.ofNat (j.since i).ticks.toNat := by
  rw [ticksBetween, Instant.toNat_low32_sub, Nat.mod_eq_of_lt h]

/-- Low timestamps tell how long a time is up to turns of 32 bits. A round trip and a reply that
are shorter than one turn have the time of flight that their whole durations have. This holds of
machine numbers and exact ones, for every drift, and wherever the two clocks turn over. -/
theorem low_words_lose_nothing :
    (∀ i j : Instant, (j.low32 - i.low32).toNat = (j.since i).ticks.toNat % 2 ^ 32) ∧
    ∀ (F : Type) [Scalar F] (pollSent pollReceived responseSent responseReceived : Instant)
      (offset : F),
      (responseReceived.since pollSent).ticks.toNat < 2 ^ 32 →
      (responseSent.since pollReceived).ticks.toNat < 2 ^ 32 →
        timeOfFlight pollSent.low32 pollReceived.low32 responseSent.low32 responseReceived.low32
            offset =
          flightOfDurations (responseReceived.since pollSent) (responseSent.since pollReceived)
            offset := by
  refine ⟨Instant.toNat_low32_sub, ?_⟩
  intro F _ pollSent pollReceived responseSent responseReceived offset hround hreply
  rw [timeOfFlight, ticksBetween_low32 _ _ hround, ticksBetween_low32 _ _ hreply,
    flightOfDurations]

/-- During the round trip the counter of the initiator turns over at 40 bits, during the reply that
of the responder at 32. -/
theorem turning_low_words :
    let pollSent := Instant.mk 0xffffffff00
    let responseReceived := Instant.mk 51744
    let pollReceived := Instant.mk 0x12ffffff00
    let responseSent := Instant.mk 0x130000c250
    (responseReceived.since pollSent).ticks.toNat < 2 ^ 32 ∧
      (responseSent.since pollReceived).ticks.toNat < 2 ^ 32 ∧
      (responseReceived.low32 - pollSent.low32).toNat = 52000 ∧
      timeOfFlight pollSent.low32 pollReceived.low32 responseSent.low32 responseReceived.low32
          (1 / 1000 : Rat) =
        1025 * tickSeconds := by
  intro pollSent responseReceived pollReceived responseSent
  have hround : (responseReceived.since pollSent).ticks.toNat = 52000 := by decide
  have hreply : (responseSent.since pollReceived).ticks.toNat = 50000 := by decide
  obtain ⟨hlow, hflight⟩ := low_words_lose_nothing
  refine ⟨by omega, by omega, ?_, ?_⟩
  · rw [hlow, hround]
    rfl
  · rw [hflight Rat _ _ _ _ _ (by omega) (by omega), flightOfDurations, hround, hreply]
    norm_num

/-! ## Without drift -/

/-- An integrator at zero shows that the clocks do not drift. -/
theorem clockRatio_ofIntegrator_zero (bitrate : Bitrate) (channel : Channel) :
    (CarrierOffset.ofIntegrator 0 bitrate channel : CarrierOffset Rat).clockRatio = 0 := by
  simp [CarrierOffset.ofIntegrator, CarrierOffset.ofHertz, CarrierOffset.clockRatio]

/-- A round trip that takes twice `flight` ticks longer than the reply. -/
theorem timeOfFlight_eq (sent pollReceived responseSent received : UInt32) (flight reply : Nat)
    (hround : (received - sent).toNat = 2 * flight + reply)
    (hreply : (responseSent - pollReceived).toNat = reply) :
    timeOfFlight sent pollReceived responseSent received (0 : Rat) = flight * tickSeconds := by
  rw [timeOfFlight, ticksBetween, ticksBetween, hround, hreply]
  simp only [Scalar.ofNat_rat, Scalar.ofInt_rat]
  push_cast
  ring

end Ranging
