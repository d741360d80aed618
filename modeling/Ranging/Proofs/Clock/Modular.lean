import Mathlib.Data.List.Forall2
import Mathlib.Algebra.Ring.Int.Defs
import Ranging.Clock.Slot

/-!
# Device time is time modulo a turn of the counter

A word of the counter shows a whole number of ticks when it is what is left of that number after
all turns of the counter. What the operations do to the words is what addition, subtraction and
rounding down to a boundary do to the numbers they show. So a calculation over any number of steps
shows what the same calculation over unbounded integers gives, wherever the counter turns over.

A word that shows a number is the only one to show it. Two instants are therefore equal just when
the times they stand for are equal modulo a turn.
-/

namespace Ranging

/-- The word is what a turning counter shows of a number of ticks. -/
def Shows (ticks : UInt64) (time : Int) : Prop :=
  (ticks.toNat : Int) = time % clockTurn

/-- The durations that can be made. -/
inductive Duration.Made : Duration → Prop
  | ofTicks (ticks : UInt64) (d : Duration) (h : Duration.ofTicks? ticks = some d) : Made d
  | ofMicros (micros : UInt16) : Made (.ofMicros micros)
  | ofDelay (ticks : UInt16) : Made (.ofDelay ticks)

/-- The instants that can be made. -/
inductive Instant.Made : Instant → Prop
  | ofTicks (ticks : UInt64) (i : Instant) (h : Instant.ofTicks? ticks = some i) : Made i
  | ofRegister (register : UInt64) : Made (.ofRegister register)
  | ofSlot (slot : UInt32) : Made (.ofSlot slot)

theorem le_lastTick_iff (ticks : UInt64) : ticks ≤ lastTick ↔ ticks.toNat < clockTurn :=
  UInt64.le_iff_toNat_le.trans Nat.lt_succ_iff.symm

theorem Duration.made_iff (d : Duration) : d.Made ↔ d.ticks.toNat < clockTurn := by
  constructor
  · intro h
    cases h with
    | ofTicks ticks _ h =>
      obtain ⟨hle, h⟩ := Option.ite_none_right_eq_some.1 h
      cases h
      exact (le_lastTick_iff ticks).1 hle
    | ofMicros micros =>
      have := micros.toNat_lt
      rw [toNat_ofMicros, clockTurn]
      omega
    | ofDelay ticks =>
      have := ticks.toNat_lt
      rw [toNat_ofDelay, clockTurn]
      omega
  · intro h
    exact .ofTicks d.ticks d (if_pos ((le_lastTick_iff d.ticks).2 h))

theorem Instant.made_iff (i : Instant) : i.Made ↔ i.ticks.toNat < clockTurn := by
  constructor
  · intro h
    cases h with
    | ofTicks ticks _ h =>
      obtain ⟨hle, h⟩ := Option.ite_none_right_eq_some.1 h
      cases h
      exact (le_lastTick_iff ticks).1 hle
    | ofRegister register =>
      rw [toNat_ofRegister]
      exact Nat.mod_lt _ (by decide)
    | ofSlot slot =>
      have := slot.toNat_lt
      rw [ticks_ofSlot, toNat_slotStart, clockTurn]
      omega
  · intro h
    exact .ofTicks i.ticks i (if_pos ((le_lastTick_iff i.ticks).2 h))

namespace Shows

variable {ticks ticks' : UInt64} {time time' : Int}

theorem self (h : ticks.toNat < clockTurn) : Shows ticks ticks.toNat :=
  (Int.emod_eq_of_lt (Int.natCast_nonneg _) (Int.ofNat_lt.2 h)).symm

theorem lt (h : Shows ticks time) : ticks.toNat < clockTurn :=
  Int.ofNat_lt.1 (h ▸ Int.emod_lt_of_pos time (by decide))

/-- Two words are equal just when the numbers they show are equal modulo a turn. -/
theorem eq_iff (h : Shows ticks time) (h' : Shows ticks' time') :
    ticks = ticks' ↔ time % clockTurn = time' % clockTurn := by
  rw [← UInt64.toNat_inj, ← h, ← h', Int.ofNat_inj]

theorem unique (h : Shows ticks time) (h' : Shows ticks' time) : ticks = ticks' :=
  (h.eq_iff h').2 rfl

theorem toNat_add_mod (h : Shows ticks time) (h' : Shows ticks' time') :
    ((ticks.toNat + ticks'.toNat : Nat) : Int) % clockTurn = (time + time') % clockTurn := by
  rw [Int.add_emod time, ← h, ← h']
  rfl

theorem add {i : Instant} {d : Duration} (hi : Shows i.ticks time) (hd : Shows d.ticks time') :
    Shows (i + d).ticks (time + time') := by
  rw [Shows, Instant.toNat_add, Int.natCast_emod]
  exact hi.toNat_add_mod hd

/-- A difference that falls below zero has borrowed a whole number of turns. -/
theorem masked_sub (h : Shows ticks time) (h' : Shows ticks' time') :
    Shows ((ticks - ticks') &&& lastTick) (time - time') := by
  have hlt := ticks'.toNat_lt
  rw [Shows, toNat_and_lastTick, UInt64.toNat_sub, Int.sub_emod, ← h, ← h']
  simp only [clockTurn]
  omega

theorem sub {i : Instant} {d : Duration} (hi : Shows i.ticks time) (hd : Shows d.ticks time') :
    Shows (i - d).ticks (time - time') :=
  hi.masked_sub hd

theorem since {i j : Instant} (hi : Shows i.ticks time) (hj : Shows j.ticks time') :
    Shows (i.since j).ticks (time - time') :=
  hi.masked_sub hj

/-- A turn is a whole number of boundaries, so rounding the word down rounds the time down. -/
theorem reschedule {i : Instant} (hi : Shows i.ticks time) :
    Shows (Instant.ofSlot i.slot).ticks (time / 512 * 512) := by
  unfold Shows at hi ⊢
  rw [Instant.ticks_ofSlot, Instant.slot, toNat_slotStart_slotOf]
  simp only [clockTurn] at hi ⊢
  omega

end Shows

/-- A step of a calculation with device time, with a made instant or duration. -/
inductive ClockStep
  | add (d : Duration) (made : d.Made)
  | sub (d : Duration) (made : d.Made)
  | since (j : Instant) (made : j.Made)
  | reschedule

namespace ClockStep

/-- The instant at which the calculation goes on. A time that passed is only taken. -/
def next : ClockStep → Instant → Instant
  | add d _, i => i + d
  | sub d _, i => i - d
  | since _ _, i => i
  | reschedule, i => .ofSlot i.slot

/-- The word that a step gives. -/
def result : ClockStep → Instant → UInt64
  | since j _, i => (i.since j).ticks
  | step, i => (step.next i).ticks

/-- The words that a calculation gives, step by step. -/
def results : List ClockStep → Instant → List UInt64
  | [], _ => []
  | step :: steps, i => step.result i :: results steps (step.next i)

/-- The step over integers. -/
def nextTime : ClockStep → Int → Int
  | add d _, time => time + d.ticks.toNat
  | sub d _, time => time - d.ticks.toNat
  | since _ _, time => time
  | reschedule, time => time / 512 * 512

/-- The number that a step gives over integers. -/
def time : ClockStep → Int → Int
  | since j _, time => time - j.ticks.toNat
  | step, time => step.nextTime time

/-- The numbers that a calculation over integers gives, step by step. -/
def times : List ClockStep → Int → List Int
  | [], _ => []
  | step :: steps, time => step.time time :: times steps (step.nextTime time)

theorem shows_next (step : ClockStep) {i : Instant} {time : Int} (h : Shows i.ticks time) :
    Shows (step.next i).ticks (step.nextTime time) := by
  cases step with
  | add d made => exact h.add (.self (d.made_iff.1 made))
  | sub d made => exact h.sub (.self (d.made_iff.1 made))
  | since j made => exact h
  | reschedule => exact h.reschedule

theorem shows_result (step : ClockStep) {i : Instant} {time : Int} (h : Shows i.ticks time) :
    Shows (step.result i) (step.time time) := by
  cases step with
  | add d made => exact shows_next (.add d made) h
  | sub d made => exact shows_next (.sub d made) h
  | since j made => exact h.since (.self (j.made_iff.1 made))
  | reschedule => exact shows_next .reschedule h

theorem shows_results (steps : List ClockStep) {i : Instant} {time : Int}
    (h : Shows i.ticks time) : List.Forall₂ Shows (results steps i) (times steps time) := by
  induction steps generalizing i time with
  | nil => exact .nil
  | cons step steps ih => exact .cons (step.shows_result h) (ih (step.shows_next h))

end ClockStep

/-- Every calculation with made instants and durations gives what the integers give modulo a turn.
Adding and subtracting a duration undo each other, the time between two instants leads from one to
the other, and the times there and back make up whole turns. No sum leaves the 64-bit word. -/
theorem device_time_mod_turn (i : Instant) (hi : i.Made) :
    (∀ steps : List ClockStep,
      List.Forall₂ Shows (ClockStep.results steps i) (ClockStep.times steps i.ticks.toNat)) ∧
    ∀ (j : Instant) (d : Duration), j.Made → d.Made →
      i.ticks.toNat + d.ticks.toNat < UInt64.size ∧
      (i + d) - d = i ∧
      (i + d).since i = d ∧
      i + j.since i = j ∧
      ((j.since i).ticks.toNat + (i.since j).ticks.toNat) % clockTurn = 0 := by
  have hi' : Shows i.ticks i.ticks.toNat := .self (i.made_iff.1 hi)
  refine ⟨fun steps => ClockStep.shows_results steps hi', fun j d hj hd => ?_⟩
  have hj' : Shows j.ticks j.ticks.toNat := .self (j.made_iff.1 hj)
  have hd' : Shows d.ticks d.ticks.toNat := .self (d.made_iff.1 hd)
  have hfits : i.ticks.toNat + d.ticks.toNat < UInt64.size := by
    have hlt := hi'.lt
    have hlt' := hd'.lt
    simp only [clockTurn, UInt64.size] at hlt hlt' ⊢
    omega
  have hthere : Shows (j.since i).ticks (j.ticks.toNat - i.ticks.toNat) := hj'.since hi'
  have hback : Shows (i.since j).ticks (i.ticks.toNat - j.ticks.toNat) := hi'.since hj'
  have hundone : Shows ((i + d) - d).ticks i.ticks.toNat :=
    add_sub_cancel_right (i.ticks.toNat : Int) d.ticks.toNat ▸ (hi'.add hd').sub hd'
  have hpassed : Shows ((i + d).since i).ticks d.ticks.toNat :=
    add_sub_cancel_left (i.ticks.toNat : Int) d.ticks.toNat ▸ (hi'.add hd').since hi'
  have hreached : Shows (i + j.since i).ticks j.ticks.toNat :=
    add_sub_cancel (i.ticks.toNat : Int) j.ticks.toNat ▸ hi'.add hthere
  have hturns := hthere.toNat_add_mod hback
  rw [sub_add_sub_cancel, sub_self, Int.zero_emod] at hturns
  exact ⟨hfits, congrArg Instant.mk (hundone.unique hi'), congrArg Duration.mk (hpassed.unique hd'),
    congrArg Instant.mk (hreached.unique hj'), Int.ofNat_inj.1 hturns⟩

/-- A calculation that starts on the last tick and turns over forward and back. -/
def turningSteps : List ClockStep :=
  [.add (.ofMicros 65535) (.ofMicros 65535), .since (.ofSlot 0xffffffff) (.ofSlot 0xffffffff),
    .reschedule, .sub ⟨lastTick⟩ (.ofTicks lastTick _ rfl)]

/-- On the last tick, the first step turns the counter over and the last one turns it back. -/
theorem device_time_mod_turn_turning :
    let i := Instant.ofRegister lastTick
    let j := Instant.ofSlot 3
    let d := Duration.ofDelay 16456
    (i.Made ∧ j.Made ∧ d.Made) ∧
      List.Forall₂ Shows (ClockStep.results turningSteps i)
        [1103806529535, 4294902015, 1103806529024, 4294901249] ∧
      (i + d) - d = i ∧ (i + d).since i = d ∧ i + j.since i = j ∧
      ((j.since i).ticks.toNat + (i.since j).ticks.toNat) % clockTurn = 0 := by
  intro i j d
  have hi : i.Made := .ofRegister lastTick
  have hj : j.Made := .ofSlot 3
  have hd : d.Made := .ofDelay 16456
  have htimes : ClockStep.times turningSteps i.ticks.toNat =
      [1103806529535, 4294902015, 1103806529024, 4294901249] := by decide
  obtain ⟨hresults, hlaws⟩ := device_time_mod_turn i hi
  exact ⟨⟨hi, hj, hd⟩, htimes ▸ hresults turningSteps, (hlaws j d hj hd).2⟩

end Ranging
