import Ranging.Proofs.Tracker.Timing

/-!
# Cycles that end in time

The time left until a deadline is read as a signed number. If it is half a turn of the clock or
more, it therefore looks as if the deadline had passed. So a cycle that ends in time is let sleep
until its deadline just when less than half a turn is left of its period. Otherwise it is reported
to have overrun, and the next cycle begins at once.

A cadence always holds the beginning of the cycle that goes on, as the clock shows it, whatever the
period and however long the cycles take. This is what carries the statement about a single call over
to every cycle of a tracker.
-/

namespace Ranging

theorem toInt_toInt32 (x : UInt32) :
    x.toInt32.toInt = if x.toNat < 2 ^ 31 then (x.toNat : Int) else (x.toNat : Int) - 2 ^ 32 := by
  change x.toBitVec.toInt = _
  rw [BitVec.toInt_eq_toNat_cond]
  change (if 2 * x.toNat < 2 ^ 32 then (x.toNat : Int) else (x.toNat : Int) - 2 ^ 32) = _
  by_cases h : x.toNat < 2 ^ 31
  · rw [if_pos h, if_pos (by omega)]
  · rw [if_neg h, if_neg (by omega)]

namespace Cadence

/-- What a call says, and the cadence after it, wherever the clock stands. -/
theorem next_eq (c : Cadence) (now : UInt32) :
    c.next now =
      if (c.deadline - now).toNat < 2 ^ 31 then
        (.early (c.deadline - now), start c.period c.deadline)
      else (.overran (now - c.deadline), start c.period now) := by
  have hlt := (c.deadline - now).toNat_lt
  rw [next, remaining, toInt_toInt32]
  by_cases h : (c.deadline - now).toNat < 2 ^ 31
  · rw [if_pos h, if_pos h, if_pos (Int.natCast_nonneg _), Int.natAbs_natCast, UInt32.ofNat_toNat]
    rfl
  · have habs : (((c.deadline - now).toNat : Int) - 2 ^ 32).natAbs =
        2 ^ 32 - (c.deadline - now).toNat := by omega
    have hexcess : UInt32.ofNat (2 ^ 32 - (c.deadline - now).toNat) = now - c.deadline := calc
      UInt32.ofNat (2 ^ 32 - (c.deadline - now).toNat) = -(c.deadline - now) := by
        rw [← UInt32.toNat_inj, UInt32.toNat_ofNat', UInt32.toNat_neg]
        rfl
      _ = now - c.deadline := UInt32.neg_sub
    rw [if_neg h, if_neg h, if_neg (by omega), habs, hexcess]
    rfl

/-- After the sleep that a call asks for, the clock shows the time that the cadence then holds. -/
theorem snd_next (c : Cadence) (now : UInt32) :
    (c.next now).2 = start c.period (now + (c.next now).1.wait) := by
  rw [next_eq]
  by_cases h : (c.deadline - now).toNat < 2 ^ 31
  · rw [if_pos h, CycleEnd.wait, add_sub_cancel]
  · rw [if_neg h, CycleEnd.wait, UInt32.add_zero]

/-- The call at the end of a cycle, by the time that the cycle took. -/
theorem next_start (period now elapsed : UInt32) :
    (start period now).next (now + elapsed) =
      if (period - elapsed).toNat < 2 ^ 31 then
        (.early (period - elapsed), start period (now + period))
      else (.overran (elapsed - period), start period (now + elapsed)) := by
  have hleft : (start period now).deadline - (now + elapsed) = period - elapsed :=
    add_sub_add_left_eq_sub period elapsed now
  have hexcess : now + elapsed - (start period now).deadline = elapsed - period :=
    add_sub_add_left_eq_sub elapsed period now
  rw [next_eq, hleft, hexcess]
  rfl

/-- A cycle that took the given time sleeps for what is left of its period, and the next deadline
comes a period after its own. -/
def Keeps (period now elapsed : UInt32) : Prop :=
  ((start period now).next (now + elapsed)).1 = .early (period - elapsed) ∧
    ((start period now).next (now + elapsed)).2.deadline = now + period + period

theorem keeps_iff (period now elapsed : UInt32) :
    Keeps period now elapsed ↔ (period - elapsed).toNat < 2 ^ 31 := by
  rw [Keeps, next_start]
  by_cases h : (period - elapsed).toNat < 2 ^ 31
  · rw [if_pos h]
    exact iff_of_true ⟨rfl, rfl⟩ h
  · rw [if_neg h]
    refine iff_of_false ?_ h
    intro hkeeps
    cases hkeeps.1

end Cadence

namespace Radio

variable {F ε ρ : Type} [Scalar F]

/-- After the work of the cycle with a number, the cadence answers as given, the tracker sleeps as
long as that says, and the next cycle begins at the given time. -/
structure CycleEnds (radio : Radio ε ρ) (time : ρ → Nat) (tracker : Tracker F) (start : ρ) (k : Nat)
    (ending : CycleEnd) (next : Nat) : Prop where
  events_eq : (radio.run (Tracker.cycle (k + 1)) tracker start).events =
    (radio.run (Tracker.cycle k) tracker start).events ++
      ((radio.work tracker start k).events ++ Tracker.sleepEvents ending)
  time_begun : time (radio.begun tracker start (k + 1)) = next

namespace KeepsTime

variable {radio : Radio ε ρ} {time : ρ → Nat}

/-- The cadence of the cycles holds the beginning of the cycle that goes on. -/
theorem value_paced_eq_start (h : radio.KeepsTime time) (tracker : Tracker F) (start : ρ)
    (k : Nat) :
    (radio.paced tracker start k).value =
      Cadence.start tracker.config.period (clockAt (time (radio.begun tracker start k))) := by
  induction k with
  | zero =>
      change Cadence.start tracker.config.period (radio.clock start).1 =
        Cadence.start tracker.config.period (clockAt (time (radio.clock start).2))
      rw [h.shows, h.time_clock]
  | succ k ih =>
      rw [paced_succ, begun_succ, h.time_sleep, clockAt_add, ← h.shows]
      change (radio.verdict tracker start k).2 = _
      rw [verdict, Cadence.snd_next, ih]
      rfl

/-- The call at the end of a cycle, by the time that its work took. -/
theorem verdict_eq (h : radio.KeepsTime time) (tracker : Tracker F) (start : ρ) (k : Nat)
    (elapsed : UInt32) (helapsed : time (radio.worked tracker start k) =
      time (radio.begun tracker start k) + elapsed.toNat) :
    (radio.verdict tracker start k).1 =
      if (tracker.config.period - elapsed).toNat < 2 ^ 31 then
        .early (tracker.config.period - elapsed)
      else .overran (elapsed - tracker.config.period) := by
  rw [verdict, h.value_paced_eq_start, h.shows, helapsed, clockAt_add, Cadence.next_start,
    apply_ite Prod.fst]

theorem cycleEnds_verdict (h : radio.KeepsTime time) (tracker : Tracker F) (start : ρ) (k : Nat) :
    radio.CycleEnds time tracker start k (radio.verdict tracker start k).1
      (time (radio.worked tracker start k) + (radio.verdict tracker start k).1.wait.toNat) where
  events_eq := by rw [run_cycle, run_cycle, paced_succ]
  time_begun := by rw [begun_succ, h.time_sleep]

end KeepsTime

end Radio

/-- A cycle that ends in time keeps the schedule just when less than half a turn of the clock is
left of its period: it then sleeps until its deadline, where the next one begins. With more left it
is reported to have overrun, and the next one begins at once. -/
theorem in_time_kept_below_half_turn {F ε ρ : Type} [Scalar F] :
    (∀ period now elapsed : UInt32, elapsed ≤ period →
      (Cadence.Keeps period now elapsed ↔ period.toNat - elapsed.toNat < 2 ^ 31) ∧
      (2 ^ 31 ≤ period.toNat - elapsed.toNat →
        (Cadence.start period now).next (now + elapsed) =
          (.overran (elapsed - period), Cadence.start period (now + elapsed)))) ∧
    ∀ (radio : Radio ε ρ) (time : ρ → Nat) (tracker : Tracker F) (start : ρ) (k : Nat)
      (elapsed : UInt32),
      radio.KeepsTime time →
      let period := tracker.config.period
      let began := time (radio.begun tracker start k)
      time (radio.worked tracker start k) = began + elapsed.toNat → elapsed ≤ period →
        (period.toNat - elapsed.toNat < 2 ^ 31 →
          radio.CycleEnds time tracker start k (.early (period - elapsed))
            (began + period.toNat)) ∧
        (2 ^ 31 ≤ period.toNat - elapsed.toNat →
          radio.CycleEnds time tracker start k (.overran (elapsed - period))
            (began + elapsed.toNat)) := by
  refine ⟨?_, ?_⟩
  · intro period now elapsed hle
    rw [Cadence.keeps_iff, Cadence.next_start, UInt32.toNat_sub_of_le period elapsed hle]
    exact ⟨Iff.rfl, fun hlong => if_neg (Nat.not_lt.2 hlong)⟩
  · intro radio time tracker start k elapsed htime period began hended hle
    have hleft := UInt32.toNat_sub_of_le tracker.config.period elapsed hle
    have hends := htime.cycleEnds_verdict tracker start k
    rw [htime.verdict_eq tracker start k elapsed hended, hended, hleft] at hends
    refine ⟨?_, ?_⟩
    · intro hshort
      rw [if_pos hshort, CycleEnd.wait, hleft, Nat.add_assoc,
        Nat.add_sub_of_le (UInt32.le_iff_toNat_le.1 hle)] at hends
      exact hends
    · intro hlong
      rw [if_neg (Nat.not_lt.2 hlong)] at hends
      exact hends

/-- A tracker with a period of 100 milliseconds more than half a turn of the clock. -/
def longTracker : Tracker Rat :=
  { sampleTracker with config := ⟨2147483748, 0⟩ }

/-- The first cycle takes 60 milliseconds. With a period of 200 milliseconds it sleeps for the rest,
with the long one it is said to have overrun. -/
theorem slowRadio_hurries_longTracker :
    slowRadio.KeepsTime id ∧
      Cadence.Keeps 200 4294967246 60 ∧
      (Cadence.start 2147483748 4294967246).next (4294967246 + 60) =
        (.overran (60 - 2147483748), Cadence.start 2147483748 (4294967246 + 60)) ∧
      slowRadio.CycleEnds id sampleTracker (2 ^ 32 - 50) 0 (.early 140) (2 ^ 32 + 150) ∧
      slowRadio.CycleEnds id longTracker (2 ^ 32 - 50) 0 (.overran 2147483608) (2 ^ 32 + 10) := by
  obtain ⟨hcalls, hcycles⟩ := in_time_kept_below_half_turn (F := Rat) (ε := String) (ρ := Nat)
  obtain ⟨hkeeps, -⟩ := hcalls 200 4294967246 60 (by decide)
  obtain ⟨-, hoverran⟩ := hcalls 2147483748 4294967246 60 (by decide)
  have hended : slowRadio.worked sampleTracker (2 ^ 32 - 50) 0 = 2 ^ 32 + 10 := by cbv
  have hended' : slowRadio.worked longTracker (2 ^ 32 - 50) 0 = 2 ^ 32 + 10 := by cbv
  obtain ⟨hshort, -⟩ :=
    hcycles slowRadio id sampleTracker (2 ^ 32 - 50) 0 60 keepsTime_slowRadio hended (by decide)
  obtain ⟨-, hlong⟩ :=
    hcycles slowRadio id longTracker (2 ^ 32 - 50) 0 60 keepsTime_slowRadio hended' (by decide)
  exact ⟨keepsTime_slowRadio, hkeeps.2 (by decide), hoverran (by decide), hshort (by decide),
    hlong (by decide)⟩

/-- With a period of half a turn of the clock, a cycle that took no time at all is late. -/
theorem not_keeps_half_turn : ¬ Cadence.Keeps 2147483648 0 0 := by
  rw [Cadence.keeps_iff]
  decide

end Ranging
