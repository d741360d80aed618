import Ranging.Proofs.Run.Time
import Ranging.Proofs.Tracker.Schedule
import Ranging.Tracker.Cycle

/-!
# When the cycles of a tracker begin

A tracker that carries out its cycles asks its cadence once in each of them, when the work
of the cycle is done, and then sleeps as long as it is told. On a radio that keeps time, a
cycle therefore begins when the deadline of the one before it has come, or when the work
of that one is done if this is later: the time between two beginnings is the period or the
duration of the work, whichever is longer.

The beginnings are read off the radio: the cycle with the number `k` begins as the radio is
left by `k` cycles.
-/

namespace Ranging

namespace Tracker

variable {F ε : Type}

/-- The events of the sleep after a cycle. -/
def sleepEvents (ending : CycleEnd) : List (Event (Line F) ε) :=
  (overrunLines ending).map .log ++ [.log (.cycleDue ending.wait), .pause (.millis ending.wait)]

variable [Scalar F]

/-- Carry out one cycle, and return the cadence from there on. -/
def cycleOnce (cadence : Cadence) : TrackerProgram F ε Cadence := do
  let _ ← step.run
  let now ← Program.clock
  sleep (cadence.next now).1
  return (cadence.next now).2

/-- Carry out a number of cycles, and return the cadence from there on. -/
def cyclesFrom : Nat → Cadence → TrackerProgram F ε Cadence
  | 0, cadence => pure cadence
  | count + 1, cadence => cyclesFrom count cadence >>= cycleOnce

/-- The first cycle may be taken off at the front as well. -/
theorem cyclesFrom_succ (count : Nat) (cadence : Cadence) :
    (cyclesFrom (count + 1) cadence : TrackerProgram F ε Cadence) =
      cycleOnce cadence >>= cyclesFrom count := by
  induction count with
  | zero => exact (bind_pure (cycleOnce cadence)).symm
  | succ count ih =>
      rw [cyclesFrom, ih, bind_assoc]
      rfl

/-- The cycles of a tracker, one after the other. -/
theorem cycleFrom_eq (count : Nat) (cadence : Cadence) :
    (cycleFrom count cadence : TrackerProgram F ε Unit) =
      cyclesFrom count cadence >>= fun _ => pure () := by
  induction count generalizing cadence with
  | zero => rfl
  | succ count ih =>
      rw [cyclesFrom_succ, bind_assoc, cycleFrom, cycleOnce]
      simp only [ih, bind_assoc, pure_bind]

end Tracker

namespace Radio

variable {F ε ρ : Type}

/-- A sleep leaves the tracker as it is. -/
theorem run_sleep (radio : Radio ε ρ) (ending : CycleEnd) (tracker : Tracker F) (start : ρ) :
    radio.run (Tracker.sleep ending) tracker start = ⟨(), tracker, Tracker.sleepEvents ending⟩ := by
  cases ending with
  | early wait => rfl
  | overran excess => rfl

theorem after_sleep (radio : Radio ε ρ) (ending : CycleEnd) (tracker : Tracker F) (start : ρ) :
    radio.after (Tracker.sleep ending : TrackerProgram F ε Unit) tracker start =
      radio.elapse (.millis ending.wait) start := by
  cases ending with
  | early wait => rfl
  | overran excess => rfl

/-- After its work, a cycle reads the clock and sleeps. -/
theorem run_clock_sleep (radio : Radio ε ρ) (cadence : Cadence) (tracker : Tracker F) (start : ρ) :
    radio.run (Program.clock >>= fun now => Tracker.sleep (cadence.next now).1 >>= fun _ =>
        pure (cadence.next now).2) tracker start =
      ⟨(cadence.next (radio.clock start).1).2, tracker,
        Tracker.sleepEvents (cadence.next (radio.clock start).1).1⟩ := by
  change radio.run (Tracker.sleep (cadence.next (radio.clock start).1).1 >>= fun _ =>
    pure (cadence.next (radio.clock start).1).2) tracker (radio.clock start).2 = _
  rw [run_bind, run_sleep]
  exact congrArg (Run.mk _ _) (List.append_nil _)

theorem after_clock_sleep (radio : Radio ε ρ) (cadence : Cadence) (tracker : Tracker F)
    (start : ρ) :
    radio.after (Program.clock >>= fun now => Tracker.sleep (cadence.next now).1 >>= fun _ =>
        pure (cadence.next now).2 : TrackerProgram F ε Cadence) tracker start =
      radio.elapse (.millis (cadence.next (radio.clock start).1).1.wait)
        (radio.clock start).2 := by
  change radio.after (Tracker.sleep (cadence.next (radio.clock start).1).1 >>= fun _ =>
    pure (cadence.next (radio.clock start).1).2 : TrackerProgram F ε Cadence) tracker
    (radio.clock start).2 = _
  rw [after_bind, after_sleep]
  rfl

variable [Scalar F]

/-- The radio at the beginning of the cycle with a number, counted from zero. -/
def begun (radio : Radio ε ρ) (tracker : Tracker F) (start : ρ) (k : Nat) : ρ :=
  radio.after (Tracker.cycle k : TrackerProgram F ε Unit) tracker start

/-- What comes of the work of the cycle with a number. -/
def work (radio : Radio ε ρ) (tracker : Tracker F) (start : ρ) (k : Nat) :
    Run (Line F) ε (Tracker F) (Except (Error ε) (Fix F)) :=
  radio.run Tracker.step.run (radio.run (Tracker.cycle k) tracker start).state
    (radio.begun tracker start k)

/-- The radio when the work of that cycle is done. -/
def worked (radio : Radio ε ρ) (tracker : Tracker F) (start : ρ) (k : Nat) : ρ :=
  radio.after (Tracker.step.run : TrackerProgram F ε (Except (Error ε) (Fix F)))
    (radio.run (Tracker.cycle k) tracker start).state (radio.begun tracker start k)

/-- A cycle is its work, and then the sleep that the cadence asks for. -/
theorem run_cycleOnce (radio : Radio ε ρ) (cadence : Cadence) (tracker : Tracker F) (start : ρ) :
    let work := radio.run (Tracker.step (F := F)).run tracker start
    let done := radio.after (Tracker.step (F := F)).run tracker start
    let next := cadence.next (radio.clock done).1
    radio.run (Tracker.cycleOnce cadence) tracker start =
      ⟨next.2, work.state, work.events ++ Tracker.sleepEvents next.1⟩ := by
  intro work done next
  rw [Tracker.cycleOnce, run_bind, run_clock_sleep]
  rfl

theorem after_cycleOnce (radio : Radio ε ρ) (cadence : Cadence) (tracker : Tracker F) (start : ρ) :
    let done := radio.after (Tracker.step (F := F)).run tracker start
    radio.after (Tracker.cycleOnce cadence : TrackerProgram F ε Cadence) tracker start =
      radio.elapse (.millis (cadence.next (radio.clock done).1).1.wait) (radio.clock done).2 := by
  intro done
  rw [Tracker.cycleOnce, after_bind, after_clock_sleep]

/-- What comes of a number of cycles, with the cadence from there on. -/
def paced (radio : Radio ε ρ) (tracker : Tracker F) (start : ρ) (k : Nat) :
    Run (Line F) ε (Tracker F) Cadence :=
  radio.run (Tracker.cyclesFrom k (Cadence.start tracker.config.period (radio.clock start).1))
    tracker (radio.clock start).2

theorem run_cycle (radio : Radio ε ρ) (tracker : Tracker F) (start : ρ) (k : Nat) :
    radio.run (Tracker.cycle k) tracker start =
      ⟨(), (radio.paced tracker start k).state, (radio.paced tracker start k).events⟩ := by
  change radio.run (Tracker.cycleFrom k _) tracker (radio.clock start).2 = _
  rw [Tracker.cycleFrom_eq, run_bind]
  exact congrArg (Run.mk _ _) (List.append_nil _)

theorem begun_eq (radio : Radio ε ρ) (tracker : Tracker F) (start : ρ) (k : Nat) :
    radio.begun tracker start k =
      radio.after (Tracker.cyclesFrom k
        (Cadence.start tracker.config.period (radio.clock start).1) : TrackerProgram F ε Cadence)
        tracker (radio.clock start).2 := by
  change radio.after (Tracker.cycleFrom k _) tracker (radio.clock start).2 = _
  rw [Tracker.cycleFrom_eq, after_bind]
  rfl

/-- How the cadence answers when the work of a cycle is done. -/
def verdict (radio : Radio ε ρ) (tracker : Tracker F) (start : ρ) (k : Nat) : CycleEnd × Cadence :=
  (radio.paced tracker start k).value.next (radio.clock (radio.worked tracker start k)).1

/-- One more cycle adds its work and its sleep. -/
theorem paced_succ (radio : Radio ε ρ) (tracker : Tracker F) (start : ρ) (k : Nat) :
    radio.paced tracker start (k + 1) =
      ⟨(radio.verdict tracker start k).2, (radio.work tracker start k).state,
        (radio.paced tracker start k).events ++ ((radio.work tracker start k).events ++
          Tracker.sleepEvents (radio.verdict tracker start k).1)⟩ := by
  rw [verdict, work, worked, run_cycle, begun_eq]
  rw [paced, Tracker.cyclesFrom, run_bind, run_cycleOnce]
  rfl

/-- The next cycle begins when the sleep is over. -/
theorem begun_succ (radio : Radio ε ρ) (tracker : Tracker F) (start : ρ) (k : Nat) :
    radio.begun tracker start (k + 1) =
      radio.elapse (.millis (radio.verdict tracker start k).1.wait)
        (radio.clock (radio.worked tracker start k)).2 := by
  rw [verdict, worked, run_cycle, begun_eq, begun_eq, Tracker.cyclesFrom, after_bind,
    after_cycleOnce]
  rfl

namespace KeepsTime

variable {radio : Radio ε ρ} {time : ρ → Nat}

end KeepsTime

end Radio

/-- A radio that fails every request, and takes longer to do so after the clock has turned
over. -/
def slowRadio : Radio String Nat where
  answer _ time := (.error "no answer", if time < 2 ^ 32 then time + 30 else time + 150)
  elapse length time :=
    match length with
    | .micros _ => time
    | .millis count => time + count.toNat
  clock time := (clockAt time, time)

theorem keepsTime_slowRadio : slowRadio.KeepsTime id where
  shows _ := rfl
  time_clock _ := rfl
  le_answer request time := by
    change time ≤ if time < 2 ^ 32 then time + 30 else time + 150
    split <;> omega
  le_elapse length time := by
    cases length with
    | micros count => exact Nat.le_refl time
    | millis count => exact Nat.le_add_right time count.toNat
  time_sleep _ _ := rfl

/-- A tracker with a period of 200 milliseconds. -/
def sampleTracker : Tracker Rat :=
  Tracker.start (Session.fresh (Config.standard Config.defaultPan 1))
    ⟨[⟨2, ⟨0, 0, 0⟩⟩, ⟨3, ⟨1, 0, 0⟩⟩, ⟨4, ⟨0, 1, 0⟩⟩, ⟨5, ⟨0, 0, 1⟩⟩], by decide, by decide⟩
    CycleConfig.default

end Ranging
