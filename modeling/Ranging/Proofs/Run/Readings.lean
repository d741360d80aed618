import Mathlib.Algebra.Order.Floor.Div
import Ranging.Proofs.Run.Sequence
import Ranging.Proofs.Run.Wait

/-!
# Waits on a radio

On a given radio it is settled what a wait comes to. `Radio.readings` are the answers of its
status register when it is read again and again with the same pause in between. A wait goes
along them until one of them fails or shows a flag, but not beyond the reading after which the
timeout is made up; `firstEnding` is the place at which it stops, if it does not run out of time.

How many readings that leaves is known in advance: one more than the number of intervals that
cover the timeout. The induction over a wait counts them down, and rests on
`waitPauses_saturatingAdd` for the step.
-/

namespace Ranging

/-! ## Readings of a status register -/

section Readings

variable {L ε : Type}

/-- A reading ends a wait if it fails or shows one of the flags. -/
def endsWait (flags : Status) : Except ε Status → Bool
  | .ok status => status.intersects flags
  | .error _ => true

/-- The first of the readings up to a limit that ends a wait. -/
def firstEnding (flags : Status) (readings : Nat → Except ε Status) (limit : Nat) : Option Nat :=
  (List.range (limit + 1)).find? fun j => endsWait flags (readings j)

/-- The search among the first numbers begins with zero and goes on with the successors. -/
theorem find?_range_succ (p : Nat → Bool) (limit : Nat) :
    (List.range (limit + 1)).find? p =
      if p 0 then some 0 else ((List.range limit).find? fun j => p (j + 1)).map (· + 1) := by
  rw [List.range_succ_eq_map, List.find?_cons, List.find?_map]
  cases p 0 with
  | true => rfl
  | false => rfl

/-- Whatever the limit, the reading before the first pause may end the wait. -/
theorem firstEnding_of_endsWait (flags : Status) (readings : Nat → Except ε Status) (limit : Nat)
    (h : endsWait flags (readings 0) = true) : firstEnding flags readings limit = some 0 := by
  rw [firstEnding, find?_range_succ, if_pos h]

theorem firstEnding_zero (flags : Status) (readings : Nat → Except ε Status)
    (h : endsWait flags (readings 0) = false) : firstEnding flags readings 0 = none := by
  rw [firstEnding, find?_range_succ, if_neg (ne_true_of_eq_false h)]
  rfl

/-- After a miss, the wait goes on with the readings behind it. -/
theorem firstEnding_succ (flags : Status) (readings : Nat → Except ε Status) (limit : Nat)
    (h : endsWait flags (readings 0) = false) :
    firstEnding flags readings (limit + 1) =
      (firstEnding flags (fun j => readings (j + 1)) limit).map (· + 1) := by
  rw [firstEnding, find?_range_succ, if_neg (ne_true_of_eq_false h)]
  rfl

theorem firstEnding_le (flags : Status) (readings : Nat → Except ε Status) (limit j : Nat)
    (h : firstEnding flags readings limit = some j) : j ≤ limit := by
  obtain ⟨-, hmem, -⟩ := List.find?_range_eq_some.1 h
  exact Nat.le_of_lt_succ (List.mem_range.1 hmem)

/-- The events of a wait of `count` pauses, with a reading before each of them and one after the
last. -/
def waitEvents (length : Pause) (readings : Nat → Except ε Status) (count : Nat) :
    List (Event L ε) :=
  (List.range count).flatMap (fun j => [.call .readStatus (readings j), .pause length]) ++
    [.call .readStatus (readings count)]

theorem waitEvents_succ (length : Pause) (readings : Nat → Except ε Status) (count : Nat) :
    (waitEvents length readings (count + 1) : List (Event L ε)) =
      [.call .readStatus (readings 0), .pause length] ++
        waitEvents length (fun j => readings (j + 1)) count := by
  rw [waitEvents, waitEvents, List.range_succ_eq_map, List.flatMap_cons, List.flatMap_map,
    List.append_assoc]

end Readings

/-! ## The time that is waited -/

/-- The length of a pause in microseconds. -/
def Pause.toMicros : Pause → Nat
  | .micros count => count.toNat
  | .millis count => 1000 * count.toNat

/-- The microseconds that the pauses of a run take together. -/
def microsPaused {L ε : Type} (events : List (Event L ε)) : Nat :=
  (events.map fun
    | .pause length => length.toMicros
    | _ => 0).sum

@[simp] theorem microsPaused_append {L ε : Type} (xs ys : List (Event L ε)) :
    microsPaused (xs ++ ys) = microsPaused xs + microsPaused ys := by
  rw [microsPaused, List.map_append, List.sum_append]
  rfl

theorem microsPaused_waitEvents {L ε : Type} (length : Pause) (readings : Nat → Except ε Status)
    (count : Nat) : microsPaused (waitEvents length readings count : List (Event L ε)) =
      count * length.toMicros := by
  induction count generalizing readings with
  | zero => exact (Nat.zero_mul _).symm
  | succ count ih =>
      have hfirst : microsPaused ([.call .readStatus (readings 0), .pause length] :
          List (Event L ε)) = length.toMicros := by
        simp [microsPaused]
      rw [waitEvents_succ, microsPaused_append, hfirst, ih, Nat.succ_mul, Nat.add_comm]

/-- The intervals that cover a timeout are less than one interval too long. -/
theorem ceilDiv_mul_lt (timeout interval : Nat) (hpos : 0 < interval) :
    timeout ⌈/⌉ interval * interval < timeout + interval := by
  rw [Nat.ceilDiv_eq_add_pred_div]
  have hle := Nat.div_mul_le_self (timeout + interval - 1) interval
  omega

theorem waitPauses_zero_eq (timeout interval : UInt32) :
    waitPauses timeout interval 0 = timeout.toNat ⌈/⌉ max interval.toNat 1 := by
  have hpos : 0 < max interval.toNat 1 := by omega
  rw [waitPauses, Nat.ceilDiv_eq_add_pred_div, UInt32.toNat_zero, Nat.sub_zero,
    Nat.add_sub_assoc hpos]

/-! ## What a wait comes to -/

namespace Attempt

/-- A wait begins with a reading, which ends it or is followed by a pause. -/
theorem run_awaitStatusFrom {L ε σ : Type} (flags : Status) (timeout interval waited : UInt32) :
    (awaitStatusFrom flags timeout interval waited : Attempt L ε σ Status).run =
      .step (.call .readStatus) fun reading : Except ε Status =>
        if endsWait flags reading then pure (reading.mapError .radio)
        else if timeout.toNat ≤ waited.toNat then pure (.error .timeout)
        else .step (.pause (.micros (effectiveInterval interval))) fun _ =>
          (awaitStatusFrom flags timeout interval
            (saturatingAdd waited (effectiveInterval interval))).run := by
  rw [awaitStatusFrom, pollStatus, bind_assoc, readStatus, run_ask_bind]
  congr 1
  funext reading
  cases reading with
  | error cause => rfl
  | ok status =>
      change Status at status
      have hends : endsWait flags (.ok status : Except ε Status) = status.intersects flags := rfl
      simp only [hends, id_eq, pure_bind]
      cases status.intersects flags with
      | true => rfl
      | false =>
          simp only [Bool.false_eq_true, if_false]
          split
          · rfl
          · rfl

end Attempt

/-- What comes of a wait with at most `limit` pauses, when the register is read like this. -/
def waitRun {L ε σ : Type} (flags : Status) (length : Pause) (readings : Nat → Except ε Status)
    (limit : Nat) (s : σ) : Run L ε σ (Except (Error ε) Status) :=
  match firstEnding flags readings limit with
  | some j => ⟨(readings j).mapError .radio, s, waitEvents length readings j⟩
  | none => ⟨.error .timeout, s, waitEvents length readings limit⟩

/-- A miss and a pause go before the rest of the wait. -/
theorem waitRun_succ {L ε σ : Type} (flags : Status) (length : Pause)
    (readings : Nat → Except ε Status) (limit : Nat) (s : σ)
    (h : endsWait flags (readings 0) = false) :
    (waitRun flags length readings (limit + 1) s : Run L ε σ (Except (Error ε) Status)) =
      Run.andThen ⟨(), s, [.call .readStatus (readings 0), .pause length]⟩
        (waitRun flags length (fun j => readings (j + 1)) limit s) := by
  rw [waitRun, waitRun, firstEnding_succ flags readings limit h]
  cases firstEnding flags (fun j => readings (j + 1)) limit with
  | some j => exact congrArg (Run.mk _ s) (waitEvents_succ length readings j)
  | none => exact congrArg (Run.mk _ s) (waitEvents_succ length readings limit)

namespace Radio

variable {L ε σ ρ : Type}

/-- The answers to the readings of the status register with the same pause after each of them. -/
def readings (radio : Radio ε ρ) (length : Pause) (start : ρ) : Nat → Except ε Status
  | 0 => (radio.answer .readStatus start).1
  | j + 1 => radio.readings length (radio.elapse length (radio.answer .readStatus start).2) j

theorem run_awaitStatusFrom (radio : Radio ε ρ) (flags : Status)
    (timeout interval waited : UInt32) (s : σ) (start : ρ) :
    radio.run (Attempt.awaitStatusFrom flags timeout interval waited : Attempt L ε σ Status).run s
        start =
      waitRun flags (.micros (Attempt.effectiveInterval interval))
        (radio.readings (.micros (Attempt.effectiveInterval interval)) start)
        (waitPauses timeout interval waited) s := by
  induction waited using Attempt.awaitStatusFrom.induct timeout interval generalizing start with
  | case1 waited ih =>
      rw [Attempt.run_awaitStatusFrom, run_call]
      cases hends : endsWait flags (radio.answer .readStatus start).1 with
      | true =>
          rw [waitRun, firstEnding_of_endsWait flags _ _ hends]
          rfl
      | false =>
          rw [if_neg Bool.false_ne_true]
          by_cases hover : timeout.toNat ≤ waited.toNat
          · rw [if_pos hover, waitPauses_eq_zero timeout interval waited hover, waitRun,
              firstEnding_zero flags _ hends]
            rfl
          · rw [if_neg hover, waitPauses_saturatingAdd timeout interval waited hover,
              waitRun_succ flags _ _ _ s hends, run_pause, ih hover]
            rfl

end Radio

/-- A wait stops at the first of the readings that ends it, or runs out of time after one more
reading than there are intervals in the timeout. Either way it waits less than one interval
longer than the timeout. -/
theorem wait_stops_at_first_ending {L ε σ ρ : Type} (radio : Radio ε ρ) (flags : Status)
    (timeout interval : UInt32) (s : σ) (start : ρ) :
    let every := Attempt.effectiveInterval interval
    let readings := radio.readings (.micros every) start
    let limit := timeout.toNat ⌈/⌉ every.toNat
    let run : Run L ε σ (Except (Error ε) Status) :=
      radio.run (Attempt.awaitStatus flags timeout interval).run s start
    every.toNat = max interval.toNat 1 ∧
      (run = match firstEnding flags readings limit with
        | some j =>
            ⟨(readings j).mapError .radio, s, waitEvents (.micros every) readings j⟩
        | none => ⟨.error .timeout, s, waitEvents (.micros every) readings limit⟩) ∧
      microsPaused run.events < timeout.toNat + every.toNat := by
  intro every readings limit run
  have hevery : every.toNat = max interval.toNat 1 := Attempt.toNat_effectiveInterval interval
  have hlimit : waitPauses timeout interval 0 = limit :=
    (waitPauses_zero_eq timeout interval).trans (congrArg _ hevery.symm)
  have hrun : run = waitRun flags (.micros every) readings limit s :=
    (radio.run_awaitStatusFrom flags timeout interval 0 s start).trans (by rw [hlimit])
  have hcover : limit * every.toNat < timeout.toNat + every.toNat :=
    ceilDiv_mul_lt timeout.toNat every.toNat (by omega)
  refine ⟨hevery, hrun, ?_⟩
  rw [hrun, waitRun]
  cases hfirst : firstEnding flags readings limit with
  | some j =>
      have hle := firstEnding_le flags readings limit j hfirst
      calc microsPaused (waitEvents (.micros every) readings j : List (Event L ε))
          = j * every.toNat := microsPaused_waitEvents _ _ _
        _ ≤ limit * every.toNat := Nat.mul_le_mul_right _ hle
        _ < timeout.toNat + every.toNat := hcover
  | none =>
      calc microsPaused (waitEvents (.micros every) readings limit : List (Event L ε))
          = limit * every.toNat := microsPaused_waitEvents _ _ _
        _ < timeout.toNat + every.toNat := hcover

end Ranging
