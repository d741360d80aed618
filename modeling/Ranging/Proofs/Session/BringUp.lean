import Ranging.Proofs.Run.Readings
import Ranging.Proofs.Session.Ending
import Ranging.Session.BringUp

/-!
# Bringing up a node on a radio

A transceiver that does not answer is initialized again every ten milliseconds.
`Radio.tries` are the answers that a given radio gives in this way, and
`firstSuccess` is the number of the first of them that is no failure. The window
of two seconds leaves room for 200 pauses, so 201 tries are made at most. Each
failed try brings the window ten milliseconds closer to its end; this is
`pausesLeft_succ`, on which the induction over the tries rests.

Only after a success are the antenna delays and the address set, in this order
and each once. The session is not touched by any of it.
-/

namespace Ranging

section Tries

variable {F ε : Type}

/-- The first of the tries up to a limit that succeeds. -/
def firstSuccess (tries : Nat → Except ε Unit) (limit : Nat) : Option Nat :=
  (List.range (limit + 1)).find? fun j => (tries j).isOk

theorem eq_ok_of_isOk {answer : Except ε Unit} (h : answer.isOk = true) : answer = .ok () := by
  cases answer with
  | ok _ => rfl
  | error cause => cases h

theorem firstSuccess_of_isOk (tries : Nat → Except ε Unit) (limit : Nat)
    (h : (tries 0).isOk = true) : firstSuccess tries limit = some 0 := by
  rw [firstSuccess, find?_range_succ, if_pos h]

theorem firstSuccess_zero (tries : Nat → Except ε Unit) (h : (tries 0).isOk = false) :
    firstSuccess tries 0 = none := by
  rw [firstSuccess, find?_range_succ, if_neg (ne_true_of_eq_false h)]
  rfl

theorem firstSuccess_succ (tries : Nat → Except ε Unit) (limit : Nat)
    (h : (tries 0).isOk = false) :
    firstSuccess tries (limit + 1) =
      (firstSuccess (fun j => tries (j + 1)) limit).map (· + 1) := by
  rw [firstSuccess, find?_range_succ, if_neg (ne_true_of_eq_false h)]
  rfl

theorem firstSuccess_le (tries : Nat → Except ε Unit) (limit j : Nat)
    (h : firstSuccess tries limit = some j) : j ≤ limit := by
  obtain ⟨-, hmem, -⟩ := List.find?_range_eq_some.1 h
  exact Nat.le_of_lt_succ (List.mem_range.1 hmem)

/-- The events of the tries that are followed by another one. -/
def retryEvents (settings : RadioSettings) (tries : Nat → Except ε Unit) (count : Nat) :
    List (Event (Line F) ε) :=
  (List.range count).flatMap fun j =>
    [.call (.powerUp settings) (tries j), .log .powerUpFailed, .pause (.millis 10)]

theorem retryEvents_succ (settings : RadioSettings) (tries : Nat → Except ε Unit) (count : Nat) :
    (retryEvents settings tries (count + 1) : List (Event (Line F) ε)) =
      [.call (.powerUp settings) (tries 0), .log .powerUpFailed, .pause (.millis 10)] ++
        retryEvents settings (fun j => tries (j + 1)) count := by
  rw [retryEvents, retryEvents, List.range_succ_eq_map, List.flatMap_cons, List.flatMap_map]

theorem microsPaused_retryEvents (settings : RadioSettings) (tries : Nat → Except ε Unit)
    (count : Nat) :
    microsPaused (retryEvents settings tries count : List (Event (Line F) ε)) = count * 10000 := by
  induction count generalizing tries with
  | zero => rfl
  | succ count ih =>
      have hfirst : microsPaused ([.call (.powerUp settings) (tries 0), .log .powerUpFailed,
          .pause (.millis 10)] : List (Event (Line F) ε)) = 10000 := by
        simp [microsPaused, Pause.toMicros]
      rw [retryEvents_succ, microsPaused_append, hfirst, ih, Nat.succ_mul, Nat.add_comm]

/-- What comes of initializing a transceiver that may be given so many pauses. -/
def powerUpRun (settings : RadioSettings) (tries : Nat → Except ε Unit) (limit : Nat)
    (s : Session) : Run (Line F) ε Session (Except (Error ε) Unit) :=
  match firstSuccess tries limit with
  | some j =>
      ⟨.ok (), s, retryEvents settings tries j ++ [.call (.powerUp settings) (.ok ())]⟩
  | none =>
      ⟨.error .initializationFailure, s, retryEvents settings tries limit ++
        [.call (.powerUp settings) (tries limit), .log (.powerUpGivenUp 2000)]⟩

theorem powerUpRun_of_some (settings : RadioSettings) {tries : Nat → Except ε Unit} {limit j : Nat}
    (s : Session) (h : firstSuccess tries limit = some j) :
    (powerUpRun settings tries limit s : Run (Line F) ε Session (Except (Error ε) Unit)) =
      ⟨.ok (), s, retryEvents settings tries j ++ [.call (.powerUp settings) (.ok ())]⟩ := by
  rw [powerUpRun, h]

theorem powerUpRun_of_none (settings : RadioSettings) {tries : Nat → Except ε Unit} {limit : Nat}
    (s : Session) (h : firstSuccess tries limit = none) :
    (powerUpRun settings tries limit s : Run (Line F) ε Session (Except (Error ε) Unit)) =
      ⟨.error .initializationFailure, s, retryEvents settings tries limit ++
        [.call (.powerUp settings) (tries limit), .log (.powerUpGivenUp 2000)]⟩ := by
  rw [powerUpRun, h]

theorem powerUpRun_succ (settings : RadioSettings) (tries : Nat → Except ε Unit) (limit : Nat)
    (s : Session) (h : (tries 0).isOk = false) :
    (powerUpRun settings tries (limit + 1) s :
        Run (Line F) ε Session (Except (Error ε) Unit)) =
      Run.andThen ⟨(), s, [.call (.powerUp settings) (tries 0), .log .powerUpFailed,
          .pause (.millis 10)]⟩
        (powerUpRun settings (fun j => tries (j + 1)) limit s) := by
  rw [powerUpRun, powerUpRun, firstSuccess_succ tries limit h]
  cases firstSuccess (fun j => tries (j + 1)) limit with
  | some j =>
      simp only [Option.map_some, Run.andThen, retryEvents_succ, List.append_assoc]
  | none =>
      simp only [Option.map_none, Run.andThen, retryEvents_succ, List.append_assoc]

/-- How often a part of the window leaves room for a pause. -/
def pausesLeft (waited : Nat) : Nat :=
  (Session.powerUpWindow - waited + (Session.powerUpPause - 1)) / Session.powerUpPause

theorem pausesLeft_eq_zero (waited : Nat) (h : ¬waited < Session.powerUpWindow) :
    pausesLeft waited = 0 := by
  simp only [pausesLeft, Session.powerUpWindow, Session.powerUpPause] at h ⊢
  omega

theorem pausesLeft_succ (waited : Nat) (h : waited < Session.powerUpWindow) :
    pausesLeft waited = pausesLeft (waited + Session.powerUpPause) + 1 := by
  simp only [pausesLeft, Session.powerUpWindow, Session.powerUpPause] at h ⊢
  omega

end Tries

namespace Session

variable {F ε : Type}

/-- Initializing begins with a try, which succeeds or is followed by a pause, as long as the
window is open. -/
theorem run_powerUpFrom (settings : RadioSettings) (waited : Nat) :
    (powerUpFrom settings waited : SessionAttempt F ε Unit).run =
      .step (.call (.powerUp settings)) fun answer : Except ε Unit =>
        if answer.isOk then pure (.ok ())
        else if waited < powerUpWindow then
          .step (.log .powerUpFailed) fun _ => .step (.pause (.millis 10)) fun _ =>
            (powerUpFrom settings (waited + powerUpPause)).run
        else
          .step (.log (.powerUpGivenUp 2000)) fun _ => pure (.error .initializationFailure) := by
  rw [powerUpFrom, Attempt.run_lift_bind, Attempt.powerUp, Attempt.ask]
  change Program.step _ _ = Program.step _ _
  congr 1
  funext answer
  cases answer with
  | ok _ => rfl
  | error cause =>
      by_cases h : waited < powerUpWindow
      · simp only [h]
        rfl
      · simp only [h]
        rfl

def introduce (config : Config) : SessionAttempt F ε Unit := do
  Attempt.setAntennaDelay config.antennaDelay.receive config.antennaDelay.send
  Attempt.setAddress config.pan config.addr
  log (.ready config.pan config.addr)

theorem bringUp_eq :
    (bringUp : SessionAttempt F ε Unit) =
      getConfig >>= fun config => powerUpFrom config.radio 0 >>= fun _ => introduce config := rfl

/-- What setting the antenna delays and the address can come to. -/
inductive IntroductionOutcome (config : Config) :
    List (Event (Line F) ε) → Except (Error ε) Unit → Prop where
  | ready : IntroductionOutcome config
      [.call (.setAntennaDelay config.antennaDelay.receive config.antennaDelay.send) (.ok ()),
        .call (.setAddress config.pan config.addr) (.ok ()),
        .log (.ready config.pan config.addr)] (.ok ())
  | unaddressed (cause : ε) : IntroductionOutcome config
      [.call (.setAntennaDelay config.antennaDelay.receive config.antennaDelay.send) (.ok ()),
        .call (.setAddress config.pan config.addr) (.error cause)] (.error (.radio cause))
  /-- The antenna delays could not be set, and the address was not tried. -/
  | uncalibrated (cause : ε) : IntroductionOutcome config
      [.call (.setAntennaDelay config.antennaDelay.receive config.antennaDelay.send)
        (.error cause)] (.error (.radio cause))

theorem outcome_introduce (config : Config) (s : Session) (events : List (Event (Line F) ε))
    (result : Except (Error ε) Unit) (t : Session)
    (h : (introduce config).ends s events result t) :
    t = s ∧ IntroductionOutcome config events result := by
  rw [introduce, Attempt.setAntennaDelay, Attempt.ends_ask_bind] at h
  rcases h with ⟨cause, rfl, rfl, rfl⟩ | ⟨_, rest, rfl, h⟩
  · exact ⟨rfl, .uncalibrated cause⟩
  rw [Attempt.setAddress, Attempt.ends_ask_bind] at h
  rcases h with ⟨cause, rfl, rfl, rfl⟩ | ⟨_, rest, rfl, h⟩
  · exact ⟨rfl, .unaddressed cause⟩
  rw [← bind_pure (log _), ends_log_bind] at h
  obtain ⟨_, rfl, rfl, rfl, rfl⟩ := h
  exact ⟨rfl, .ready⟩

theorem microsPaused_introduction {config : Config} {events : List (Event (Line F) ε)}
    {result : Except (Error ε) Unit} (h : IntroductionOutcome config events result) :
    microsPaused events = 0 := by
  cases h <;> rfl

end Session

namespace Radio

variable {F ε ρ : Type}

/-- The answers to initializing with a pause of ten milliseconds after each of them. -/
def tries (radio : Radio ε ρ) (settings : RadioSettings) (start : ρ) : Nat → Except ε Unit
  | 0 => (radio.answer (.powerUp settings) start).1
  | j + 1 =>
      radio.tries settings
        (radio.elapse (.millis 10) (radio.answer (.powerUp settings) start).2) j

theorem run_powerUpFrom (radio : Radio ε ρ) (settings : RadioSettings) (waited : Nat)
    (s : Session) (start : ρ) :
    radio.run (Session.powerUpFrom settings waited : SessionAttempt F ε Unit).run s start =
      powerUpRun settings (radio.tries settings start) (pausesLeft waited) s := by
  induction waited using Session.powerUpFrom.induct generalizing start with
  | case1 waited ih =>
      rw [Session.run_powerUpFrom, run_call]
      cases hok : (radio.answer (.powerUp settings) start).1.isOk with
      | true =>
          rw [powerUpRun_of_some settings s (firstSuccess_of_isOk _ _ hok), eq_ok_of_isOk hok]
          rfl
      | false =>
          rw [if_neg Bool.false_ne_true]
          -- A failure while the window is open takes one pause off what is left of it.
          by_cases hopen : waited < Session.powerUpWindow
          · rw [if_pos hopen, pausesLeft_succ waited hopen, powerUpRun_succ settings _ _ s hok,
              run_log, run_pause, ih hopen]
            rfl
          · rw [if_neg hopen, pausesLeft_eq_zero waited hopen,
              powerUpRun_of_none settings s (firstSuccess_zero _ hok)]
            rfl

variable (radio : Radio ε ρ) (s : Session) (start : ρ)

theorem run_bringUp :
    radio.run (Session.bringUp : SessionAttempt F ε Unit).run s start =
      radio.run (Session.powerUpFrom s.config.radio 0 >>= fun _ => Session.introduce s.config).run
        s start := by
  rw [Session.bringUp_eq, radio.run_getConfig_bind fun config =>
    Session.powerUpFrom config.radio 0 >>= fun _ => Session.introduce config]

theorem run_bringUp_of_some {j : Nat}
    (h : firstSuccess (radio.tries s.config.radio start) 200 = some j) :
    radio.run (Session.bringUp : SessionAttempt F ε Unit).run s start =
      Run.andThen ⟨(), s, retryEvents s.config.radio (radio.tries s.config.radio start) j ++
          [.call (.powerUp s.config.radio) (.ok ())]⟩
        (radio.run (Session.introduce s.config).run s
          (radio.after (Session.powerUpFrom s.config.radio 0 : SessionAttempt F ε Unit).run s
            start)) := by
  have hstarted : _ = powerUpRun s.config.radio (radio.tries s.config.radio start) 200 s :=
    radio.run_powerUpFrom (F := F) s.config.radio 0 s start
  rw [run_bringUp, radio.run_bind_of_ok _ (hstarted.trans (powerUpRun_of_some _ s h))]

theorem run_bringUp_of_none (h : firstSuccess (radio.tries s.config.radio start) 200 = none) :
    radio.run (Session.bringUp : SessionAttempt F ε Unit).run s start =
      ⟨.error .initializationFailure, s,
        retryEvents s.config.radio (radio.tries s.config.radio start) 200 ++
          [.call (.powerUp s.config.radio) (radio.tries s.config.radio start 200),
            .log (.powerUpGivenUp 2000)]⟩ := by
  have hstarted : _ = powerUpRun s.config.radio (radio.tries s.config.radio start) 200 s :=
    radio.run_powerUpFrom (F := F) s.config.radio 0 s start
  rw [run_bringUp, radio.run_bind_of_error _ (hstarted.trans (powerUpRun_of_none _ s h))]

end Radio

/-- A node tries to initialize its transceiver until it succeeds, with a pause of ten
milliseconds after each failure, and gives up after the 201st. Only after a success are the
antenna delays set, and only if that succeeds the address. The session stays as it is. -/
theorem bring_up_retries_within_window {F ε ρ : Type} (radio : Radio ε ρ) (s : Session)
    (start : ρ) :
    let settings := s.config.radio
    let tries := radio.tries settings start
    let run : Run (Line F) ε Session (Except (Error ε) Unit) :=
      radio.run Session.bringUp.run s start
    run.state = s ∧ microsPaused run.events ≤ 2000000 ∧
      match firstSuccess tries 200 with
      | some j =>
          ∃ introduction, Session.IntroductionOutcome s.config introduction run.value ∧
            run.events = retryEvents settings tries j ++
              .call (.powerUp settings) (.ok ()) :: introduction
      | none =>
          run.value = .error .initializationFailure ∧
            run.events = retryEvents settings tries 200 ++
              [.call (.powerUp settings) (tries 200), .log (.powerUpGivenUp 2000)] := by
  intro settings tries run
  cases hfirst : firstSuccess tries 200 with
  | some j =>
      have hle := firstSuccess_le tries 200 j hfirst
      have hrun : run = _ := radio.run_bringUp_of_some s start hfirst
      obtain ⟨hstate, houtcome⟩ := Session.outcome_introduce s.config s _ _ _
        (radio.endsAlong_run (Session.introduce s.config : SessionAttempt F ε Unit).run s
          (radio.after (Session.powerUpFrom settings 0 : SessionAttempt F ε Unit).run s start))
      have hcall : microsPaused ([.call (.powerUp settings) (.ok ())] :
          List (Event (Line F) ε)) = 0 := rfl
      rw [hrun]
      refine ⟨hstate, ?_, _, houtcome, List.append_assoc _ _ _⟩
      rw [Run.andThen, microsPaused_append, microsPaused_append, microsPaused_retryEvents, hcall,
        Session.microsPaused_introduction houtcome]
      omega
  | none =>
      have hrun : run = _ := radio.run_bringUp_of_none s start hfirst
      have hlast : microsPaused ([.call (.powerUp settings) (tries 200),
          .log (.powerUpGivenUp 2000)] : List (Event (Line F) ε)) = 0 := rfl
      rw [hrun]
      refine ⟨rfl, ?_, rfl, rfl⟩
      rw [microsPaused_append, microsPaused_retryEvents, hlast]

end Ranging
