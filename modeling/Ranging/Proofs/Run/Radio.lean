import Ranging.Proofs.Run.Path

/-!
# Radios that always answer

A `Device` may hang. A `Radio` answers every request and every reading of the
clock, with a result or with a failure, and the answers may depend on all that
happened before through its state. Programs are finite, so every program that is
run on a radio ends: `Radio.run` is what came of it, its value, the state of the
node after it, and the events in the order in which they happened.
-/

namespace Ranging

/-- A radio with a clock that answers whatever it is asked. -/
structure Radio (ε ρ : Type) where
  /-- The answer to a request, and the radio after it. -/
  answer : (request : Request) → ρ → Except ε request.Answer × ρ
  /-- The radio after a pause. -/
  elapse : Pause → ρ → ρ
  /-- The reading of the millisecond clock, and the radio after it. -/
  clock : ρ → UInt32 × ρ

/-- What came of a program that was run to its end. -/
structure Run (L ε σ α : Type) where
  /-- The value in which the program ended. -/
  value : α
  /-- The state of the node at the end. -/
  state : σ
  /-- The events, the oldest first. -/
  events : List (Event L ε)

namespace Radio

/-- The radio as a device, which never hangs. -/
def device {ε ρ : Type} (radio : Radio ε ρ) : Device ε ρ where
  answer request state := some (radio.answer request state)
  elapse := radio.elapse
  clock state := some (radio.clock state)

/-- No action makes a radio hang. -/
theorem isSome_perform {L ε σ ρ : Type} (radio : Radio ε ρ) (world : World L ε σ ρ)
    (action : Action L σ) : (radio.device.perform world action).isSome := by
  cases action <;> rfl

/-- Every program comes to its end on a radio. -/
theorem isSome_run {L ε σ ρ α : Type} (radio : Radio ε ρ) (program : Program L ε σ α)
    (world : World L ε σ ρ) : (radio.device.run program world).1.isSome := by
  induction program generalizing world with
  | pure value => rfl
  | step action next ih =>
      obtain ⟨⟨answer, after⟩, h⟩ := Option.isSome_iff_exists.1 (radio.isSome_perform world action)
      rw [Device.run_step, h]
      exact ih answer after

/-- Run a program from a state of the node, on a radio in a given state. -/
def run {L ε σ ρ α : Type} (radio : Radio ε ρ) (program : Program L ε σ α) (state : σ)
    (start : ρ) : Run L ε σ α :=
  let ended := radio.device.run program (World.start state start)
  ⟨ended.1.get (radio.isSome_run program _), ended.2.state, ended.2.events⟩

/-- What is run on a radio is a path of the program. -/
theorem endsAlong_run {L ε σ ρ α : Type} (radio : Radio ε ρ) (program : Program L ε σ α)
    (state : σ) (start : ρ) :
    program.endsAlong state (radio.run program state start).events
      (radio.run program state start).value (radio.run program state start).state := by
  obtain ⟨events, hrecord, hpath⟩ := radio.device.endsAlong_of_run program
    (World.start state start) (radio.device.run program (World.start state start)).2
    (radio.run program state start).value (Prod.ext (Option.some_get _).symm rfl)
  have hevents : (radio.run program state start).events = events := by
    change (radio.device.run program (World.start state start)).2.record.reverse = events
    rw [hrecord, World.start, List.append_nil, List.reverse_reverse]
  rw [hevents]
  exact hpath

/-- What a radio on which nothing fails answers, with a frame received and a frame
sent at the given times. -/
def promptAnswer (frame : List UInt8) (received sent : Instant) :
    (request : Request) → Except String request.Answer
  | .powerUp _ | .setAntennaDelay _ _ | .setAddress _ _ | .clearStatus _ | .resetReceiver
  | .setReceiveTimeout _ | .setReceiveDelay _ | .enableReceiver | .storeFrame _ => .ok ()
  | .readStatus => .ok (Status.received ||| Status.sent)
  | .frameLength => .ok frame.length
  | .frameBytes length =>
      if h : frame.length = length then .ok ⟨frame, h⟩ else .error "no frame of this length"
  | .send _ _ => .ok .started
  | .sendTime => .ok sent
  | .receiveTime => .ok received
  | .carrierIntegrator => .ok 0

/-- A radio that answers every request in the same way every time, and well. -/
def prompt (frame : List UInt8) (received sent : Instant) : Radio String Unit where
  answer request _ := (promptAnswer frame received sent request, ())
  elapse _ _ := ()
  clock _ := (0, ())

end Radio

end Ranging
