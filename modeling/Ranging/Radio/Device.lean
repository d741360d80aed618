import Ranging.Radio.Program

/-!
# Running a program on a device

A `Device` is a radio together with the clock and the time that passes: a state
and, for every request, the answer that the radio gives in that state. A device
may also give no answer at all, and then the node hangs at that request.

A run of a program moves a `World`, which is the state of the node, that of the
device, and the record of all events so far, the newest first. The run ends in
the value of the program, or without one where the device hangs; either way the
world shows how far it came.
-/

namespace Ranging

/-- A radio with a clock. The answers may depend on all that happened before,
which the state of the device stands for. -/
structure Device (ε ρ : Type) where
  /-- The answer to a request, none if the device hangs. -/
  answer : (request : Request) → ρ → Option (Except ε request.Answer × ρ)
  /-- The device after a pause. -/
  elapse : Pause → ρ → ρ
  /-- The reading of the millisecond clock, none if the device hangs. -/
  clock : ρ → Option (UInt32 × ρ)

/-- What can be seen of a program from outside. -/
inductive Event (L ε : Type) where
  | call (request : Request) (answer : Except ε request.Answer)
  | pause (length : Pause)
  | log (line : L)

/-- A node and its device in the course of a run. -/
structure World (L ε σ ρ : Type) where
  state : σ
  device : ρ
  /-- The events so far, the newest first. -/
  record : List (Event L ε)

namespace World

/-- A world at the start of a run. -/
def start {L ε σ ρ : Type} (state : σ) (device : ρ) : World L ε σ ρ :=
  ⟨state, device, []⟩

/-- The events so far, the oldest first. -/
def events {L ε σ ρ : Type} (world : World L ε σ ρ) : List (Event L ε) :=
  world.record.reverse

end World

namespace Device

/-- Carry out one action: its answer, unless the device hangs, and the world
after it. -/
def perform {L ε σ ρ : Type} (device : Device ε ρ) (world : World L ε σ ρ) :
    (action : Action L σ) → Option (action.Answer ε × World L ε σ ρ)
  | .call request =>
      match device.answer request world.device with
      | some (answer, next) =>
          some (answer, ⟨world.state, next, .call request answer :: world.record⟩)
      | none => none
  | .pause length =>
      some ((), ⟨world.state, device.elapse length world.device, .pause length :: world.record⟩)
  | .log line => some ((), ⟨world.state, world.device, .log line :: world.record⟩)
  | .clock =>
      match device.clock world.device with
      | some (now, next) => some (now, ⟨world.state, next, world.record⟩)
      | none => none
  | .get => some (world.state, world)
  | .set state => some ((), ⟨state, world.device, world.record⟩)

def run {L ε σ ρ α : Type} (device : Device ε ρ) :
    Program L ε σ α → World L ε σ ρ → Option α × World L ε σ ρ
  | .pure value, world => (some value, world)
  | .step action next, world =>
      match device.perform world action with
      | some (answer, world) => run device (next answer) world
      | none => (none, world)

@[simp] theorem run_pure {L ε σ ρ α : Type} (device : Device ε ρ) (value : α)
    (world : World L ε σ ρ) : device.run (pure value) world = (some value, world) := rfl

theorem run_step {L ε σ ρ α : Type} (device : Device ε ρ) (action : Action L σ)
    (next : action.Answer ε → Program L ε σ α) (world : World L ε σ ρ) :
    device.run (.step action next) world =
      match device.perform world action with
      | some (answer, after) => device.run (next answer) after
      | none => (none, world) := by
  rw [run]

/-- A sequence of two programs is run one after the other. -/
theorem run_bind {L ε σ ρ α β : Type} (device : Device ε ρ) (program : Program L ε σ α)
    (rest : α → Program L ε σ β) (world : World L ε σ ρ) :
    device.run (program >>= rest) world =
      match device.run program world with
      | (some value, after) => device.run (rest value) after
      | (none, after) => (none, after) := by
  induction program generalizing world with
  | pure value => rfl
  | step action next ih =>
      rw [Program.step_bind, run, run]
      cases device.perform world action with
      | none => rfl
      | some result => exact ih result.1 result.2

end Device

end Ranging
