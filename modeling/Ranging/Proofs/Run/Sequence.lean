import Ranging.Proofs.Run.Radio
import Ranging.Radio.Attempt

/-!
# Runs in two parts

A program that goes on with another one is run on a radio as the first one alone
would be, and then as the second one on the radio that the first one left. The
events of the whole are those of the two parts, one after the other. What makes
this true is that a run never looks at the events before it: with earlier events
in the record it goes the same way and adds its own to them. An attempt goes on with
its second part only where the first one ends well.
-/

namespace Ranging

/-- A world of which these events, the newest first, were recorded before its own. -/
def World.behind {L ε σ ρ : Type} (world : World L ε σ ρ) (earlier : List (Event L ε)) :
    World L ε σ ρ :=
  { world with record := world.record ++ earlier }

namespace Device

theorem perform_behind {L ε σ ρ : Type} (device : Device ε ρ) (world : World L ε σ ρ)
    (earlier : List (Event L ε)) (action : Action L σ) :
    device.perform (world.behind earlier) action =
      (device.perform world action).map fun result => (result.1, result.2.behind earlier) := by
  cases action with
  | call request =>
      simp only [perform, World.behind]
      cases device.answer request world.device <;> rfl
  | clock =>
      simp only [perform, World.behind]
      cases device.clock world.device <;> rfl
  | pause length => rfl
  | log line => rfl
  | get => rfl
  | set state => rfl

/-- A run goes the same way whatever was recorded before it. -/
theorem run_behind {L ε σ ρ α : Type} (device : Device ε ρ) (program : Program L ε σ α)
    (world : World L ε σ ρ) (earlier : List (Event L ε)) :
    device.run program (world.behind earlier) =
      ((device.run program world).1, (device.run program world).2.behind earlier) := by
  induction program generalizing world with
  | pure value => rfl
  | step action next ih =>
      rw [run_step, run_step, perform_behind]
      cases device.perform world action with
      | none => rfl
      | some result => exact ih result.1 result.2

end Device

/-- What came of two programs that were run one after the other. -/
def Run.andThen {L ε σ α β : Type} (first : Run L ε σ α) (second : Run L ε σ β) : Run L ε σ β :=
  ⟨second.value, second.state, first.events ++ second.events⟩

namespace Radio

/-- The radio as the run of a program leaves it. -/
def after {L ε σ ρ α : Type} (radio : Radio ε ρ) (program : Program L ε σ α) (state : σ)
    (start : ρ) : ρ :=
  (radio.device.run program (World.start state start)).2.device

/-- What came of a run, from where the device ended. -/
theorem run_eq_of_device_run {L ε σ ρ α : Type} (radio : Radio ε ρ) (program : Program L ε σ α)
    (state : σ) (start : ρ) (value : α) (world : World L ε σ ρ)
    (h : radio.device.run program (World.start state start) = (some value, world)) :
    radio.run program state start = ⟨value, world.state, world.events⟩ := by
  simp only [run, h, Option.get_some]

/-- Where the device ended, from what came of a run. -/
theorem device_run_eq {L ε σ ρ α : Type} (radio : Radio ε ρ) (program : Program L ε σ α)
    (state : σ) (start : ρ) :
    radio.device.run program (World.start state start) =
      (some (radio.run program state start).value,
        (World.start (radio.run program state start).state
          (radio.after program state start)).behind
          (radio.run program state start).events.reverse) := by
  refine Prod.ext (Option.some_get _).symm ?_
  simp only [World.behind, World.start, List.nil_append, run, after, World.events,
    List.reverse_reverse]

/-- The device goes on with the second of two programs where it ended the first one. -/
theorem device_run_bind {L ε σ ρ α β : Type} (radio : Radio ε ρ) (program : Program L ε σ α)
    (rest : α → Program L ε σ β) (state : σ) (start : ρ) :
    radio.device.run (program >>= rest) (World.start state start) =
      radio.device.run (rest (radio.run program state start).value)
        ((World.start (radio.run program state start).state
          (radio.after program state start)).behind
          (radio.run program state start).events.reverse) := by
  rw [Device.run_bind, device_run_eq]

/-- A sequence of two programs is run as the first one, and then as the second one on the
radio and in the state that the first one left. -/
theorem run_bind {L ε σ ρ α β : Type} (radio : Radio ε ρ) (program : Program L ε σ α)
    (rest : α → Program L ε σ β) (state : σ) (start : ρ) :
    radio.run (program >>= rest) state start =
      (radio.run program state start).andThen
        (radio.run (rest (radio.run program state start).value)
          (radio.run program state start).state (radio.after program state start)) := by
  have hwhole := (radio.device_run_bind program rest state start).trans
    (radio.device.run_behind _ _ _)
  rw [radio.device_run_eq (rest _)] at hwhole
  rw [radio.run_eq_of_device_run _ _ _ _ _ hwhole]
  simp only [Run.andThen, World.behind, World.start, World.events, List.nil_append,
    List.reverse_append, List.reverse_reverse]

/-- A sequence of two programs leaves the radio as the second one leaves it. -/
theorem after_bind {L ε σ ρ α β : Type} (radio : Radio ε ρ) (program : Program L ε σ α)
    (rest : α → Program L ε σ β) (state : σ) (start : ρ) :
    radio.after (program >>= rest) state start =
      radio.after (rest (radio.run program state start).value)
        (radio.run program state start).state (radio.after program state start) := by
  rw [after, device_run_bind, Device.run_behind]
  rfl

/-- A request comes before what follows its answer. -/
theorem run_call {L ε σ ρ α : Type} (radio : Radio ε ρ) (request : Request)
    (next : Except ε request.Answer → Program L ε σ α) (state : σ) (start : ρ) :
    radio.run (.step (.call request) next) state start =
      Run.andThen ⟨(), state, [.call request (radio.answer request start).1]⟩
        (radio.run (next (radio.answer request start).1) state (radio.answer request start).2) :=
  radio.run_bind (.step (.call request) .pure) next state start

theorem run_pause {L ε σ ρ α : Type} (radio : Radio ε ρ) (length : Pause)
    (next : Unit → Program L ε σ α) (state : σ) (start : ρ) :
    radio.run (.step (.pause length) next) state start =
      Run.andThen ⟨(), state, [.pause length]⟩
        (radio.run (next ()) state (radio.elapse length start)) :=
  radio.run_bind (.step (.pause length) .pure) next state start

theorem run_log {L ε σ ρ α : Type} (radio : Radio ε ρ) (line : L)
    (next : Unit → Program L ε σ α) (state : σ) (start : ρ) :
    radio.run (.step (.log line) next) state start =
      Run.andThen ⟨(), state, [.log line]⟩ (radio.run (next ()) state start) :=
  radio.run_bind (.step (.log line) .pure) next state start

theorem run_logAll {L ε σ ρ : Type} (radio : Radio ε ρ) (lines : List L) (state : σ) (start : ρ) :
    (radio.run (Program.logAll lines) state start : Run L ε σ Unit) =
      ⟨(), state, lines.map .log⟩ := by
  induction lines with
  | nil => rfl
  | cons line rest ih =>
      rw [Program.logAll_cons, run_log, ih]
      rfl

theorem after_logAll {L ε σ ρ : Type} (radio : Radio ε ρ) (lines : List L) (state : σ)
    (start : ρ) :
    radio.after (Program.logAll lines : Program L ε σ Unit) state start = start := by
  induction lines with
  | nil => rfl
  | cons line rest ih =>
      exact
        (radio.after_bind (Program.log line) (fun _ => Program.logAll rest) state start).trans ih

theorem run_clock {L ε σ ρ α : Type} (radio : Radio ε ρ) (next : UInt32 → Program L ε σ α)
    (state : σ) (start : ρ) :
    radio.run (.step .clock next) state start =
      radio.run (next (radio.clock start).1) state (radio.clock start).2 :=
  radio.run_bind (.step .clock .pure) next state start

section Attempts

variable {L ε σ ρ α β : Type} {radio : Radio ε ρ} {attempt : Attempt L ε σ α}
variable {state left : σ} {start : ρ} {events : List (Event L ε)}

/-- After a first part that ends well, an attempt goes on with the second. -/
theorem run_bind_of_ok (rest : α → Attempt L ε σ β) {value : α}
    (h : radio.run attempt.run state start = ⟨.ok value, left, events⟩) :
    radio.run (attempt >>= rest).run state start =
      Run.andThen ⟨(), left, events⟩
        (radio.run (rest value).run left (radio.after attempt.run state start)) := by
  rw [ExceptT.run_bind, run_bind, h]
  rfl

/-- An attempt that fails in its first part has come to its end. -/
theorem run_bind_of_error (rest : α → Attempt L ε σ β) {error : Error ε}
    (h : radio.run attempt.run state start = ⟨.error error, left, events⟩) :
    radio.run (attempt >>= rest).run state start = ⟨.error error, left, events⟩ := by
  rw [ExceptT.run_bind, run_bind, h]
  exact congrArg (Run.mk _ _) (List.append_nil _)

end Attempts

end Radio

end Ranging
