import Ranging.Radio.Device

/-!
# Paths through a program

A program is a tree, and a run of it follows one path from the root to a leaf.
`endsAlong program s events value t` says that the path with these events leads
from the state `s` of the node to the end `value` in the state `t`. Nothing is
said about the device, so a statement about all paths is a statement about all
behaviours of the radio. The readings of the clock are no events, so a path may
take any.

What a single action can do is said once, by `Action.does`. A path of a sequence
of two programs is a path of the first, followed by a path of the second, and
whatever a device runs to its end is a path. A program of a part of the state takes
the same paths within the whole.
-/

namespace Ranging

/-- The action may be answered with `answer`, while the state of the node goes
from `s` to `t`, and these are the events of it. -/
def Action.does {L ε σ : Type} :
    (action : Action L σ) → σ → action.Answer ε → List (Event L ε) → σ → Prop
  | .call request, s, answer, events, t => events = [.call request answer] ∧ t = s
  | .pause length, s, _, events, t => events = [.pause length] ∧ t = s
  | .log line, s, _, events, t => events = [.log line] ∧ t = s
  | .clock, s, _, events, t => events = [] ∧ t = s
  | .get, s, answer, events, t => answer = s ∧ events = [] ∧ t = s
  | .set state, _, _, events, t => events = [] ∧ t = state

namespace Program

/-- The program may end in `value`, with the given events and the state of the
node going from `s` to `t`. -/
def endsAlong {L ε σ α : Type} :
    Program L ε σ α → σ → List (Event L ε) → α → σ → Prop
  | .pure result, s, events, value, t => events = [] ∧ value = result ∧ t = s
  | .step action next, s, events, value, t =>
      ∃ answer first second u, events = first ++ second ∧ action.does s answer first u ∧
        endsAlong (next answer) u second value t

theorem endsAlong_call {L ε σ α : Type} (request : Request)
    (next : Except ε request.Answer → Program L ε σ α) (s : σ) (events : List (Event L ε))
    (value : α) (t : σ) :
    (Program.step (.call request) next).endsAlong s events value t ↔
      ∃ answer rest, events = .call request answer :: rest ∧
        (next answer).endsAlong s rest value t := by
  constructor
  · intro h
    obtain ⟨answer, _, rest, _, rfl, ⟨rfl, rfl⟩, h⟩ := h
    exact ⟨answer, rest, rfl, h⟩
  · intro h
    obtain ⟨answer, rest, rfl, h⟩ := h
    exact ⟨answer, [_], rest, s, rfl, ⟨rfl, rfl⟩, h⟩

theorem endsAlong_pause {L ε σ α : Type} (length : Pause)
    (next : Unit → Program L ε σ α) (s : σ) (events : List (Event L ε)) (value : α) (t : σ) :
    (Program.step (.pause length) next).endsAlong s events value t ↔
      ∃ rest, events = .pause length :: rest ∧ (next ()).endsAlong s rest value t := by
  constructor
  · intro h
    obtain ⟨_, _, rest, _, rfl, ⟨rfl, rfl⟩, h⟩ := h
    exact ⟨rest, rfl, h⟩
  · intro h
    obtain ⟨rest, rfl, h⟩ := h
    exact ⟨(), [_], rest, s, rfl, ⟨rfl, rfl⟩, h⟩

theorem endsAlong_log {L ε σ α : Type} (line : L)
    (next : Unit → Program L ε σ α) (s : σ) (events : List (Event L ε)) (value : α) (t : σ) :
    (Program.step (.log line) next).endsAlong s events value t ↔
      ∃ rest, events = .log line :: rest ∧ (next ()).endsAlong s rest value t := by
  constructor
  · intro h
    obtain ⟨_, _, rest, _, rfl, ⟨rfl, rfl⟩, h⟩ := h
    exact ⟨rest, rfl, h⟩
  · intro h
    obtain ⟨rest, rfl, h⟩ := h
    exact ⟨(), [_], rest, s, rfl, ⟨rfl, rfl⟩, h⟩

theorem endsAlong_get {L ε σ α : Type} (next : σ → Program L ε σ α) (s : σ)
    (events : List (Event L ε)) (value : α) (t : σ) :
    (Program.step .get next).endsAlong s events value t ↔
      (next s).endsAlong s events value t := by
  constructor
  · intro h
    obtain ⟨_, _, rest, _, rfl, ⟨rfl, rfl, rfl⟩, h⟩ := h
    exact h
  · intro h
    exact ⟨s, [], events, s, rfl, ⟨rfl, rfl, rfl⟩, h⟩

theorem endsAlong_set {L ε σ α : Type} (state : σ) (next : Unit → Program L ε σ α) (s : σ)
    (events : List (Event L ε)) (value : α) (t : σ) :
    (Program.step (.set state) next).endsAlong s events value t ↔
      (next ()).endsAlong state events value t := by
  constructor
  · intro h
    obtain ⟨_, _, rest, _, rfl, ⟨rfl, rfl⟩, h⟩ := h
    exact h
  · intro h
    exact ⟨(), [], events, state, rfl, ⟨rfl, rfl⟩, h⟩

theorem endsAlong_clock {L ε σ α : Type} (next : UInt32 → Program L ε σ α) (s : σ)
    (events : List (Event L ε)) (value : α) (t : σ) :
    (Program.step .clock next).endsAlong s events value t ↔
      ∃ now, (next now).endsAlong s events value t := by
  constructor
  · intro h
    obtain ⟨now, _, rest, _, rfl, ⟨rfl, rfl⟩, h⟩ := h
    exact ⟨now, h⟩
  · intro h
    obtain ⟨now, h⟩ := h
    exact ⟨now, [], events, s, rfl, ⟨rfl, rfl⟩, h⟩

/-- A path of a sequence of two programs splits where the first one ends. -/
theorem endsAlong_bind {L ε σ α β : Type} (program : Program L ε σ α)
    (rest : α → Program L ε σ β) (s : σ) (events : List (Event L ε)) (value : β) (t : σ) :
    (program >>= rest).endsAlong s events value t ↔
      ∃ first second middle u, events = first ++ second ∧
        program.endsAlong s first middle u ∧ (rest middle).endsAlong u second value t := by
  induction program generalizing s events with
  | pure result =>
      constructor
      · intro h
        exact ⟨[], events, result, s, rfl, ⟨rfl, rfl, rfl⟩, h⟩
      · intro h
        obtain ⟨first, second, middle, u, rfl, ⟨rfl, rfl, rfl⟩, h⟩ := h
        exact h
  | step action next ih =>
      rw [step_bind]
      constructor
      · intro h
        obtain ⟨answer, emitted, tail, v, rfl, hdoes, h⟩ := h
        obtain ⟨first, second, middle, u, rfl, hfirst, hsecond⟩ := (ih answer v tail).1 h
        exact ⟨emitted ++ first, second, middle, u, (List.append_assoc ..).symm,
          ⟨answer, emitted, first, v, rfl, hdoes, hfirst⟩, hsecond⟩
      · intro h
        obtain ⟨first, second, middle, u, rfl, ⟨answer, emitted, tail, v, rfl, hdoes, hfirst⟩,
          hsecond⟩ := h
        exact ⟨answer, emitted, tail ++ second, v, List.append_assoc .., hdoes,
          (ih answer v _).2 ⟨tail, second, middle, u, rfl, hfirst, hsecond⟩⟩

theorem endsAlong_map {L ε σ α β : Type} (f : α → β) (program : Program L ε σ α) (s : σ)
    (events : List (Event L ε)) (value : β) (t : σ) :
    (f <$> program).endsAlong s events value t ↔
      ∃ mapped, program.endsAlong s events mapped t ∧ value = f mapped := by
  rw [map_eq_pure_bind, endsAlong_bind]
  constructor
  · intro h
    obtain ⟨first, none, mapped, _, rfl, h, rfl, rfl, rfl⟩ := h
    rw [List.append_nil]
    exact ⟨mapped, h, rfl⟩
  · intro h
    obtain ⟨mapped, h, rfl⟩ := h
    exact ⟨events, [], mapped, t, (List.append_nil _).symm, h, rfl, rfl, rfl⟩

theorem endsAlong_logAll {L ε σ : Type} (lines : List L) (s : σ)
    (events : List (Event L ε)) (value : Unit) (t : σ) :
    (logAll lines).endsAlong s events value t ↔ events = lines.map .log ∧ t = s := by
  induction lines generalizing events with
  | nil => exact ⟨fun ⟨h, _, h'⟩ => ⟨h, h'⟩, fun ⟨h, h'⟩ => ⟨h, rfl, h'⟩⟩
  | cons line rest ih =>
      rw [logAll_cons, endsAlong_log]
      simp only [ih, List.map_cons]
      constructor
      · intro h
        obtain ⟨_, rfl, rfl, rfl⟩ := h
        exact ⟨rfl, rfl⟩
      · intro h
        obtain ⟨rfl, rfl⟩ := h
        exact ⟨_, rfl, rfl, rfl⟩

/-- `part` reads a component of a state, and `replace` puts another one in its place. -/
structure IsPart {σ τ : Type} (part : τ → σ) (replace : σ → τ → τ) : Prop where
  part_replace : ∀ s whole, part (replace s whole) = s
  replace_part : ∀ whole, replace (part whole) whole = whole
  replace_replace : ∀ s s' whole, replace s (replace s' whole) = replace s whole

/-- A program of a part of the state goes the way that it goes by itself, and leaves the
rest of the state as it is. -/
theorem endsAlong_zoom {L ε σ τ α : Type} {part : τ → σ} {replace : σ → τ → τ}
    (hpart : IsPart part replace) (program : Program L ε σ α) (whole : τ)
    (events : List (Event L ε)) (value : α) (final : τ) :
    (zoom part replace program).endsAlong whole events value final ↔
      ∃ t, program.endsAlong (part whole) events value t ∧ final = replace t whole := by
  induction program generalizing whole events with
  | pure result =>
      constructor
      · intro h
        obtain ⟨rfl, rfl, rfl⟩ := h
        exact ⟨part final, ⟨rfl, rfl, rfl⟩, (hpart.replace_part final).symm⟩
      · intro h
        obtain ⟨_, ⟨rfl, rfl, rfl⟩, rfl⟩ := h
        exact ⟨rfl, rfl, hpart.replace_part whole⟩
  | step action next ih =>
      cases action with
      | call request =>
          simp only [zoom, endsAlong_call, ih]
          constructor
          · intro h
            obtain ⟨answer, rest, rfl, t, h, rfl⟩ := h
            exact ⟨t, ⟨answer, rest, rfl, h⟩, rfl⟩
          · intro h
            obtain ⟨t, ⟨answer, rest, rfl, h⟩, rfl⟩ := h
            exact ⟨answer, rest, rfl, t, h, rfl⟩
      | pause length =>
          simp only [zoom, endsAlong_pause, ih, ← exists_and_left, ← exists_and_right, and_assoc]
          exact exists_comm
      | log line =>
          simp only [zoom, endsAlong_log, ih, ← exists_and_left, ← exists_and_right, and_assoc]
          exact exists_comm
      | clock =>
          simp only [zoom, endsAlong_clock, ih]
          exact exists_comm.trans (exists_congr fun t => exists_and_right)
      | get =>
          simp only [zoom, endsAlong_get, ih]
      | set state =>
          simp only [zoom, endsAlong_get, endsAlong_set, ih, hpart.part_replace,
            hpart.replace_replace]

end Program

namespace Device

/-- What a device performs is something that the action does. -/
theorem does_of_perform {L ε σ ρ : Type} (device : Device ε ρ) (world after : World L ε σ ρ)
    (action : Action L σ) (answer : action.Answer ε)
    (h : device.perform world action = some (answer, after)) :
    ∃ events, after.record = events.reverse ++ world.record ∧
      action.does world.state answer events after.state := by
  cases action with
  | call request =>
      rw [perform] at h
      split at h
      · cases h
        exact ⟨[_], rfl, rfl, rfl⟩
      · cases h
  | pause length =>
      cases h
      exact ⟨[_], rfl, rfl, rfl⟩
  | log line =>
      cases h
      exact ⟨[_], rfl, rfl, rfl⟩
  | clock =>
      rw [perform] at h
      split at h
      · cases h
        exact ⟨[], rfl, rfl, rfl⟩
      · cases h
  | get =>
      cases h
      exact ⟨[], rfl, rfl, rfl, rfl⟩
  | set state =>
      cases h
      exact ⟨[], rfl, rfl, rfl⟩

/-- What a device runs to its end is a path of the program. -/
theorem endsAlong_of_run {L ε σ ρ α : Type} (device : Device ε ρ) (program : Program L ε σ α)
    (world after : World L ε σ ρ) (value : α)
    (h : device.run program world = (some value, after)) :
    ∃ events, after.record = events.reverse ++ world.record ∧
      program.endsAlong world.state events value after.state := by
  induction program generalizing world with
  | pure result =>
      cases h
      exact ⟨[], rfl, rfl, rfl, rfl⟩
  | step action next ih =>
      rw [run_step] at h
      cases hperform : device.perform world action with
      | none =>
          rw [hperform] at h
          cases h
      | some result =>
          obtain ⟨answer, middle⟩ := result
          rw [hperform] at h
          obtain ⟨first, hfirst, hdoes⟩ :=
            device.does_of_perform world middle action answer hperform
          obtain ⟨second, hsecond, hpath⟩ := ih answer middle h
          refine ⟨first ++ second, ?_, answer, first, second, middle.state, rfl, hdoes, hpath⟩
          rw [hsecond, hfirst, List.reverse_append, List.append_assoc]

end Device

end Ranging
