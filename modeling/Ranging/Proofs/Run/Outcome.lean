import Ranging.Proofs.Run.Events
import Ranging.Proofs.Run.Path
import Ranging.Radio.Attempt

/-!
# Outcomes of an attempt

An attempt `ends` in a result, a value or an error, along a path of its program.
An attempt that ends in an error although all its requests succeeded was turned
down by the node itself; that is `refuses`. The rules below take an attempt
apart at its first request, or where its first part ends.
-/

namespace Ranging

namespace Attempt

variable {L ε σ α β : Type}

/-- The attempt may end in `result`, with the given events and the state of the
node going from `s` to `t`. -/
def ends (attempt : Attempt L ε σ α) (s : σ) (events : List (Event L ε))
    (result : Except (Error ε) α) (t : σ) : Prop :=
  Program.endsAlong attempt.run s events result t

/-- The attempt may end in an error without any of its requests failing. -/
def refuses (attempt : Attempt L ε σ α) (s : σ) (events : List (Event L ε))
    (error : Error ε) (t : σ) : Prop :=
  attempt.ends s events (.error error) t ∧ ∀ event ∈ events, event.succeeds

theorem ends_pure (x : α) (s : σ) (events : List (Event L ε)) (result : Except (Error ε) α)
    (t : σ) : (pure x : Attempt L ε σ α).ends s events result t ↔
      events = [] ∧ result = .ok x ∧ t = s := Iff.rfl

theorem ends_throw (e : Error ε) (s : σ) (events : List (Event L ε))
    (result : Except (Error ε) α) (t : σ) :
    (throw e : Attempt L ε σ α).ends s events result t ↔
      events = [] ∧ result = .error e ∧ t = s := Iff.rfl

theorem not_refuses_pure (x : α) (s : σ) (events : List (Event L ε)) (error : Error ε) (t : σ) :
    ¬(pure x : Attempt L ε σ α).refuses s events error t := by
  rw [refuses, ends_pure]
  intro h
  obtain ⟨⟨-, h, -⟩, -⟩ := h
  cases h

theorem refuses_throw (e : Error ε) (s : σ) (events : List (Event L ε)) (error : Error ε)
    (t : σ) : (throw e : Attempt L ε σ α).refuses s events error t ↔
      events = [] ∧ error = e ∧ t = s := by
  rw [refuses, ends_throw, Except.error.injEq]
  constructor
  · intro h
    obtain ⟨h, -⟩ := h
    exact h
  · intro h
    obtain ⟨rfl, h⟩ := h
    exact ⟨⟨rfl, h⟩, fun event hmem => absurd hmem List.not_mem_nil⟩

/-! ## Sequences -/

/-- An attempt ends where its first part fails, or where its second part ends
after the first. -/
theorem ends_bind (attempt : Attempt L ε σ α) (rest : α → Attempt L ε σ β) (s : σ)
    (events : List (Event L ε)) (result : Except (Error ε) β) (t : σ) :
    (attempt >>= rest).ends s events result t ↔
      (∃ e, attempt.ends s events (.error e) t ∧ result = .error e) ∨
        ∃ first second x u, events = first ++ second ∧ attempt.ends s first (.ok x) u ∧
          (rest x).ends u second result t := by
  rw [ends, ExceptT.run_bind, Program.endsAlong_bind]
  constructor
  · intro h
    obtain ⟨first, second, middle, u, rfl, hfirst, hsecond⟩ := h
    cases middle with
    | ok x => exact .inr ⟨first, second, x, u, rfl, hfirst, hsecond⟩
    | error e =>
        obtain ⟨rfl, rfl, rfl⟩ := hsecond
        rw [List.append_nil]
        exact .inl ⟨e, hfirst, rfl⟩
  · intro h
    rcases h with ⟨e, h, rfl⟩ | ⟨first, second, x, u, rfl, hfirst, hsecond⟩
    · exact ⟨events, [], .error e, t, (List.append_nil _).symm, h, rfl, rfl, rfl⟩
    · exact ⟨first, second, .ok x, u, rfl, hfirst, hsecond⟩

theorem ends_bind_ok (attempt : Attempt L ε σ α) (rest : α → Attempt L ε σ β) (s : σ)
    (events : List (Event L ε)) (value : β) (t : σ) :
    (attempt >>= rest).ends s events (.ok value) t ↔
      ∃ first second x u, events = first ++ second ∧ attempt.ends s first (.ok x) u ∧
        (rest x).ends u second (.ok value) t := by
  rw [ends_bind]
  constructor
  · intro h
    rcases h with ⟨e, -, h⟩ | h
    · cases h
    · exact h
  · exact .inr

theorem refuses_bind (attempt : Attempt L ε σ α) (rest : α → Attempt L ε σ β) (s : σ)
    (events : List (Event L ε)) (error : Error ε) (t : σ)
    (h : (attempt >>= rest).refuses s events error t) :
    attempt.refuses s events error t ∨
      ∃ first second x u, events = first ++ second ∧ attempt.ends s first (.ok x) u ∧
        (rest x).refuses u second error t := by
  obtain ⟨hfails, hall⟩ := h
  rw [ends_bind] at hfails
  rcases hfails with ⟨e, hfirst, he⟩ | ⟨first, second, x, u, rfl, hfirst, hsecond⟩
  · cases he
    exact .inl ⟨hfirst, hall⟩
  · exact .inr ⟨first, second, x, u, rfl, hfirst, hsecond,
      fun event hmem => hall event (List.mem_append_right _ hmem)⟩

/-! ## Requests -/

theorem ends_ask_bind (request : Request) (read : request.Answer → α)
    (rest : α → Attempt L ε σ β) (s : σ) (events : List (Event L ε))
    (result : Except (Error ε) β) (t : σ) :
    (ask request read >>= rest).ends s events result t ↔
      (∃ cause, events = [.call request (.error cause)] ∧ result = .error (.radio cause) ∧
        t = s) ∨
        ∃ answer tail, events = .call request (.ok answer) :: tail ∧
          (rest (read answer)).ends s tail result t := by
  rw [ends, run_ask_bind, Program.endsAlong_call]
  constructor
  · intro h
    obtain ⟨answer, tail, rfl, h⟩ := h
    cases answer with
    | ok answer => exact .inr ⟨answer, tail, rfl, h⟩
    | error cause =>
        obtain ⟨rfl, rfl, rfl⟩ := h
        exact .inl ⟨cause, rfl, rfl, rfl⟩
  · intro h
    rcases h with ⟨cause, rfl, rfl, rfl⟩ | ⟨answer, tail, rfl, h⟩
    · exact ⟨.error cause, [], rfl, rfl, rfl, rfl⟩
    · exact ⟨.ok answer, tail, rfl, h⟩

theorem ends_ask (request : Request) (read : request.Answer → α) (s : σ)
    (events : List (Event L ε)) (result : Except (Error ε) α) (t : σ) :
    (ask request read : Attempt L ε σ α).ends s events result t ↔
      (∃ cause, events = [.call request (.error cause)] ∧ result = .error (.radio cause) ∧
        t = s) ∨
        ∃ answer, events = [.call request (.ok answer)] ∧ result = .ok (read answer) ∧ t = s := by
  rw [← bind_pure (ask request read), ends_ask_bind]
  constructor
  · intro h
    rcases h with h | ⟨answer, tail, rfl, rfl, rfl, rfl⟩
    · exact .inl h
    · exact .inr ⟨answer, rfl, rfl, rfl⟩
  · intro h
    rcases h with h | ⟨answer, rfl, rfl, rfl⟩
    · exact .inl h
    · exact .inr ⟨answer, [], rfl, rfl, rfl, rfl⟩

theorem ends_ask_bind_ok (request : Request) (read : request.Answer → α)
    (rest : α → Attempt L ε σ β) (s : σ) (events : List (Event L ε)) (value : β) (t : σ) :
    (ask request read >>= rest).ends s events (.ok value) t ↔
      ∃ answer tail, events = .call request (.ok answer) :: tail ∧
        (rest (read answer)).ends s tail (.ok value) t := by
  rw [ends_ask_bind]
  constructor
  · intro h
    rcases h with ⟨cause, -, h, -⟩ | h
    · cases h
    · exact h
  · exact .inr

theorem ends_ask_ok (request : Request) (read : request.Answer → α) (s : σ)
    (events : List (Event L ε)) (value : α) (t : σ) :
    (ask request read : Attempt L ε σ α).ends s events (.ok value) t ↔
      ∃ answer, events = [.call request (.ok answer)] ∧ value = read answer ∧ t = s := by
  rw [ends_ask]
  constructor
  · intro h
    rcases h with ⟨cause, -, h, -⟩ | ⟨answer, rfl, h, rfl⟩
    · cases h
    · cases h
      exact ⟨answer, rfl, rfl, rfl⟩
  · intro h
    obtain ⟨answer, rfl, rfl, rfl⟩ := h
    exact .inr ⟨answer, rfl, rfl, rfl⟩

theorem refuses_ask_bind (request : Request) (read : request.Answer → α)
    (rest : α → Attempt L ε σ β) (s : σ) (events : List (Event L ε)) (error : Error ε) (t : σ) :
    (ask request read >>= rest).refuses s events error t ↔
      ∃ answer tail, events = .call request (.ok answer) :: tail ∧
        (rest (read answer)).refuses s tail error t := by
  rw [refuses, ends_ask_bind]
  constructor
  · intro h
    obtain ⟨⟨cause, rfl, -⟩ | ⟨answer, tail, rfl, h⟩, hall⟩ := h
    · exact absurd (hall _ (List.mem_singleton_self _)) (Event.not_succeeds_error _ _)
    · exact ⟨answer, tail, rfl, h, fun event hmem => hall event (List.mem_cons_of_mem _ hmem)⟩
  · intro h
    obtain ⟨answer, tail, rfl, h, hall⟩ := h
    refine ⟨.inr ⟨answer, tail, rfl, h⟩, ?_⟩
    intro event hmem
    rcases List.mem_cons.1 hmem with rfl | hmem
    · exact Event.succeeds_ok _ _
    · exact hall event hmem

theorem not_refuses_ask (request : Request) (read : request.Answer → α) (s : σ)
    (events : List (Event L ε)) (error : Error ε) (t : σ) :
    ¬(ask request read : Attempt L ε σ α).refuses s events error t := by
  rw [← bind_pure (ask request read), refuses_ask_bind]
  intro h
  obtain ⟨answer, tail, -, h⟩ := h
  exact not_refuses_pure _ _ _ _ _ h

/-! ## Pauses and the state -/

theorem ends_pause_bind (length : Pause) (rest : Unit → Attempt L ε σ β) (s : σ)
    (events : List (Event L ε)) (result : Except (Error ε) β) (t : σ) :
    (lift (.step (.pause length) .pure) >>= rest).ends s events result t ↔
      ∃ tail, events = .pause length :: tail ∧ (rest ()).ends s tail result t := by
  rw [ends, run_lift_bind, Program.step_bind, Program.endsAlong_pause]
  rfl

theorem ends_getState_bind (rest : σ → Attempt L ε σ β) (s : σ) (events : List (Event L ε))
    (result : Except (Error ε) β) (t : σ) :
    (lift Program.getState >>= rest).ends s events result t ↔
      (rest s).ends s events result t := by
  rw [ends, run_lift_bind, Program.getState_bind, Program.endsAlong_get]
  rfl

end Attempt

end Ranging
