import Ranging.Proofs.Run.Outcome

/-!
# Fail-stop attempts

An attempt is `failStop` if a failed request is the last of its events and the
error of that request its result. The property passes from the parts of a sequence
to the whole.
-/

namespace Ranging

namespace Attempt

variable {L ε σ α β : Type}

/-- Every failed request ends the attempt at once, with its error. -/
def failStop (attempt : Attempt L ε σ α) : Prop :=
  ∀ s events result t, attempt.ends s events result t →
    ((∀ event ∈ events, event.succeeds) ∧ ∀ cause, result ≠ .error (.radio cause)) ∨
      ∃ before request cause, events = before ++ [.call request (.error cause)] ∧
        (∀ event ∈ before, event.succeeds) ∧ result = .error (.radio cause)

theorem failStop_ask (request : Request) (read : request.Answer → α) :
    (ask request read : Attempt L ε σ α).failStop := by
  intro s events result t h
  rw [ends_ask] at h
  rcases h with ⟨cause, rfl, rfl, -⟩ | ⟨answer, rfl, rfl, -⟩
  · exact .inr ⟨[], request, cause, rfl, fun event hmem => absurd hmem List.not_mem_nil, rfl⟩
  · refine .inl ⟨?_, nofun⟩
    intro event hmem
    rw [List.mem_singleton.1 hmem]
    exact Event.succeeds_ok _ _

theorem failStop_bind (attempt : Attempt L ε σ α) (rest : α → Attempt L ε σ β)
    (hattempt : attempt.failStop) (hrest : ∀ x, (rest x).failStop) :
    (attempt >>= rest).failStop := by
  intro s events result t h
  rw [ends_bind] at h
  rcases h with ⟨e, hfirst, rfl⟩ | ⟨first, second, x, u, rfl, hfirst, hsecond⟩
  · rcases hattempt s events _ t hfirst with ⟨hall, hne⟩ | ⟨before, request, cause, hstop⟩
    · exact .inl ⟨hall, fun cause h => hne cause (congrArg _ (Except.error.inj h))⟩
    · obtain ⟨rfl, hbefore, he⟩ := hstop
      exact .inr ⟨before, request, cause, rfl, hbefore, congrArg _ (Except.error.inj he)⟩
  · have hall : ∀ event ∈ first, event.succeeds := by
      rcases hattempt s first _ u hfirst with ⟨hall, -⟩ | ⟨_, _, _, -, -, he⟩
      · exact hall
      · cases he
    rcases hrest x u second result t hsecond with ⟨hrest, hne⟩ | ⟨before, request, cause, hstop⟩
    · refine .inl ⟨?_, hne⟩
      intro event hmem
      exact (List.mem_append.1 hmem).elim (hall event) (hrest event)
    · obtain ⟨rfl, hbefore, he⟩ := hstop
      refine .inr ⟨first ++ before, request, cause, (List.append_assoc ..).symm, ?_, he⟩
      intro event hmem
      exact (List.mem_append.1 hmem).elim (hall event) (hbefore event)

/-- All requests of a fail-stop attempt that ends well have succeeded. -/
theorem failStop.succeeds_of_ok {attempt : Attempt L ε σ α} (hstop : attempt.failStop) {s : σ}
    {events : List (Event L ε)} {value : α} {t : σ} (h : attempt.ends s events (.ok value) t) :
    ∀ event ∈ events, event.succeeds := by
  rcases hstop s events _ t h with ⟨hall, -⟩ | ⟨_, _, _, -, -, he⟩
  · exact hall
  · cases he

/-- Nothing follows a failed request of a fail-stop attempt, which ends with its error. -/
theorem failStop.stops {attempt : Attempt L ε σ α} (hstop : attempt.failStop) {s : σ}
    {before after : List (Event L ε)} {request : Request} {cause : ε}
    {result : Except (Error ε) α} {t : σ}
    (h : attempt.ends s (before ++ .call request (.error cause) :: after) result t) :
    after = [] ∧ result = .error (.radio cause) := by
  have hmem : .call request (.error cause) ∈ before ++ .call request (.error cause) :: after :=
    List.mem_append_right _ List.mem_cons_self
  rcases hstop s _ result t h with ⟨hall, -⟩ | ⟨first, asked, other, hevents, hfirst, he⟩
  · exact absurd (hall _ hmem) (Event.not_succeeds_error _ _)
  rcases List.eq_nil_or_concat after with rfl | ⟨init, last, rfl⟩
  · obtain ⟨-, hlast⟩ := List.append_inj' hevents rfl
    cases hlast
    exact ⟨rfl, he⟩
  · -- Were there a later event, the failed request would stand among those that succeeded.
    rw [List.concat_eq_append, ← List.cons_append, ← List.append_assoc] at hevents
    obtain ⟨rfl, -⟩ := List.append_inj' hevents rfl
    exact absurd (hfirst _ (List.mem_append_right _ List.mem_cons_self))
      (Event.not_succeeds_error _ _)

end Attempt

end Ranging
