import Ranging.Proofs.Run.Radio
import Ranging.Proofs.Session.Composition

/-!
# Exchanges and the cleaning up after them

Whatever an exchange comes to, the session is idle after it and the cleaning up
is begun. `resultAfter` says which of the two results is returned: an error of
the exchange, then an error of the cleaning up, then the value.
-/

namespace Ranging

namespace Session

variable {F ε α : Type}

/-- The result of an exchange with the given result, after cleaning up with another. -/
def resultAfter : Except (Error ε) α → Except (Error ε) Unit → Except (Error ε) α
  | .error error, _ => .error error
  | .ok _, .error error => .error error
  | .ok value, .ok _ => .ok value

/-- The events of a cleaning up in which nothing fails. -/
def cleanUpEvents {L : Type} : List (Event L ε) :=
  [.call (.clearStatus (Status.receiveDone ||| Status.sent)) (.ok ()),
    .call .resetReceiver (.ok ())]

@[simp] theorem statusesRead_cleanUpEvents {L : Type} :
    statusesRead (cleanUpEvents : List (Event L ε)) = [] := by
  simp [cleanUpEvents]

/-- What follows an exchange with the given result. -/
def settle (outcome : Except (Error ε) α) : SessionProgram F ε (Except (Error ε) α) := do
  Program.modifyState fun session => { session with state := .idle }
  let cleaned ← cleanUp.run
  return resultAfter outcome cleaned

theorem run_finishing (body : SessionAttempt F ε α) :
    (finishing body).run = body.run >>= fun outcome => settle outcome := by
  have hresult : ∀ outcome : Except (Error ε) α, ∀ cleaned : Except (Error ε) Unit,
      (match outcome, cleaned with
        | .error error, _ => pure (.error error)
        | .ok _, .error error => pure (.error error)
        | .ok value, .ok _ => pure (.ok value) : SessionProgram F ε (Except (Error ε) α)) =
        pure (resultAfter outcome cleaned) := by
    intro outcome cleaned
    cases outcome <;> cases cleaned <;> rfl
  simp only [settle, ← hresult]
  rfl

/-- What follows an exchange is its cleaning up, in an idle session. -/
theorem endsAlong_settle (outcome : Except (Error ε) α) (s : Session)
    (events : List (Event (Line F) ε)) (result : Except (Error ε) α) (t : Session) :
    (settle outcome).endsAlong s events result t ↔
      ∃ cleaned, cleanUp.ends { s with state := .idle } events cleaned t ∧
        result = resultAfter outcome cleaned := by
  rw [settle, Program.modifyState_bind, Program.endsAlong_get, Program.endsAlong_set,
    Program.endsAlong_bind]
  constructor
  · intro h
    obtain ⟨first, _, cleaned, t, rfl, hclean, rfl, rfl, rfl⟩ := h
    rw [List.append_nil]
    exact ⟨cleaned, hclean, rfl⟩
  · intro h
    obtain ⟨cleaned, hclean, rfl⟩ := h
    exact ⟨events, [], cleaned, t, (List.append_nil events).symm, hclean, rfl, rfl, rfl⟩

/-- An exchange is followed by its cleaning up, in an idle session. -/
theorem ends_finishing (body : SessionAttempt F ε α) (s : Session)
    (events : List (Event (Line F) ε)) (result : Except (Error ε) α) (t : Session) :
    (finishing body).ends s events result t ↔
      ∃ first second outcome cleaned u, events = first ++ second ∧ body.ends s first outcome u ∧
        cleanUp.ends { u with state := .idle } second cleaned t ∧
        result = resultAfter outcome cleaned := by
  rw [Attempt.ends, run_finishing, Program.endsAlong_bind]
  simp only [endsAlong_settle]
  constructor
  · intro h
    obtain ⟨first, second, outcome, u, rfl, hbody, cleaned, hclean, rfl⟩ := h
    exact ⟨first, second, outcome, cleaned, u, rfl, hbody, hclean, rfl⟩
  · intro h
    obtain ⟨first, second, outcome, cleaned, u, rfl, hbody, hclean, rfl⟩ := h
    exact ⟨first, second, outcome, u, rfl, hbody, cleaned, hclean, rfl⟩

theorem config_finishing (body : SessionAttempt F ε α) (hbody : MadeOf (fun _ => True) body)
    (s : Session) (events : List (Event (Line F) ε)) (result : Except (Error ε) α) (t : Session)
    (h : (finishing body).ends s events result t) : t.config = s.config := by
  obtain ⟨first, second, outcome, cleaned, u, -, hends, hclean, -⟩ :=
    (ends_finishing _ _ _ _ _).1 h
  rw [madeOf_cleanUp.config_eq _ _ _ _ hclean]
  exact hbody.config_eq s first outcome u hends

theorem ends_cleanUp_ok (s : Session) (events : List (Event (Line F) ε)) (t : Session)
    (h : cleanUp.ends s events (.ok ()) t) : events = cleanUpEvents ∧ t = s := by
  rw [cleanUp, Attempt.clearStatus, Attempt.ends_ask_bind_ok] at h
  obtain ⟨_, _, rfl, h⟩ := h
  rw [Attempt.resetReceiver, Attempt.ends_ask_ok] at h
  obtain ⟨_, rfl, -, rfl⟩ := h
  exact ⟨rfl, rfl⟩

/-- If nothing fails while cleaning up, the cleaning up is complete. -/
theorem eq_ok_of_ends_cleanUp (s : Session) (events : List (Event (Line F) ε))
    (cleaned : Except (Error ε) Unit) (t : Session) (h : cleanUp.ends s events cleaned t)
    (hall : ∀ event ∈ events, event.succeeds) : cleaned = .ok () := by
  cases cleaned with
  | ok _ => rfl
  | error e =>
      have hrefuses : Attempt.refuses cleanUp s events e t := ⟨h, hall⟩
      rw [cleanUp, Attempt.clearStatus, Attempt.refuses_ask_bind] at hrefuses
      obtain ⟨_, _, -, hrefuses⟩ := hrefuses
      exact absurd hrefuses (Attempt.not_refuses_ask _ _ _ _ _ _)

theorem ends_finishing_ok (body : SessionAttempt F ε α) (s : Session)
    (events : List (Event (Line F) ε)) (value : α) (t : Session)
    (h : (finishing body).ends s events (.ok value) t) :
    ∃ first u, events = first ++ cleanUpEvents ∧ body.ends s first (.ok value) u ∧
      t = { u with state := .idle } := by
  rw [ends_finishing] at h
  obtain ⟨first, second, outcome, cleaned, u, rfl, hbody, hclean, hresult⟩ := h
  cases outcome with
  | error e => cases hresult
  | ok outcome =>
      cases cleaned with
      | error e => cases hresult
      | ok _ =>
          cases hresult
          obtain ⟨rfl, rfl⟩ := ends_cleanUp_ok _ second t hclean
          exact ⟨first, u, rfl, hbody, rfl⟩

theorem refuses_finishing (body : SessionAttempt F ε α) (s : Session)
    (events : List (Event (Line F) ε)) (error : Error ε) (t : Session)
    (h : (finishing body).refuses s events error t) :
    ∃ first u, events = first ++ cleanUpEvents ∧ body.refuses s first error u ∧
      t = { u with state := .idle } := by
  obtain ⟨h, hall⟩ := h
  rw [ends_finishing] at h
  obtain ⟨first, second, outcome, cleaned, u, rfl, hbody, hclean, hresult⟩ := h
  have hsecond : ∀ event ∈ second, event.succeeds :=
    fun event hmem => hall event (List.mem_append_right _ hmem)
  cases eq_ok_of_ends_cleanUp _ second cleaned t hclean hsecond
  obtain ⟨rfl, rfl⟩ := ends_cleanUp_ok _ second t hclean
  cases outcome with
  | ok value => cases hresult
  | error e =>
      cases hresult
      have hfirst : ∀ event ∈ first, event.succeeds :=
        fun event hmem => hall event (List.mem_append_left _ hmem)
      exact ⟨first, u, rfl, ⟨hbody, hfirst⟩, rfl⟩

/-- An exchange of which a request fails, cleaning up included, does not end well. -/
theorem succeeds_of_ends_finishing_ok (body : SessionAttempt F ε α) (hbody : body.failStop)
    (s : Session) (events : List (Event (Line F) ε)) (value : α) (t : Session)
    (h : (finishing body).ends s events (.ok value) t) : ∀ event ∈ events, event.succeeds := by
  obtain ⟨first, u, rfl, hends, -⟩ := ends_finishing_ok body s events value t h
  intro event hmem
  rcases List.mem_append.1 hmem with hmem | hmem
  · exact hbody.succeeds_of_ok hends event hmem
  · rcases List.mem_cons.1 hmem with rfl | hmem
    · exact Event.succeeds_ok _ _
    · rw [List.mem_singleton.1 hmem]
      exact Event.succeeds_ok _ _

/-- A single-sided node carries out the exchange of an initiator, then cleans up. -/
theorem ends_initiate [Scalar F] (target : UInt16) (s : Session)
    (events : List (Event (Line F) ε)) (result : Except (Error ε) F) (t : Session)
    (hscheme : s.config.scheme = .singleSided) :
    (initiate target).ends s events result t ↔
      (finishing (Initiator.exchange target)).ends s events result t := by
  rw [initiate, ends_finishing, ends_finishing]
  simp only [ends_getConfig_bind, hscheme, initiateIn]

/-- A single-sided node carries out the exchange of a responder, then cleans up. -/
theorem ends_respond (s : Session) (events : List (Event (Line F) ε))
    (result : Except (Error ε) Reply) (t : Session) (hscheme : s.config.scheme = .singleSided) :
    respond.ends s events result t ↔
      (finishing Responder.exchange).ends s events result t := by
  rw [respond, ends_finishing, ends_finishing]
  simp only [ends_getConfig_bind, hscheme, respondIn]

end Session

namespace Radio

variable {F ε ρ : Type}

/-- What comes of a session that ranges with a node, on a radio. -/
def initiate [Scalar F] (radio : Radio ε ρ) (start : ρ) (s : Session) (target : UInt16) :
    Run (Line F) ε Session (Except (Error ε) F) :=
  radio.run (Session.initiate target).run s start

/-- What comes of a session that answers a Poll, on a radio. -/
def respond (radio : Radio ε ρ) (start : ρ) (s : Session) :
    Run (Line F) ε Session (Except (Error ε) Reply) :=
  radio.run Session.respond.run s start

theorem ends_initiate [Scalar F] (radio : Radio ε ρ) (start : ρ) (s : Session) (target : UInt16)
    (hscheme : s.config.scheme = .singleSided) :
    (Session.finishing (Initiator.exchange target : SessionAttempt F ε F)).ends s
      (radio.initiate start s target).events (radio.initiate start s target).value
      (radio.initiate (F := F) start s target).state := by
  rw [← Session.ends_initiate target s _ _ _ hscheme]
  exact radio.endsAlong_run _ s start

theorem ends_respond (radio : Radio ε ρ) (start : ρ) (s : Session)
    (hscheme : s.config.scheme = .singleSided) :
    (Session.finishing (Responder.exchange : SessionAttempt F ε Reply)).ends s
      (radio.respond start s).events (radio.respond (F := F) start s).value
      (radio.respond (F := F) start s).state := by
  rw [← Session.ends_respond s _ _ _ hscheme]
  exact radio.endsAlong_run _ s start

end Radio

end Ranging
