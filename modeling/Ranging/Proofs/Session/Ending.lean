import Mathlib
import Ranging.Proofs.Run.Sequence
import Ranging.Proofs.Session.CleanUp

/-!
# How every exchange ends

In either role and in either scheme, an exchange on a radio is what its body does on
that radio, followed by the cleaning up. `EndsAfter` says how the two go together:
nothing of the body follows a request that fails, the failure that came first is the
one reported, and the session is idle with the configuration that it had.

The cleaning up stops at its first failure too. The receiver is therefore reset
after an exchange unless the clearing of the flags before it fails; then it is not.
-/

namespace Ranging

/-- The clearing of the flags that an exchange may have left, as it was answered. -/
def clearEvent {L ε : Type} (answer : Except ε Unit) : Event L ε :=
  .call (.clearStatus (Status.receiveDone ||| Status.sent)) answer

/-- The reset of the receiver, as it was answered. -/
def resetEvent {L ε : Type} (answer : Except ε Unit) : Event L ε :=
  .call .resetReceiver answer

/-- What a cleaning up can come to, with the cause of its failure if there is one. -/
inductive CleanUpOutcome {L ε : Type} : List (Event L ε) → Option ε → Prop where
  /-- The flags were cleared and the receiver was reset. -/
  | complete : CleanUpOutcome [clearEvent (.ok ()), resetEvent (.ok ())] none
  /-- The receiver could not be reset. -/
  | unreset (cause : ε) :
      CleanUpOutcome [clearEvent (.ok ()), resetEvent (.error cause)] (some cause)
  /-- The flags could not be cleared, and the receiver was left as it was. -/
  | uncleared (cause : ε) : CleanUpOutcome [clearEvent (.error cause)] (some cause)

namespace Session

variable {F ε α : Type}

/-- A cleaning up leaves the session as it is. -/
theorem outcome_cleanUp (s : Session) (events : List (Event (Line F) ε))
    (cleaned : Except (Error ε) Unit) (t : Session) (h : cleanUp.ends s events cleaned t) :
    t = s ∧ ∃ failure, CleanUpOutcome events failure ∧
      cleaned = failure.elim (.ok ()) fun cause => .error (.radio cause) := by
  rw [cleanUp, Attempt.clearStatus, Attempt.ends_ask_bind] at h
  rcases h with ⟨cause, rfl, rfl, rfl⟩ | ⟨_, tail, rfl, h⟩
  · exact ⟨rfl, some cause, .uncleared cause, rfl⟩
  rw [Attempt.resetReceiver, Attempt.ends_ask] at h
  rcases h with ⟨cause, rfl, rfl, rfl⟩ | ⟨_, rfl, rfl, rfl⟩
  · exact ⟨rfl, some cause, .unreset cause, rfl⟩
  · exact ⟨rfl, none, .complete, rfl⟩

theorem idle_finishing (body : SessionAttempt F ε α) (s : Session)
    (events : List (Event (Line F) ε)) (result : Except (Error ε) α) (t : Session)
    (h : (finishing body).ends s events result t) : t.state = .idle := by
  obtain ⟨first, second, outcome, cleaned, u, -, -, hclean, -⟩ := (ends_finishing _ _ _ _ _).1 h
  obtain ⟨rfl, -⟩ := outcome_cleanUp _ _ _ _ hclean
  rfl

/-- How an exchange ends whose body came to `body`, when the cleaning up has left these
events and failed for this cause, if it did. -/
structure EndsAfter (s : Session) (body whole : Run (Line F) ε Session (Except (Error ε) α))
    (cleaning : List (Event (Line F) ε)) (failure : Option ε) : Prop where
  /-- After the body there is nothing but the cleaning up. -/
  events_eq : whole.events = body.events ++ cleaning
  cleaned : CleanUpOutcome cleaning failure
  /-- A request of the body that fails is its last event, and the cause is reported. -/
  stops : ∀ before request cause after,
    body.events = before ++ .call request (.error cause) :: after →
      after = [] ∧ whole.value = .error (.radio cause)
  /-- An error of the body is reported, even if the cleaning up fails. -/
  error_kept : ∀ error, body.value = .error error → whole.value = .error error
  /-- A failure of the cleaning up after a body that ended well is reported. -/
  failure_reported : ∀ value cause, body.value = .ok value → failure = some cause →
    whole.value = .error (.radio cause)
  value_kept : ∀ value, body.value = .ok value → failure = none → whole.value = .ok value
  idle : whole.state.state = .idle
  config_eq : whole.state.config = s.config

/-- The receiver was reset after the last event of the body of an exchange. -/
def ResetsReceiver (body whole : Run (Line F) ε Session (Except (Error ε) α)) : Prop :=
  ∃ cleaning answer, whole.events = body.events ++ cleaning ∧ resetEvent answer ∈ cleaning

/-- The receiver is reset after an exchange unless the flags could not be cleared. -/
theorem EndsAfter.resetsReceiver_iff {s : Session}
    {body whole : Run (Line F) ε Session (Except (Error ε) α)}
    {cleaning : List (Event (Line F) ε)} {failure : Option ε}
    (h : EndsAfter s body whole cleaning failure) :
    ResetsReceiver body whole ↔
      ∀ cause, whole.events ≠ body.events ++ [clearEvent (.error cause)] := by
  have hreset : ResetsReceiver body whole ↔ ∃ answer, resetEvent answer ∈ cleaning := by
    rw [ResetsReceiver, h.events_eq]
    constructor
    · intro hreset
      obtain ⟨other, answer, hother, hmem⟩ := hreset
      cases List.append_cancel_left hother
      exact ⟨answer, hmem⟩
    · intro hreset
      obtain ⟨answer, hmem⟩ := hreset
      exact ⟨cleaning, answer, rfl, hmem⟩
  simp only [hreset, h.events_eq, ne_eq, List.append_cancel_left_eq]
  cases h.cleaned with
  | complete => exact iff_of_true ⟨.ok (), by simp⟩ nofun
  | unreset cause => exact iff_of_true ⟨.error cause, by simp⟩ nofun
  | uncleared cause =>
      refine iff_of_false ?_ fun hne => hne cause rfl
      intro hreset
      obtain ⟨answer, hmem⟩ := hreset
      cases List.mem_singleton.1 hmem

end Session

namespace Radio

variable {F ε ρ α : Type}

theorem run_getConfig_bind (radio : Radio ε ρ) (rest : Config → SessionAttempt F ε α)
    (s : Session) (start : ρ) :
    radio.run (Session.getConfig >>= rest).run s start = radio.run (rest s.config).run s start :=
  rfl

/-- On a radio, an exchange does what its body does, and is then cleaned up after. -/
theorem run_finishing (radio : Radio ε ρ) (body : SessionAttempt F ε α) (s : Session)
    (start : ρ) :
    ∃ cleaning cleaned,
      (radio.run (Session.finishing body).run s start).events =
        (radio.run body.run s start).events ++ cleaning ∧
      Session.cleanUp.ends { (radio.run body.run s start).state with state := .idle } cleaning
        cleaned (radio.run (Session.finishing body).run s start).state ∧
      (radio.run (Session.finishing body).run s start).value =
        Session.resultAfter (radio.run body.run s start).value cleaned := by
  have hpath := radio.endsAlong_run
    (Session.settle (radio.run body.run s start).value : SessionProgram F ε _)
    (radio.run body.run s start).state (radio.after body.run s start)
  obtain ⟨cleaned, hclean, hvalue⟩ := (Session.endsAlong_settle _ _ _ _ _).1 hpath
  rw [Session.run_finishing, run_bind]
  exact ⟨_, cleaned, rfl, hclean, hvalue⟩

/-- Whatever an exchange is made of, it ends as it should. -/
theorem endsAfter_finishing (radio : Radio ε ρ) (body : SessionAttempt F ε α)
    (hbody : Session.MadeOf (fun _ => True) body) (s : Session) (start : ρ) :
    ∃ cleaning failure, Session.EndsAfter s (radio.run body.run s start)
      (radio.run (Session.finishing body).run s start) cleaning failure := by
  obtain ⟨cleaning, cleaned, hevents, hclean, hvalue⟩ := radio.run_finishing body s start
  obtain ⟨hstate, failure, houtcome, rfl⟩ := Session.outcome_cleanUp _ _ _ _ hclean
  have hpath := radio.endsAlong_run body.run s start
  have hconfig := hbody.config_eq s _ _ _ hpath
  have herror : ∀ error, (radio.run body.run s start).value = .error error →
      (radio.run (Session.finishing body).run s start).value = .error error := by
    intro error h
    rw [hvalue, h]
    rfl
  refine ⟨cleaning, failure, hevents, houtcome, ?_, herror, ?_, ?_, ?_, ?_⟩
  · intro before request cause after hfailed
    rw [hfailed] at hpath
    obtain ⟨hafter, hstop⟩ := hbody.failStop.stops hpath
    exact ⟨hafter, herror _ hstop⟩
  · intro value cause h hfailure
    rw [hvalue, h, hfailure]
    rfl
  · intro value h hfailure
    rw [hvalue, h, hfailure]
    rfl
  · rw [hstate]
  · rw [hstate]
    exact hconfig

/-- How the exchange of an initiator ends, in either scheme. -/
theorem endsAfter_initiate [Scalar F] (radio : Radio ε ρ) (start : ρ) (s : Session)
    (target : UInt16) :
    ∃ cleaning failure, Session.EndsAfter s
      (radio.run (Session.initiateIn target s.config.scheme : SessionAttempt F ε F).run s start)
      (radio.initiate start s target) cleaning failure := by
  rw [← radio.run_getConfig_bind fun config =>
    (Session.initiateIn target config.scheme : SessionAttempt F ε F)]
  refine radio.endsAfter_finishing _ ?_ s start
  exact .bind _ _ (.step _ Session.internal_getConfig) fun _ => Session.madeOf_initiateIn _ _

/-- How the exchange of a responder ends, in either scheme. -/
theorem endsAfter_respond (radio : Radio ε ρ) (start : ρ) (s : Session) :
    ∃ cleaning failure, Session.EndsAfter s
      (radio.run (Session.respondIn s.config.scheme : SessionAttempt F ε Reply).run s start)
      (radio.respond start s) cleaning failure := by
  rw [← radio.run_getConfig_bind fun config =>
    (Session.respondIn config.scheme : SessionAttempt F ε Reply)]
  refine radio.endsAfter_finishing _ ?_ s start
  exact .bind _ _ (.step _ Session.internal_getConfig) fun _ => Session.madeOf_respondIn _

/-- The radio on which the request with a number, counted from zero, fails. -/
def failingAt (radio : Radio ε ρ) (number : Nat) (cause : ε) : Radio ε (ρ × Nat) where
  answer request state :=
    if state.2 = number then (.error cause, (state.1, state.2 + 1))
    else
      let answered := radio.answer request state.1
      (answered.1, (answered.2, state.2 + 1))
  elapse length state := (radio.elapse length state.1, state.2)
  clock state :=
    let read := radio.clock state.1
    (read.1, (read.2, state.2))

end Radio

/-- Whatever the radio does, an exchange stops at its first failure and reports it, and
leaves an idle session with its configuration. -/
theorem exchange_reports_first_failure {F ε ρ : Type} [Scalar F] (radio : Radio ε ρ) (start : ρ)
    (s : Session) :
    (∀ target, ∃ cleaning failure, Session.EndsAfter s
      (radio.run (Session.initiateIn target s.config.scheme : SessionAttempt F ε F).run s start)
      (radio.initiate start s target) cleaning failure) ∧
    ∃ cleaning failure, Session.EndsAfter s
      (radio.run (Session.respondIn s.config.scheme : SessionAttempt F ε Reply).run s start)
      (radio.respond start s) cleaning failure :=
  ⟨radio.endsAfter_initiate start s, radio.endsAfter_respond start s⟩

/-- Whatever the radio does, the receiver is reset after the body of an exchange, unless the
clearing of the flags that follows the body fails. -/
theorem receiver_reset_unless_uncleared {F ε ρ : Type} [Scalar F] (radio : Radio ε ρ) (start : ρ)
    (s : Session) :
    (∀ target,
      let body := radio.run (Session.initiateIn target s.config.scheme : SessionAttempt F ε F).run
        s start
      let whole := radio.initiate (F := F) start s target
      Session.ResetsReceiver body whole ↔
        ∀ cause, whole.events ≠ body.events ++ [clearEvent (.error cause)]) ∧
    let body := radio.run (Session.respondIn s.config.scheme : SessionAttempt F ε Reply).run
      s start
    let whole := radio.respond (F := F) start s
    Session.ResetsReceiver body whole ↔
      ∀ cause, whole.events ≠ body.events ++ [clearEvent (.error cause)] := by
  refine ⟨fun target => ?_, ?_⟩
  · obtain ⟨_, _, hends⟩ := radio.endsAfter_initiate (F := F) start s target
    exact hends.resetsReceiver_iff
  · obtain ⟨_, _, hends⟩ := radio.endsAfter_respond (F := F) start s
    exact hends.resetsReceiver_iff

/-- A session that has not answered a Poll yet. -/
def sampleSession : Session := Session.fresh (Config.standard Config.defaultPan 1)

/-- A radio that receives an empty frame. The clearing of the flags after the exchange is
its seventh request, which fails. -/
def sampleRadio : Radio String (Unit × Nat) :=
  (Radio.prompt [] ⟨0⟩ ⟨0⟩).failingAt 6 "clear_status"

/-- A receiver whose flags could not be cleared is not reset. -/
theorem not_resetsReceiver_sample : ¬Session.ResetsReceiver
    (sampleRadio.run (Session.respondIn sampleSession.config.scheme :
      SessionAttempt Rat String Reply).run sampleSession ((), 0))
    (sampleRadio.respond ((), 0) sampleSession) := by
  have hwhole : (sampleRadio.respond (F := Rat) ((), 0) sampleSession).events =
      (sampleRadio.run (Session.respondIn sampleSession.config.scheme :
        SessionAttempt Rat String Reply).run sampleSession ((), 0)).events ++
        [clearEvent (.error "clear_status")] := by
    cbv
  obtain ⟨_, _, hends⟩ := sampleRadio.endsAfter_respond (F := Rat) ((), 0) sampleSession
  intro hreset
  exact hends.resetsReceiver_iff.1 hreset "clear_status" hwhole

end Ranging
