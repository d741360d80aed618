import Ranging.Proofs.Run.Wait
import Ranging.Session.Exchange

/-!
# The steps of a session

How the small steps of which the exchanges are made end: reading the
configuration and the sequence number, going on to the next one, noting how far
the exchange has come, logging and waiting. None of them fails but the wait.
-/

namespace Ranging

namespace Session

variable {F ε α : Type}

theorem ends_getConfig_bind (rest : Config → SessionAttempt F ε α) (s : Session)
    (events : List (Event (Line F) ε)) (result : Except (Error ε) α) (t : Session) :
    (getConfig >>= rest).ends s events result t ↔ (rest s.config).ends s events result t := by
  rw [getConfig, Attempt.ends, Attempt.run_lift_bind, Program.bind_assoc, Program.getState_bind,
    Program.endsAlong_get]
  rfl

theorem ends_getSeq_bind (rest : UInt8 → SessionAttempt F ε α) (s : Session)
    (events : List (Event (Line F) ε)) (result : Except (Error ε) α) (t : Session) :
    (getSeq >>= rest).ends s events result t ↔ (rest s.seq).ends s events result t := by
  rw [getSeq, Attempt.ends, Attempt.run_lift_bind, Program.bind_assoc, Program.getState_bind,
    Program.endsAlong_get]
  rfl

theorem ends_advanceSeq_bind (rest : Unit → SessionAttempt F ε α) (s : Session)
    (events : List (Event (Line F) ε)) (result : Except (Error ε) α) (t : Session) :
    (advanceSeq >>= rest).ends s events result t ↔
      (rest ()).ends { s with seq := s.seq + 1 } events result t := by
  rw [advanceSeq, Attempt.ends, Attempt.run_lift_bind, Program.modifyState_bind,
    Program.endsAlong_get, Program.endsAlong_set]
  rfl

theorem ends_enter_bind (state : ExchangeState) (rest : Unit → SessionAttempt F ε α) (s : Session)
    (events : List (Event (Line F) ε)) (result : Except (Error ε) α) (t : Session) :
    (enter state >>= rest).ends s events result t ↔
      (rest ()).ends { s with state := state } events result t := by
  rw [enter, Attempt.ends, Attempt.run_lift_bind, Program.modifyState_bind,
    Program.endsAlong_get, Program.endsAlong_set]
  rfl

theorem ends_log_bind (line : Line F) (rest : Unit → SessionAttempt F ε α) (s : Session)
    (events : List (Event (Line F) ε)) (result : Except (Error ε) α) (t : Session) :
    (log line >>= rest).ends s events result t ↔
      ∃ tail, events = .log line :: tail ∧ (rest ()).ends s tail result t := by
  rw [log, Attempt.ends, Attempt.run_lift_bind, Program.log_bind, Program.endsAlong_log]
  rfl

theorem ends_takeSeq_bind (rest : UInt8 → SessionAttempt F ε α) (s : Session)
    (events : List (Event (Line F) ε)) (result : Except (Error ε) α) (t : Session) :
    (takeSeq >>= rest).ends s events result t ↔
      (rest s.seq).ends { s with seq := s.seq + 1 } events result t := by
  rw [takeSeq, bind_assoc, ends_getSeq_bind, bind_assoc, ends_advanceSeq_bind, pure_bind]

theorem ends_advanceSeq (s : Session) (events : List (Event (Line F) ε))
    (result : Except (Error ε) Unit) (t : Session) :
    (advanceSeq : SessionAttempt F ε Unit).ends s events result t ↔
      events = [] ∧ result = .ok () ∧ t = { s with seq := s.seq + 1 } := by
  rw [← bind_pure advanceSeq, ends_advanceSeq_bind]
  rfl

theorem ends_enter (state : ExchangeState) (s : Session) (events : List (Event (Line F) ε))
    (result : Except (Error ε) Unit) (t : Session) :
    (enter state : SessionAttempt F ε Unit).ends s events result t ↔
      events = [] ∧ result = .ok () ∧ t = { s with state := state } := by
  rw [← bind_pure (enter state), ends_enter_bind]
  rfl

end Session

end Ranging
